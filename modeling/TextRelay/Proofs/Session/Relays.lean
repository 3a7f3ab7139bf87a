import TextRelay.Inbound
import TextRelay.Outbound

/-!
# What the relays make of what they are given

The steps of the two relays, taken apart by what was received, taken or answered. The inbound relay
is taken with a sink that never breaks down: then only the end of the stream, or its failure, ends
the relay.
-/

namespace TextRelay

/-- The sink may refuse texts, but never breaks down over one. -/
def Sink.NeverBreaks (s : Sink) : Prop := ∀ n text, s.verdict n text ≠ .broke

namespace Sink

@[simp] theorem display_fst (s : Sink) (text : String) :
    (s.display text).1 = s.verdict s.offered.length text := by
  unfold display
  dsimp only
  split <;> simp_all

@[simp] theorem display_verdict (s : Sink) (text : String) :
    (s.display text).2.verdict = s.verdict := by
  unfold display
  dsimp only
  split <;> rfl

@[simp] theorem display_offered (s : Sink) (text : String) :
    (s.display text).2.offered = s.offered ++ [text] := by
  unfold display
  dsimp only
  split <;> rfl

theorem NeverBreaks.of_verdict {s s' : Sink} (hs : s.NeverBreaks)
    (hverdict : s'.verdict = s.verdict) : s'.NeverBreaks := by
  intro n text
  rw [hverdict]
  exact hs n text

end Sink

namespace Inbound

variable {r : Inbound}

theorem exit?_of_leaving {exit : Exit} (hphase : r.phase = .leaving exit) :
    r.exit? = some exit := by
  simp [exit?, hphase]

theorem exit?_of_gone {exit : Exit} (hphase : r.phase = .gone exit) : r.exit? = some exit := by
  simp [exit?, hphase]

/-- A chunk is counted and shown, and the relay goes on. -/
theorem handle_chunk (hsink : r.sink.NeverBreaks) {chunk : Bytes}
    (hphase : r.phase = .handling (.ok chunk)) (hne : chunk ≠ []) (shuttingDown : Bool) :
    (r.handle shuttingDown).1 = { r with
      bytes := r.bytes + chunk.length
      sink := (r.sink.display (Chunk.shown chunk)).2
      phase := .receiving } := by
  obtain ⟨byte, rest, rfl⟩ := List.exists_cons_of_ne_nil hne
  have hverdict := hsink r.sink.offered.length (Chunk.shown (byte :: rest))
  rw [← Sink.display_fst] at hverdict
  simp only [handle, hphase, showChunk]
  split
  · next sink hshown => rw [hshown]
  · next fault sink hshown => rw [hshown]
  · next sink hshown =>
    rw [hshown] at hverdict
    exact absurd rfl hverdict

/-- A chunk is offered to the sink, which may break down over it. -/
theorem offered_handle {byte : UInt8} {rest : Bytes}
    (hphase : r.phase = .handling (.ok (byte :: rest))) (shuttingDown : Bool) :
    (r.handle shuttingDown).1.sink.offered = r.sink.offered ++ [Chunk.shown (byte :: rest)] ∧
      ((r.handle shuttingDown).1.phase = .receiving ∨
        (r.handle shuttingDown).1.phase = .leaving (.panicked .inbound)) := by
  have hoffered := r.sink.display_offered (Chunk.shown (byte :: rest))
  simp only [handle, hphase, showChunk]
  split
  · next hshown =>
    rw [hshown] at hoffered
    exact ⟨hoffered, .inl rfl⟩
  · next hshown =>
    rw [hshown] at hoffered
    exact ⟨hoffered, .inl rfl⟩
  · next hshown =>
    rw [hshown] at hoffered
    exact ⟨hoffered, .inr rfl⟩

/-- At the end of the stream the relay stops, cancelled if the session is shutting down. -/
theorem handle_end (hphase : r.phase = .handling (.ok [])) (shuttingDown : Bool) :
    (r.handle shuttingDown).1 = { r with
      phase := .leaving
        ⟨.inbound, if shuttingDown then .cancelled else .peerClosed, r.bytes⟩ } := by
  simp only [handle, hphase, endOfStream]
  cases shuttingDown <;> rfl

/-- The exit of a relay that is done and has reported. -/
def gone? (r : Inbound) : Option Exit :=
  match r.phase with
  | .gone exit => some exit
  | _ => none

theorem gone?_eq_some_iff {exit : Exit} : r.gone? = some exit ↔ r.phase = .gone exit := by
  unfold gone?
  cases r.phase <;> simp

theorem exit?_of_gone? {exit : Exit} (hgone : r.gone? = some exit) : r.exit? = some exit :=
  exit?_of_gone (gone?_eq_some_iff.1 hgone)

/-- Dealing with a receipt reports nothing. -/
@[simp] theorem gone?_handle (r : Inbound) (shuttingDown : Bool) :
    (r.handle shuttingDown).1.gone? = r.gone? := by
  unfold handle
  split
  · next hphase =>
    simp only [endOfStream]
    split <;> simp [gone?, leave, hphase]
  · next hphase =>
    simp only [showChunk]
    split <;> simp [gone?, hphase]
  · next hphase =>
    split
    · simp [gone?, hphase]
    · simp [failedStream, gone?, leave, hphase]
  · rfl

@[simp] theorem handle_bufferSize (r : Inbound) (shuttingDown : Bool) :
    (r.handle shuttingDown).1.bufferSize = r.bufferSize := by
  unfold handle
  split
  · simp only [endOfStream]
    split <;> rfl
  · simp only [showChunk]
    split <;> rfl
  · split <;> rfl
  · rfl

end Inbound

namespace Outbound

variable {r : Outbound} {line : String}

/-! ## Lines going out -/

/-- The sentinel is the last line of a relay. -/
theorem complete_sentinel (hline : line = r.sentinel) :
    (r.complete line).1 = { r with
      bytes := r.bytes + (Line.encode line).length
      phase := .leaving ⟨.outbound, .localSentinel, r.bytes + (Line.encode line).length⟩ } := by
  subst hline
  simp [complete, Line.isSentinel, leave]

theorem complete_line (hline : line ≠ r.sentinel) :
    (r.complete line).1 = { r with
      bytes := r.bytes + (Line.encode line).length
      phase := .waiting } := by
  simp [complete, Line.isSentinel, hline]

/-- An empty line is out as soon as it is looked at. -/
theorem check_empty (hphase : r.phase = .holding line) (hempty : Line.encode line = []) :
    (r.check false).1 = (r.complete line).1 := by
  simp [check, hphase, deliver, Delivery.isDone, hempty]

theorem check_line (hphase : r.phase = .holding line) (hne : Line.encode line ≠ []) :
    (r.check false).1 = { r with phase := .sending line { data := Line.encode line } } := by
  simp [check, hphase, deliver, Delivery.isDone, hne]

/-- A line that is taken in one call is out. -/
theorem answer_all (hphase : r.phase = .sending line { data := Line.encode line })
    (hne : Line.encode line ≠ []) :
    (r.answer (.ok (Line.encode line).length)).1 = (r.complete line).1 := by
  obtain ⟨n, hn⟩ := Nat.exists_eq_succ_of_ne_zero (fun h => hne (List.length_eq_zero_iff.1 h))
  have hfeed : Delivery.feed { data := Line.encode line } (.ok (Line.encode line).length) =
      .ok { data := Line.encode line, written := (Line.encode line).length } := by
    rw [hn]
    simp [Delivery.feed]
  simp [answer, hphase, hfeed, deliver, Delivery.isDone]

/-! ## Exits -/

theorem exit?_of_leaving {exit : Exit} (hphase : r.phase = .leaving exit) :
    r.exit? = some exit := by
  simp [exit?, hphase]

/-- The exit of a relay that is done and has reported. -/
def gone? (r : Outbound) : Option Exit :=
  match r.phase with
  | .gone exit => some exit
  | _ => none

theorem gone?_eq_some_iff {exit : Exit} : r.gone? = some exit ↔ r.phase = .gone exit := by
  unfold gone?
  cases r.phase <;> simp

theorem exit?_of_gone? {exit : Exit} (hgone : r.gone? = some exit) : r.exit? = some exit := by
  simp [exit?, gone?_eq_some_iff.1 hgone]

@[simp] theorem gone?_leave (r : Outbound) (cause : Cause) : (r.leave cause).1.gone? = none := rfl

@[simp] theorem gone?_take (r : Outbound) (event : InputEvent) :
    (r.take event).1.gone? = none := by
  cases event <;> rfl

@[simp] theorem gone?_deliver (r : Outbound) (line : String) (d : Delivery) :
    (r.deliver line d).1.gone? = none := by
  unfold deliver complete
  split
  · dsimp only
    split <;> rfl
  · rfl

@[simp] theorem gone?_check (r : Outbound) (shuttingDown : Bool) :
    (r.check shuttingDown).1.gone? = r.gone? := by
  unfold check
  split
  · next hphase =>
    have hgone : r.gone? = none := by simp [gone?, hphase]
    rw [hgone]
    split
    · rfl
    · exact gone?_deliver _ _ _
  · rfl

@[simp] theorem gone?_answer (r : Outbound) (result : Except Fault Nat) :
    (r.answer result).1.gone? = r.gone? := by
  unfold answer
  split
  · next hphase =>
    have hgone : r.gone? = none := by simp [gone?, hphase]
    rw [hgone]
    split
    · exact gone?_deliver _ _ _
    · rfl
  · rfl

@[simp] theorem gone?_judge (r : Outbound) (shuttingDown : Bool) :
    (r.judge shuttingDown).1.gone? = r.gone? := by
  unfold judge
  split
  · next hphase => simp [gone?, leave, hphase]
  · rfl

end Outbound

end TextRelay
