import TextRelay.Proofs.Pipe.Pieces
import TextRelay.Proofs.Session.Relays

/-!
# What the inbound relay makes of a stream

The inbound relay over a stream whose answers are written down beforehand. `ReceiveScript.Receives`
says what receive calls bring, without the relay: chunks, and in the end no chunk. The relay shows
the chunks, counts them, and leaves for the reason that the last call gave (`runFor_of_receives`).
Nothing that is not brought by the stream has a say in this, so neither has the sink.

An interrupted call is made again. To say that it leaves no trace, what lies ahead of a reader is
listed with one entry for each call (`upcoming`), and read once more with interruptions passed over
(`streamResult`).
-/

namespace TextRelay

/-! ## What a stream brings -/

namespace ReceiveScript

/-- Receive calls with a buffer of `size` bytes bring some chunks, up to the first call that brings
no chunk and was not interrupted: there the stream has ended, or has failed. -/
inductive Receives (size : Nat) :
    ReceiveScript → List Bytes → Except Fault Unit → ReceiveScript → Prop where
  | chunk {s s₁ s' : ReceiveScript} {chunk : Bytes} {chunks : List Bytes}
      {ending : Except Fault Unit} (hne : chunk ≠ []) (h : s.receive size = (.ok chunk, s₁))
      (hrest : Receives size s₁ chunks ending s') : Receives size s (chunk :: chunks) ending s'
  | interrupted {s s₁ s' : ReceiveScript} {fault : Fault} {chunks : List Bytes}
      {ending : Except Fault Unit} (hkind : fault.kind = .interrupted)
      (h : s.receive size = (.error fault, s₁)) (hrest : Receives size s₁ chunks ending s') :
      Receives size s chunks ending s'
  | ended {s s' : ReceiveScript} (h : s.receive size = (.ok [], s')) :
      Receives size s [] (.ok ()) s'
  | failed {s s' : ReceiveScript} {fault : Fault} (hkind : fault.kind ≠ .interrupted)
      (h : s.receive size = (.error fault, s')) : Receives size s [] (.error fault) s'

variable {size : Nat} {s s' : ReceiveScript}

/-! ## One call -/

section call

variable {rest : List ReceiveStep} {tripped : Bool} {buffers : List Nat}

theorem receive_kept (hkept : s.kept ≠ []) : s.receive size =
    (.ok (s.kept.take size),
      { s with kept := s.kept.drop size, buffers := s.buffers ++ [size] }) := by
  rw [receive, if_neg]
  simpa using hkept

theorem receive_nil : receive ⟨[], [], tripped, buffers⟩ size =
    (.ok [], ⟨[], [], tripped, buffers ++ [size]⟩) := by
  simp [receive, answer]

theorem receive_data (bytes : Bytes) : receive ⟨.data bytes :: rest, [], tripped, buffers⟩ size =
    (.ok (bytes.take size), ⟨rest, bytes.drop size, tripped, buffers ++ [size]⟩) := rfl

theorem receive_fail (fault : Fault) : receive ⟨.fail fault :: rest, [], tripped, buffers⟩ size =
    (.error fault, ⟨rest, [], tripped, buffers ++ [size]⟩) := rfl

end call

end ReceiveScript

/-! ## What lies ahead -/

/-- What a step comes to for calls with a buffer of `size` bytes: one entry for each call. -/
def ReceiveStep.parts (size : Nat) : ReceiveStep → List ReceiveStep
  | .data bytes => if bytes = [] then [.data []] else (cut size bytes).map .data
  | step => [step]

namespace ReceiveScript

variable {size : Nat} {s s' : ReceiveScript}

/-- What calls with a buffer of `size` bytes are going to meet, one entry for each. -/
def upcoming (size : Nat) (s : ReceiveScript) : List ReceiveStep :=
  (cut size s.kept).map .data ++ s.steps.flatMap (·.parts size)

theorem upcoming_fresh (steps : List ReceiveStep) (tripped : Bool) (buffers : List Nat) :
    upcoming size ⟨steps, [], tripped, buffers⟩ = steps.flatMap (·.parts size) := by
  rw [upcoming, cut_nil]
  rfl

/-- What comes of a stream by the time it is over. -/
structure StreamResult where
  chunks : List Bytes
  ending : Except Fault Unit
  tripped : Bool

/-- What comes of a stream from a call on, by its receipt and what comes after it. -/
def StreamResult.ofReceipt (receipt : Except Fault Bytes) (later : Bool → StreamResult)
    (tripped : Bool) : StreamResult :=
  match receipt with
  | .ok chunk =>
    if chunk = [] then ⟨[], .ok (), tripped⟩
    else { later tripped with chunks := chunk :: (later tripped).chunks }
  | .error fault =>
    if fault.kind = .interrupted then later tripped else ⟨[], .error fault, tripped⟩

def streamResult : List ReceiveStep → Bool → StreamResult
  | [] => fun tripped => ⟨[], .ok (), tripped⟩
  | .data chunk :: rest => .ofReceipt (.ok chunk) (streamResult rest)
  | .fail fault :: rest => .ofReceipt (.error fault) (streamResult rest)
  | .trip :: rest => fun _ => streamResult rest true

theorem streamResult_cut (hsize : 0 < size) {bytes : Bytes} (hbytes : bytes ≠ [])
    (later : List ReceiveStep) :
    streamResult ((cut size bytes).map .data ++ later) =
      .ofReceipt (.ok (bytes.take size))
        (streamResult ((cut size (bytes.drop size)).map .data ++ later)) := by
  rw [cut_of_ne hsize hbytes, List.map_cons, List.cons_append, streamResult]

/-- **Each call takes the first of what lies ahead.** -/
theorem streamResult_receive (hsize : 0 < size) {receipt : Except Fault Bytes}
    (h : s.receive size = (receipt, s')) :
    streamResult (s.upcoming size) s.tripped =
      .ofReceipt receipt (streamResult (s'.upcoming size)) s'.tripped := by
  obtain ⟨steps, kept, tripped, buffers⟩ := s
  by_cases hkept : kept = []
  · subst hkept
    induction steps generalizing tripped with
    | nil =>
      rw [receive_nil] at h
      cases h
      rw [upcoming_fresh]
      rfl
    | cons step rest ih =>
      cases step with
      | data bytes =>
        rw [receive_data] at h
        cases h
        rw [upcoming_fresh, List.flatMap_cons, ReceiveStep.parts]
        by_cases hbytes : bytes = []
        · rw [hbytes, if_pos rfl, List.take_nil]
          rfl
        · rw [if_neg hbytes, streamResult_cut hsize hbytes]
          rfl
      | fail fault =>
        rw [receive_fail] at h
        cases h
        rw [upcoming_fresh, upcoming_fresh]
        rfl
      | trip =>
        have htripped := ih true h
        rw [upcoming_fresh] at htripped ⊢
        exact htripped
  · rw [receive_kept hkept] at h
    cases h
    rw [upcoming, streamResult_cut hsize hkept]
    rfl

/-- What is brought can be read off what lies ahead. -/
theorem Receives.streamResult_eq (hsize : 0 < size) {chunks : List Bytes}
    {ending : Except Fault Unit} (hs : s.Receives size chunks ending s') :
    streamResult (s.upcoming size) s.tripped = ⟨chunks, ending, s'.tripped⟩ := by
  induction hs with
  | chunk hne h _ ih => rw [streamResult_receive hsize h, StreamResult.ofReceipt, if_neg hne, ih]
  | interrupted hkind h _ ih =>
    rw [streamResult_receive hsize h, StreamResult.ofReceipt, if_pos hkind, ih]
  | ended h => rw [streamResult_receive hsize h, StreamResult.ofReceipt, if_pos rfl]
  | failed hkind h => rw [streamResult_receive hsize h, StreamResult.ofReceipt, if_neg hkind]

end ReceiveScript

def ReceiveStep.isInterruption : ReceiveStep → Bool
  | .fail fault => fault.kind = .interrupted
  | _ => false

namespace ReceiveScript

/-- Interruptions are passed over. -/
theorem streamResult_filter (steps : List ReceiveStep) :
    streamResult (steps.filter (!·.isInterruption)) = streamResult steps := by
  induction steps with
  | nil => rfl
  | cons step rest ih =>
    cases step with
    | data chunk =>
      rw [List.filter_cons_of_pos rfl, streamResult, streamResult, ih]
    | fail fault =>
      by_cases hkind : fault.kind = .interrupted
      · rw [List.filter_cons_of_neg (by simp [ReceiveStep.isInterruption, hkind]), ih, streamResult]
        funext tripped
        rw [StreamResult.ofReceipt, if_pos hkind]
      · rw [List.filter_cons_of_pos (by simp [ReceiveStep.isInterruption, hkind]), streamResult,
          streamResult, ih]
    | trip =>
      rw [List.filter_cons_of_pos rfl, streamResult, streamResult, ih]

end ReceiveScript

/-! ## The relay -/

/-- Offers texts to a sink one after another. -/
def Sink.displayAll (s : Sink) (texts : List String) : Sink :=
  texts.foldl (fun s text => (s.display text).2) s

theorem Sink.displayAll_offered (s : Sink) (texts : List String) :
    (s.displayAll texts).offered = s.offered ++ texts := by
  induction texts generalizing s with
  | nil => exact (List.append_nil _).symm
  | cons text rest ih =>
    rw [displayAll, List.foldl_cons]
    exact (ih _).trans (by rw [display_offered, List.append_assoc, List.singleton_append])

namespace Inbound

variable {r : Inbound} {s s' : ReceiveScript}

/-- Why the relay leaves when the stream is over. -/
def causeOf (ending : Except Fault Unit) (shuttingDown : Bool) : Cause :=
  match ending with
  | .ok () => if shuttingDown then .cancelled else .peerClosed
  | .error fault => .transport fault.kind (.classify fault.kind shuttingDown)

theorem handle_interrupted {fault : Fault} (hkind : fault.kind = .interrupted)
    (shuttingDown : Bool) : ((r.receive (.error fault)).handle shuttingDown).1 =
      { r with phase := .receiving } := by
  simp [handle, receive, hkind]

theorem handle_failed {fault : Fault} (hkind : fault.kind ≠ .interrupted) (shuttingDown : Bool) :
    ((r.receive (.error fault)).handle shuttingDown).1 = { r with
      phase := .leaving
        ⟨.inbound, .transport fault.kind (.classify fault.kind shuttingDown), r.bytes⟩ } := by
  simp [handle, receive, hkind, failedStream, leave]

/-- The relay after a stream that has brought some chunks and then come to an end. -/
def done (r : Inbound) (chunks : List Bytes) (ending : Except Fault Unit) (shuttingDown : Bool) :
    Inbound :=
  { r with
    bytes := r.bytes + chunks.flatten.length
    sink := r.sink.displayAll (chunks.map Chunk.shown)
    phase := .leaving
      ⟨.inbound, causeOf ending shuttingDown, r.bytes + chunks.flatten.length⟩ }

theorem done_cons (r : Inbound) (chunk : Bytes) (chunks : List Bytes)
    (ending : Except Fault Unit) (shuttingDown : Bool) :
    done { r with
        bytes := r.bytes + chunk.length
        sink := (r.sink.display (Chunk.shown chunk)).2
        phase := .receiving } chunks ending shuttingDown =
      r.done (chunk :: chunks) ending shuttingDown := by
  simp only [done, List.flatten_cons, List.length_append, Nat.add_assoc]
  rfl

theorem runFor_of_leaving {exit : Exit} (hphase : r.phase = .leaving exit) (fuel : Nat) :
    runFor fuel s r = (s, r, []) := by
  cases fuel with
  | zero => rfl
  | succ fuel => simp [runFor, hphase]

/-- A call that does not find the stream at its end leaves fewer calls to make. -/
theorem callBound_receive {size : Nat} (hsize : 0 < size) {receipt : Except Fault Bytes}
    (h : s.receive size = (receipt, s')) (hreceipt : receipt ≠ .ok []) :
    callBound s' < callBound s := by
  unfold callBound
  obtain ⟨steps, kept, tripped, buffers⟩ := s
  by_cases hkept : kept = []
  · subst hkept
    induction steps generalizing tripped with
    | nil =>
      rw [ReceiveScript.receive_nil] at h
      cases h
      exact absurd rfl hreceipt
    | cons step rest ih =>
      cases step with
      | data bytes =>
        rw [ReceiveScript.receive_data] at h
        cases h
        simp only [List.flatMap_cons, ReceiveStep.bytes, List.length_append, List.length_drop,
          List.length_cons, List.length_nil]
        omega
      | fail fault =>
        rw [ReceiveScript.receive_fail] at h
        cases h
        simp only [List.flatMap_cons, ReceiveStep.bytes, List.length_append, List.length_cons]
        omega
      | trip =>
        have hless := ih true h
        simp only [List.flatMap_cons, ReceiveStep.bytes, List.length_append, List.length_cons]
          at hless ⊢
        omega
  · rw [ReceiveScript.receive_kept hkept] at h
    cases h
    have hpos := List.length_pos_iff.2 hkept
    simp only [List.length_drop]
    omega

/-- Every stream is over after some calls. -/
theorem exists_receives {size : Nat} (hsize : 0 < size) (s : ReceiveScript) :
    ∃ chunks ending s', s.Receives size chunks ending s' := by
  induction hbound : callBound s using Nat.strongRecOn generalizing s with
  | ind bound ih =>
    subst hbound
    obtain ⟨⟨receipt, s₁⟩, hreceive⟩ : ∃ call, s.receive size = call := ⟨_, rfl⟩
    match receipt with
    | .ok [] => exact ⟨[], .ok (), s₁, .ended hreceive⟩
    | .ok (byte :: rest) =>
      obtain ⟨chunks, ending, s', hrest⟩ :=
        ih _ (callBound_receive hsize hreceive (by simp)) s₁ rfl
      exact ⟨_, ending, s', .chunk (by simp) hreceive hrest⟩
    | .error fault =>
      by_cases hkind : fault.kind = .interrupted
      · obtain ⟨chunks, ending, s', hrest⟩ :=
          ih _ (callBound_receive hsize hreceive (by simp)) s₁ rfl
        exact ⟨chunks, ending, s', .interrupted hkind hreceive hrest⟩
      · exact ⟨[], .error fault, s₁, .failed hkind hreceive⟩

theorem runFor_succ (hphase : r.phase = .receiving) {receipt : Except Fault Bytes}
    {s₁ : ReceiveScript} (h : s.receive r.bufferSize = (receipt, s₁)) {r₁ r' : Inbound}
    (hhandle : ((r.receive receipt).handle s₁.tripped).1 = r₁) {fuel : Nat}
    (hrest : ∃ log, runFor fuel s₁ r₁ = (s', r', log)) :
    ∃ log, runFor (fuel + 1) s r = (s', r', log) := by
  obtain ⟨log, hrest⟩ := hrest
  subst hhandle
  simp only [runFor, hphase, h, hrest]
  exact ⟨_, rfl⟩

/-- **The relay makes calls until the stream is over, and makes of them what they bring.** -/
theorem runFor_of_receives {size : Nat} (hsize : 0 < size) {chunks : List Bytes}
    {ending : Except Fault Unit} (hs : s.Receives size chunks ending s') {fuel : Nat}
    (hfuel : callBound s ≤ fuel) (hbuffer : r.bufferSize = size) (hsink : r.sink.NeverBreaks)
    (hphase : r.phase = .receiving) :
    ∃ log, runFor fuel s r = (s', r.done chunks ending s'.tripped, log) := by
  induction hs generalizing r fuel with
  | @chunk s s₁ s' chunk chunks ending hne h hrest ih =>
    have hless := callBound_receive hsize h fun heq => hne (Except.ok.inj heq)
    cases fuel with
    | zero => omega
    | succ fuel =>
      refine runFor_succ hphase (hbuffer ▸ h)
        (handle_chunk (r := r.receive (.ok chunk)) hsink rfl hne _) ?_
      rw [← done_cons]
      exact ih (by omega) hbuffer (hsink.of_verdict (Sink.display_verdict _ _)) rfl
  | @interrupted s s₁ s' fault chunks ending hkind h hrest ih =>
    have hless := callBound_receive hsize h (by simp)
    cases fuel with
    | zero => omega
    | succ fuel =>
      refine runFor_succ hphase (hbuffer ▸ h) (handle_interrupted hkind _) ?_
      exact ih (r := { r with phase := .receiving }) (by omega) hbuffer hsink rfl
  | ended h =>
    cases fuel with
    | zero => simp [callBound] at hfuel
    | succ fuel =>
      refine runFor_succ hphase (hbuffer ▸ h) (handle_end rfl _) ?_
      exact ⟨[], runFor_of_leaving rfl fuel⟩
  | failed hkind h =>
    cases fuel with
    | zero => simp [callBound] at hfuel
    | succ fuel =>
      refine runFor_succ hphase (hbuffer ▸ h) (handle_failed hkind _) ?_
      exact ⟨[], runFor_of_leaving rfl fuel⟩

section run

variable {sink : Sink} {chunkSize : Nat} {chunks : List Bytes} {ending : Except Fault Unit}

theorem run_of_receives (hsink : sink.NeverBreaks) (hbuffer : chunkSize ≤ maxBuffer) (peer : String)
    (hs : s.Receives (max chunkSize 1) chunks ending s') :
    ∃ log, run s (start peer sink chunkSize) =
      (s', (start peer sink chunkSize).done chunks ending s'.tripped, log) := by
  have hfits : max chunkSize 1 ≤ maxBuffer := Nat.max_le.2 ⟨hbuffer, by decide⟩
  have hphase : (start peer sink chunkSize).phase = .receiving := if_pos hfits
  exact runFor_of_receives (Nat.le_max_right _ _) hs (Nat.le_refl _) rfl hsink hphase

/-- **The relay shows and counts what its stream brings, and leaves when the stream is over.** Every
chunk is offered to the sink once, in order, as its text or else as its lossy text; the count is
that of the received bytes; and the relay leaves at the first call that brings no chunk and was not
interrupted, with the cause that the signal gives to it at that moment. Neither the exit nor the
calls depend on which texts the sink refuses, and interruptions leave no trace in the exit or in
the sink, wherever they come. -/
theorem run_follows_stream (hsink : sink.NeverBreaks) (hbuffer : chunkSize ≤ maxBuffer)
    (peer : String) (s : ReceiveScript) :
    (∃ chunks ending s', s.Receives (max chunkSize 1) chunks ending s' ∧
      (run s (start peer sink chunkSize)).1 = s' ∧
      (run s (start peer sink chunkSize)).2.1.sink.offered =
        sink.offered ++ chunks.map Chunk.shown ∧
      (run s (start peer sink chunkSize)).2.1.exit? =
        some ⟨.inbound, causeOf ending s'.tripped, chunks.flatten.length⟩) ∧
    (∀ other : Sink, other.NeverBreaks →
      (run s (start peer other chunkSize)).1 = (run s (start peer sink chunkSize)).1 ∧
      (run s (start peer other chunkSize)).2.1.exit? =
        (run s (start peer sink chunkSize)).2.1.exit?) ∧
    (∀ t : ReceiveScript, t.tripped = s.tripped →
      (t.upcoming (max chunkSize 1)).filter (!·.isInterruption) =
        (s.upcoming (max chunkSize 1)).filter (!·.isInterruption) →
      (run t (start peer sink chunkSize)).2.1.exit? =
        (run s (start peer sink chunkSize)).2.1.exit? ∧
      (run t (start peer sink chunkSize)).2.1.sink =
        (run s (start peer sink chunkSize)).2.1.sink) := by
  have hsize : 0 < max chunkSize 1 := Nat.le_max_right _ _
  obtain ⟨chunks, ending, s', hs⟩ := exists_receives hsize s
  obtain ⟨log, hrun⟩ := run_of_receives hsink hbuffer peer hs
  rw [hrun]
  refine ⟨⟨chunks, ending, s', hs, rfl, Sink.displayAll_offered _ _, ?_⟩, ?_, ?_⟩
  · simp [done, exit?, start]
  · intro other hother
    obtain ⟨log', hrun'⟩ := run_of_receives hother hbuffer peer hs
    rw [hrun']
    exact ⟨rfl, rfl⟩
  · intro t htripped hsame
    obtain ⟨chunks', ending', t', ht⟩ := exists_receives hsize t
    obtain ⟨log', hrun'⟩ := run_of_receives hsink hbuffer peer ht
    have hresult : (⟨chunks', ending', t'.tripped⟩ : ReceiveScript.StreamResult) =
        ⟨chunks, ending, s'.tripped⟩ := by
      rw [← ht.streamResult_eq hsize, ← hs.streamResult_eq hsize, htripped,
        ← ReceiveScript.streamResult_filter, hsame, ReceiveScript.streamResult_filter]
    obtain ⟨rfl, rfl, hsignal⟩ : chunks' = chunks ∧ ending' = ending ∧ t'.tripped = s'.tripped := by
      simpa using hresult
    rw [hrun', hsignal]
    exact ⟨rfl, rfl⟩

end run

theorem neverBreaks_picky (label : String) (refuses : List String) :
    (Sink.picky label refuses []).NeverBreaks := by
  intro n text
  simp only [Sink.picky, List.contains_nil, Bool.false_eq_true, if_false]
  split <;> simp

/-- A word that is cut in the middle of a letter, and a stream that is reset after a trip. -/
def brokenWord : ReceiveScript where
  steps := [.data [0x68, 0xC3, 0xA9], .trip, .fail ⟨.connectionReset, "reset"⟩]

/-- The same, with calls interrupted before, between and after the two parts of the word. -/
def haltingWord : ReceiveScript where
  steps := [.fail ⟨.interrupted, ""⟩, .data [0x68, 0xC3], .fail ⟨.interrupted, ""⟩, .data [0xA9],
    .trip, .fail ⟨.interrupted, ""⟩, .fail ⟨.connectionReset, "reset"⟩]

/-- The first part of the word is refused, and counted all the same. -/
theorem run_follows_stream_broken_word :
    let sink := Sink.picky "client" ["h�"] []
    let run (s : ReceiveScript) (sink : Sink) := run s (start "script" sink 2)
    (run brokenWord sink).2.1.exit? =
      some ⟨.inbound, .transport .connectionReset .expected, 3⟩ ∧
    (run brokenWord sink).2.1.sink.units = ["�"] ∧
    (run haltingWord sink).2.1.exit? = (run brokenWord sink).2.1.exit? ∧
    (run haltingWord sink).2.1.sink = (run brokenWord sink).2.1.sink ∧
    (run brokenWord {}).1 = (run brokenWord sink).1 ∧
    (run brokenWord {}).2.1.exit? = (run brokenWord sink).2.1.exit? := by
  have hbuffer : 2 ≤ maxBuffer := by decide
  obtain ⟨-, hothers, hhalting⟩ :=
    run_follows_stream (neverBreaks_picky "client" ["h�"]) hbuffer "script" brokenWord
  obtain ⟨hscript, hexit⟩ := hothers {} (by simp [Sink.NeverBreaks])
  obtain ⟨hexit', hsink⟩ := hhalting haltingWord rfl (by decide +kernel)
  exact ⟨by decide +kernel, by decide +kernel, hexit', hsink, hscript, hexit⟩

end Inbound

end TextRelay
