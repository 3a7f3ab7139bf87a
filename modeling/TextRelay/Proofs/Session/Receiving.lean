import TextRelay.Proofs.Pipe.Pieces
import TextRelay.Proofs.Session.Coordination

/-!
# What the receiving half of a session does

The inbound relay of a session in two situations. `Session.ReceiverInv`: the relay leads, so the end
of the stream comes before any shutdown of its own session. Whatever was received before is shown,
piece by piece. `Session.ReceivesNothing`: nothing ever comes but the end of the stream, and that
only after the session has begun to shut down.
-/

namespace TextRelay

/-- How many steps are left to an inbound relay, at most, if it receives no more chunks. -/
def Inbound.rank (r : Inbound) : Nat :=
  match r.phase with
  | .receiving => 3
  | .handling (.ok []) => 2
  | .handling _ => 4
  | .leaving _ => 1
  | .gone _ => 0

namespace Session

variable {κ : Type} [Medium κ] {s s' : Session} {w w' : κ}

/-- The chunk that is received and not yet shown. -/
def inHand (s : Session) : List Bytes :=
  match s.inbound.phase with
  | .handling (.ok chunk) => asPiece chunk
  | _ => []

/-- A session that has shown some pieces, after whatever its sink was offered before. Its inbound
relay ends when the peer closes the stream, and not otherwise. -/
structure ReceiverInv (before : List String) (shown : List Bytes) (s : Session) : Prop where
  sink : s.inbound.sink.NeverBreaks
  offered : s.inbound.sink.offered = before ++ shown.map Chunk.shown
  bytes : s.inbound.bytes = shown.flatten.length
  no_fault : ∀ fault, s.inbound.phase ≠ .handling (.error fault)
  exit : ∀ exit, s.inbound.exit? = some exit → exit = ⟨.inbound, .peerClosed, shown.flatten.length⟩

namespace ReceiverInv

variable {before : List String} {shown : List Bytes}

theorem congr (hs : s.ReceiverInv before shown) (hinbound : s'.inbound = s.inbound) :
    s'.ReceiverInv before shown where
  sink := by rw [hinbound]; exact hs.sink
  offered := by rw [hinbound]; exact hs.offered
  bytes := by rw [hinbound]; exact hs.bytes
  no_fault := by rw [hinbound]; exact hs.no_fault
  exit := by rw [hinbound]; exact hs.exit

theorem receive (hs : s.ReceiverInv before shown) {data : Bytes}
    (hreceive : Medium.receive w s.reader s.inbound.bufferSize = some (.ok data, w'))
    (h : s.receive w = some (s', w')) :
    s'.ReceiverInv before shown ∧ s.inHand = [] ∧ s'.inHand = asPiece data ∧
      s'.inbound.rank < s.inbound.rank + 2 * data.length := by
  obtain ⟨receipt, hphase, hreceive', rfl⟩ := of_receive h
  rw [hreceive] at hreceive'
  cases hreceive'
  refine ⟨⟨hs.sink, hs.offered, hs.bytes, ?_, ?_⟩, ?_, rfl, ?_⟩
  · intro fault hfault
    cases hfault
  · intro exit hexit
    cases hexit
  · simp [inHand, hphase]
  · cases data with
    | nil => simp [Inbound.rank, Inbound.receive, hphase]
    | cons byte rest =>
      simp only [Inbound.rank, Inbound.receive, hphase, List.length_cons]
      omega

/-- The chunk in hand is shown, and the end of the stream is told from a shutdown. -/
theorem handle (hs : s.ReceiverInv before shown) (hled : s.LedBy .inbound)
    (h : s.handle w = some (s', w')) :
    s'.ReceiverInv before (shown ++ s.inHand) ∧ s'.inHand = [] ∧
      s'.inbound.rank < s.inbound.rank := by
  obtain ⟨receipt, log, hphase, rfl, -⟩ := of_handle h
  cases receipt with
  | error fault => exact absurd hphase (hs.no_fault fault)
  | ok chunk =>
    have hinHand : s.inHand = asPiece chunk := by simp [inHand, hphase]
    rw [hinHand]
    by_cases hchunk : chunk = []
    · subst hchunk
      have hgone : s.gone? .inbound = none := by simp [gone?, Inbound.gone?, hphase]
      rw [Inbound.handle_end hphase, (hled.not_cancelled hgone).1, asPiece_nil, List.append_nil]
      refine ⟨⟨hs.sink, hs.offered, hs.bytes, ?_, ?_⟩, rfl, by simp [Inbound.rank, hphase]⟩
      · intro fault hfault
        cases hfault
      · intro exit hexit
        cases hexit
        rw [hs.bytes]
        rfl
    · rw [Inbound.handle_chunk hs.sink hphase hchunk, asPiece_of_ne hchunk]
      refine ⟨⟨hs.sink.of_verdict (Sink.display_verdict _ _), ?_, ?_, ?_, ?_⟩, rfl, ?_⟩
      · rw [Sink.display_offered, hs.offered, List.map_append, List.append_assoc]
        rfl
      · rw [hs.bytes, List.flatten_append, List.flatten_singleton, List.length_append]
      · intro fault hfault
        cases hfault
      · intro exit hexit
        cases hexit
      · obtain ⟨byte, rest, rfl⟩ := List.exists_cons_of_ne_nil hchunk
        simp [Inbound.rank, hphase]

theorem reportInbound (hs : s.ReceiverInv before shown) (h : s.reportInbound w = some (s', w')) :
    s'.ReceiverInv before shown ∧ s.inHand = [] ∧ s'.inHand = [] ∧
      s'.inbound.rank < s.inbound.rank := by
  obtain ⟨exit, hphase, -, rfl⟩ := of_reportInbound h
  have hexit := hs.exit exit (Inbound.exit?_of_leaving hphase)
  refine ⟨⟨hs.sink, hs.offered, hs.bytes, ?_, ?_⟩, by simp [inHand, hphase], rfl, ?_⟩
  · intro fault hfault
    cases hfault
  · intro exit' hexit'
    cases hexit'
    exact hexit
  · simp [Inbound.rank, hphase]

end ReceiverInv

/-- A session that receives nothing, and learns of the end of the stream when it is itself shutting
down. -/
structure ReceivesNothing (s : Session) : Prop where
  bytes : s.inbound.bytes = 0
  phaseInv : s.inbound.phase = .receiving ∨
    s.signal.tripped = true ∧ (s.inbound.phase = .handling (.ok []) ∨
      s.inbound.phase = .leaving ⟨.inbound, .cancelled, 0⟩ ∨
      s.inbound.phase = .gone ⟨.inbound, .cancelled, 0⟩)

namespace ReceivesNothing

theorem exit (hs : s.ReceivesNothing) {exit : Exit} (hexit : s.exit? .inbound = some exit) :
    exit = ⟨.inbound, .cancelled, 0⟩ ∧ s.signal.tripped = true := by
  simp only [exit?, Inbound.exit?] at hexit
  obtain hphase | ⟨htripped, hphase | hphase | hphase⟩ := hs.phaseInv
  · simp [hphase] at hexit
  · simp [hphase] at hexit
  · simp only [hphase, Option.some.injEq] at hexit
    exact ⟨hexit.symm, htripped⟩
  · simp only [hphase, Option.some.injEq] at hexit
    exact ⟨hexit.symm, htripped⟩

theorem chunk_eq_nil (hs : s.ReceivesNothing) {chunk : Bytes}
    (hphase : s.inbound.phase = .handling (.ok chunk)) : chunk = [] := by
  have hphases := hs.phaseInv
  simp only [hphase, reduceCtorEq, false_or, or_false, Inbound.Phase.handling.injEq,
    Except.ok.injEq] at hphases
  exact hphases.2

theorem congr (hs : s.ReceivesNothing) (hinbound : s'.inbound = s.inbound)
    (htripped : s.signal.tripped = true → s'.signal.tripped = true) : s'.ReceivesNothing where
  bytes := by rw [hinbound]; exact hs.bytes
  phaseInv := by
    rw [hinbound]
    exact hs.phaseInv.imp_right fun ⟨ht, hphase⟩ => ⟨htripped ht, hphase⟩

/-- A step of the inbound relay, where receive calls return with nothing, and only after the signal
was tripped. -/
theorem step (hs : s.ReceivesNothing)
    (hnothing : ∀ receipt, Medium.receive w s.reader s.inbound.bufferSize = some (receipt, w') →
      receipt = .ok [] ∧ s.signal.tripped = true)
    {action : Action} (hparty : action.party = .receiver) (h : s.step w action = some (s', w')) :
    s'.ReceivesNothing ∧ s'.inbound.rank < s.inbound.rank := by
  cases action with
  | receive =>
    obtain ⟨receipt, hphase, hreceive, rfl⟩ := of_receive h
    obtain ⟨rfl, htripped⟩ := hnothing receipt hreceive
    exact ⟨⟨hs.bytes, .inr ⟨htripped, .inl rfl⟩⟩, by simp [Inbound.rank, Inbound.receive, hphase]⟩
  | handle =>
    obtain ⟨receipt, log, hphase, rfl, -⟩ := of_handle h
    obtain hreceiving | ⟨htripped, hhandling | hleaving | hgone⟩ := hs.phaseInv
    · rw [hphase] at hreceiving
      cases hreceiving
    · rw [Inbound.handle_end hhandling, htripped, hs.bytes]
      exact ⟨⟨rfl, .inr ⟨htripped, .inr (.inl rfl)⟩⟩, by simp [Inbound.rank, hhandling]⟩
    · rw [hphase] at hleaving
      cases hleaving
    · rw [hphase] at hgone
      cases hgone
  | reportInbound =>
    obtain ⟨exit, hphase, -, rfl⟩ := of_reportInbound h
    obtain ⟨rfl, htripped⟩ := hs.exit (Inbound.exit?_of_leaving hphase)
    exact ⟨⟨hs.bytes, .inr ⟨htripped, .inr (.inr rfl)⟩⟩, by simp [Inbound.rank, hphase]⟩
  | readInput | dropInput | takeInput | cancelInput | checkSignal | send | judgeFault
  | reportOutbound | takeFirst | trip | release | join => cases hparty

end ReceivesNothing

end Session

end TextRelay
