import TextRelay.Proofs.Session.Receiving
import TextRelay.Proofs.Session.Sending

/-!
# Sessions in which nothing can happen

A session rests when none of its parties can go on. That alone does not mean that it is over: a
relay may be blocked in a call, the outbound relay may wait for a line, and the coordinator for the
relays. Here it is said of each party what it is still missing when it rests. If nothing is, its
relays are gone and the session has reported.
-/

namespace TextRelay

namespace Session

variable {κ : Type} [Medium κ] {s : Session} {w : κ}

/-- None of the session's parties can go on. -/
def Quiescent (s : Session) (w : κ) : Prop := ∀ action, s.step w action = none

namespace Quiescent

/-- An inbound relay is gone, unless its receive call blocks. -/
theorem inbound_gone (h : s.Quiescent w)
    (hreceive : Medium.receive w s.reader s.inbound.bufferSize ≠ none) :
    ∃ exit, s.gone? .inbound = some exit := by
  cases hphase : s.inbound.phase with
  | receiving =>
    have hrest : s.receive w = none := h .receive
    simp only [receive, hphase, Option.map_eq_none_iff] at hrest
    exact absurd hrest hreceive
  | handling receipt =>
    have hrest : s.handle w = none := h .handle
    simp [handle, hphase] at hrest
  | leaving exit =>
    have hrest : s.reportInbound w = none := h .reportInbound
    simp [reportInbound, hphase] at hrest
  | gone exit => exact ⟨exit, Inbound.gone?_eq_some_iff.2 hphase⟩

/-- A pump with a line or the end of the input ahead does not rest while the relay waits for it. -/
theorem not_waiting (h : s.Quiescent w) {sentinel : String} {rest : List String}
    (hahead : s.pump.Upcoming sentinel rest) : s.outbound.phase ≠ .waiting := by
  intro hphase
  have hread : s.readInput = none := Option.map_eq_none_iff.1 (h .readInput)
  have htake : s.takeInput = none := Option.map_eq_none_iff.1 (h .takeInput)
  simp only [takeInput, hphase, Option.map_eq_none_iff] at htake
  rw [readInput, Option.map_eq_none_iff] at hread
  unfold Pump.Upcoming at hahead
  unfold Pump.take at htake
  cases hpump : s.pump.phase with
  | reading =>
    simp only [Pump.read, hpump, Option.map_eq_none_iff] at hread
    simp only [hpump] at hahead
    cases rest with
    | nil =>
      obtain ⟨next, hnext⟩ := hahead
      rw [hread] at hnext
      cases hnext
    | cons line later =>
      obtain ⟨next, hnext, -⟩ := hahead
      rw [hread] at hnext
      cases hnext
  | offering event => cases event <;> simp [hpump] at htake
  | finished => simp [hpump] at htake

/-- An outbound relay that was given some lines is gone, unless its send call blocks. -/
theorem outbound_gone (h : s.Quiescent w) {sentinel : String} {lines sent rest : List String}
    (hs : s.SenderInv sentinel lines sent rest)
    (hsend : ∀ data, s.outbound.offer? = some data → data ≠ [] →
      Medium.send w s.writer data ≠ none) :
    ∃ exit, s.gone? .outbound = some exit := by
  have hphases := hs.phaseInv
  cases hphase : s.outbound.phase with
  | waiting =>
    rw [hphase] at hphases
    exact absurd hphase (h.not_waiting hphases.2.2)
  | holding line =>
    have hrest : s.checkSignal = none := Option.map_eq_none_iff.1 (h .checkSignal)
    simp [checkSignal, hphase] at hrest
  | sending line d =>
    rw [hphase] at hphases
    obtain ⟨-, rfl, hne⟩ := hphases
    have hoffer : s.outbound.offer? = some (Line.encode line) := by
      simp [Outbound.offer?, hphase, Delivery.remaining]
    have hrest : s.send w = none := h .send
    simp only [send, hoffer, Option.bind_some, Option.map_eq_none_iff] at hrest
    exact absurd hrest (hsend _ hoffer hne)
  | failing fault =>
    rw [hphase] at hphases
    exact hphases.elim
  | leaving exit =>
    have hrest : s.reportOutbound w = none := h .reportOutbound
    simp [reportOutbound, hphase] at hrest
  | gone exit => exact ⟨exit, Outbound.gone?_eq_some_iff.2 hphase⟩

/-- The outbound relay of a silent input is gone, once it is cancelled. -/
theorem outbound_cancelled (h : s.Quiescent w) (hs : s.SendsNothing)
    (hcancelled : s.signal.isCancelled = true) : ∃ exit, s.gone? .outbound = some exit := by
  obtain hphase | ⟨-, hphase | hphase⟩ := hs.phaseInv
  · have hrest : s.cancelInput = none := Option.map_eq_none_iff.1 (h .cancelInput)
    simp [cancelInput, hphase, hcancelled] at hrest
  · have hrest : s.reportOutbound w = none := h .reportOutbound
    simp [reportOutbound, hphase] at hrest
  · exact ⟨_, Outbound.gone?_eq_some_iff.2 hphase⟩

/-- A coordinator that was called has shut the stream down, unless it waits for the lead. -/
theorem released (h : s.Quiescent w) {lead : Direction} (hs : s.LedBy lead)
    (hcalled : s.coordinator ≠ .idle) {exit : Exit} (hgone : s.gone? lead = some exit) :
    s.isReleased = true := by
  have hwaits := hs.onlyWaits
  rw [hs.released]
  cases hco : s.coordinator with
  | idle => exact absurd hco hcalled
  | awaiting =>
    have hrest : s.takeFirst = none := Option.map_eq_none_iff.1 (h .takeFirst)
    have hqueue := (hs.queue (by rw [hco]; rfl)).1
    rw [hgone] at hqueue
    simp [takeFirst, hco, Signal.waitFirst, hqueue] at hrest
  | tripping after =>
    have hrest : s.trip = none := Option.map_eq_none_iff.1 (h .trip)
    simp [trip, hco] at hrest
  | releasing after =>
    obtain ⟨first, rfl⟩ := hs.exit_of_after (.inr hco)
    have hrest : s.release w = none := h .release
    simp [release, hco] at hrest
  | joining first => rfl
  | finished report => rfl
  | dropped =>
    rw [hco] at hwaits
    cases hwaits

/-- A session that is shut down has reported, once both relays are gone. -/
theorem reported (h : s.Quiescent w) {lead : Direction} (hs : s.LedBy lead)
    (hreleased : s.isReleased = true) {inbound outbound : Exit}
    (hin : s.gone? .inbound = some inbound) (hout : s.gone? .outbound = some outbound) :
    ∃ report, s.report? = some report := by
  rw [hs.released] at hreleased
  cases hco : s.coordinator with
  | idle | tripping | releasing | awaiting | dropped =>
    rw [hco] at hreleased
    cases hreleased
  | joining first =>
    have hrest : s.join w = none := h .join
    have hinbound := Inbound.gone?_eq_some_iff.1 hin
    have houtbound := Outbound.gone?_eq_some_iff.1 hout
    simp [join, hco, hinbound, houtbound] at hrest
  | finished report => exact ⟨report, by simp [report?, hco]⟩

end Quiescent

end Session

end TextRelay
