import TextRelay.Proofs.Session.Relays
import TextRelay.Proofs.Session.Steps

/-!
# Sessions that end by one of their relays

The owner of a session only waits for it, and one of the relays, the lead, is known to end first:
the other one ends only once the signal is tripped. Then the order of the shutdown is fixed,
whatever else happens when: the coordinator takes the lead's exit, trips the signal, shuts the
stream down, joins both relays and reports. `Session.LedBy` reads off the coordinator's state how
far that has come.

All of this holds over every medium.
-/

namespace TextRelay

/-- The other direction. -/
def Direction.opposite : Direction → Direction
  | inbound => outbound
  | outbound => inbound

namespace Session

/-- The exit of a relay that is done. -/
def exit? (s : Session) : Direction → Option Exit
  | .inbound => s.inbound.exit?
  | .outbound => s.outbound.exit?

/-- The exit of a relay that is done and has reported. -/
def gone? (s : Session) : Direction → Option Exit
  | .inbound => s.inbound.gone?
  | .outbound => s.outbound.gone?

theorem exit?_of_gone? {s : Session} {dir : Direction} {exit : Exit}
    (hgone : s.gone? dir = some exit) : s.exit? dir = some exit := by
  cases dir with
  | inbound => exact Inbound.exit?_of_gone? hgone
  | outbound => exact Outbound.exit?_of_gone? hgone

namespace Coordinator

/-- The owner has called for nothing but the end of the session. -/
def onlyWaits : Coordinator → Bool
  | idle | awaiting | tripping (.joining _) | releasing (.joining _) | joining _
  | finished _ => true
  | _ => false

/-- The exit that began the shutdown. -/
def initiator? : Coordinator → Option Exit
  | tripping (.joining exit) | releasing (.joining exit) | joining exit => some exit
  | finished report => some report.initiator
  | _ => none

/-- Whether the signal has been tripped: the flag is set and the cancellation channel is gone. -/
def hasTripped : Coordinator → Bool
  | releasing _ | joining _ | finished _ => true
  | _ => false

/-- Whether the stream has been shut down. -/
def hasReleased : Coordinator → Bool
  | joining _ | finished _ => true
  | _ => false

/-- The coordinator is past the end of the session: all that is left is to join the relays. -/
def isOver : Coordinator → Bool
  | joining _ | finished _ | dropped => true
  | _ => false

/-- The stages passed through by now. A close that the owner calls for is none of them. -/
def history : Coordinator → History
  | tripping (.joining _) | releasing (.joining _) | joining _ =>
    ⟨.shuttingDown, [.connected, .shuttingDown]⟩
  | finished _ => ⟨.closed, [.connected, .shuttingDown, .closed]⟩
  | _ => .start .connected

/-- How many steps are left to the coordinator, at most. -/
def rank : Coordinator → Nat
  | idle => 5
  | awaiting => 4
  | tripping _ => 3
  | releasing _ => 2
  | joining _ => 1
  | finished _ | dropped => 0

end Coordinator

/-- A session that is waited for and that its lead relay ends. -/
structure LedBy (lead : Direction) (s : Session) : Prop where
  onlyWaits : s.coordinator.onlyWaits = true
  tripped : s.signal.tripped = s.coordinator.hasTripped
  cancelled : s.signal.isCancelled = s.coordinator.hasTripped
  released : s.isReleased = s.coordinator.hasReleased
  history : s.history = s.coordinator.history
  initiator : ∀ exit, s.coordinator.initiator? = some exit → s.gone? lead = some exit
  queue : s.coordinator.initiator? = none → s.signal.queue = (s.gone? lead).toList ∧
    (s.gone? lead = none → s.signal.mayReport = true)
  controlled : (∀ report, s.coordinator ≠ .finished report) → s.signal.isControlled = true
  report : ∀ report, s.coordinator = .finished report →
    s.gone? .inbound = some report.inbound ∧ s.gone? .outbound = some report.outbound ∧
      report.stages = [.connected, .shuttingDown, .closed]

namespace LedBy

variable {κ : Type} [Medium κ] {s s' : Session} {w w' : κ} {lead : Direction}

/-- The signal is tripped only after the first exit was taken. -/
theorem initiator_of_tripped (hs : s.LedBy lead) (htripped : s.signal.tripped = true) :
    ∃ exit, s.coordinator.initiator? = some exit := by
  have hwaits := hs.onlyWaits
  rw [hs.tripped] at htripped
  cases hco : s.coordinator with
  | idle | awaiting | tripping | dropped =>
    rw [hco] at htripped
    cases htripped
  | releasing after =>
    rw [hco] at hwaits
    cases after with
    | joining exit => exact ⟨exit, rfl⟩
    | idle | dropped => cases hwaits
  | joining exit => exact ⟨exit, rfl⟩
  | finished report => exact ⟨report.initiator, rfl⟩

/-- Once the stream is shut down, the signal is tripped and the lead is gone. -/
theorem of_released (hs : s.LedBy lead) (hreleased : s.isReleased = true) :
    s.signal.tripped = true ∧ ∃ exit, s.gone? lead = some exit := by
  have htripped : s.signal.tripped = true := by
    rw [hs.released] at hreleased
    rw [hs.tripped]
    revert hreleased
    cases s.coordinator <;> simp [Coordinator.hasReleased, Coordinator.hasTripped]
  obtain ⟨exit, hexit⟩ := hs.initiator_of_tripped htripped
  exact ⟨htripped, exit, hs.initiator exit hexit⟩

/-- A report names the exits of the relays, the lead's as the one that began the shutdown. -/
theorem of_report (hs : s.LedBy lead) {report : Report} (hreport : s.report? = some report) :
    s.gone? lead = some report.initiator ∧ s.gone? .inbound = some report.inbound ∧
      s.gone? .outbound = some report.outbound ∧
      report.stages = [.connected, .shuttingDown, .closed] := by
  unfold report? at hreport
  split at hreport
  · next hfinished =>
    cases hreport
    exact ⟨hs.initiator _ (by rw [hfinished]; rfl), hs.report _ hfinished⟩
  · cases hreport

theorem initiator_eq_none (hs : s.LedBy lead) (hgone : s.gone? lead = none) :
    s.coordinator.initiator? = none := by
  cases hinit : s.coordinator.initiator? with
  | none => rfl
  | some exit =>
    rw [hs.initiator exit hinit] at hgone
    cases hgone

theorem controlled_of_initiator (hs : s.LedBy lead) (hnone : s.coordinator.initiator? = none) :
    s.signal.isControlled = true := by
  refine hs.controlled fun report hreport => ?_
  rw [hreport] at hnone
  cases hnone

/-- Until the lead is gone, nobody learns of a shutdown. -/
theorem not_cancelled (hs : s.LedBy lead) (hgone : s.gone? lead = none) :
    s.signal.tripped = false ∧ s.signal.isCancelled = false := by
  have hnone := hs.initiator_eq_none hgone
  have htripped : s.signal.tripped = false := by
    cases htripped : s.signal.tripped with
    | false => rfl
    | true =>
      obtain ⟨exit, hexit⟩ := hs.initiator_of_tripped htripped
      rw [hnone] at hexit
      cases hexit
  exact ⟨htripped, hs.cancelled.trans (hs.tripped.symm.trans htripped)⟩

theorem congr (hs : s.LedBy lead) (hcoordinator : s'.coordinator = s.coordinator)
    (hsignal : s'.signal = s.signal) (hreleased : s'.isReleased = s.isReleased)
    (hhistory : s'.history = s.history) (hgone : ∀ dir, s'.gone? dir = s.gone? dir) :
    s'.LedBy lead where
  onlyWaits := by rw [hcoordinator]; exact hs.onlyWaits
  tripped := by rw [hcoordinator, hsignal]; exact hs.tripped
  cancelled := by rw [hcoordinator, hsignal]; exact hs.cancelled
  released := by rw [hcoordinator, hreleased]; exact hs.released
  history := by rw [hcoordinator, hhistory]; exact hs.history
  initiator := by rw [hcoordinator, hgone]; exact hs.initiator
  queue := by rw [hcoordinator, hgone, hsignal]; exact hs.queue
  controlled := by rw [hcoordinator, hsignal]; exact hs.controlled
  report := by rw [hcoordinator, hgone, hgone]; exact hs.report

/-- A relay reports: the lead, or the other one after the signal is tripped. -/
theorem reports (hs : s.LedBy lead) {dir : Direction} {exit : Exit} {n : Nat}
    (hbefore : s.gone? dir = none) (hallowed : dir = lead ∨ s.signal.tripped = true)
    (hcoordinator : s'.coordinator = s.coordinator)
    (hsignal : s'.signal = s.signal.report n exit) (hreleased : s'.isReleased = s.isReleased)
    (hhistory : s'.history = s.history) (hdir : s'.gone? dir = some exit)
    (hother : ∀ x, x ≠ dir → s'.gone? x = s.gone? x) : s'.LedBy lead where
  onlyWaits := by rw [hcoordinator]; exact hs.onlyWaits
  tripped := by rw [hcoordinator, hsignal]; exact hs.tripped
  cancelled := by rw [hcoordinator, hsignal]; exact hs.cancelled
  released := by rw [hcoordinator, hreleased]; exact hs.released
  history := by rw [hcoordinator, hhistory]; exact hs.history
  initiator := by
    intro first hfirst
    rw [hcoordinator] at hfirst
    have hlead := hs.initiator first hfirst
    have hne : lead ≠ dir := by
      rintro rfl
      rw [hbefore] at hlead
      cases hlead
    rw [hother lead hne, hlead]
  queue := by
    intro hnone
    rw [hcoordinator] at hnone
    have hlead : dir = lead := by
      rcases hallowed with hlead | htripped
      · exact hlead
      · obtain ⟨first, hfirst⟩ := hs.initiator_of_tripped htripped
        rw [hnone] at hfirst
        cases hfirst
    subst hlead
    rw [hsignal, hdir]
    refine ⟨?_, fun h => by cases h⟩
    simp [Signal.report, hs.controlled_of_initiator hnone, (hs.queue hnone).1, hbefore]
  controlled := by rw [hcoordinator, hsignal]; exact hs.controlled
  report := by
    intro report hreport
    rw [hcoordinator] at hreport
    obtain ⟨hin, hout, -⟩ := hs.report report hreport
    cases dir with
    | inbound =>
      rw [hbefore] at hin
      cases hin
    | outbound =>
      rw [hbefore] at hout
      cases hout

/-! ## The coordinator's steps -/

theorem wait (hs : s.LedBy lead) (h : s.callWait = some s') : s'.LedBy lead := by
  obtain ⟨hidle, rfl⟩ := of_callWait h
  have hnone : s.coordinator.initiator? = none := by rw [hidle]; rfl
  exact {
    onlyWaits := rfl
    tripped := by rw [hs.tripped, hidle]; rfl
    cancelled := by rw [hs.cancelled, hidle]; rfl
    released := by rw [hs.released, hidle]; rfl
    history := by rw [hs.history, hidle]; rfl
    initiator := fun exit hexit => by cases hexit
    queue := fun _ => hs.queue hnone
    controlled := fun _ => hs.controlled_of_initiator hnone
    report := fun report hreport => by cases hreport }

/-- The first exit that is taken is the lead's. -/
theorem takeFirst (hs : s.LedBy lead) (h : s.takeFirst = some s') : s'.LedBy lead := by
  obtain ⟨exit, signal, log, hawaiting, hfirst, rfl⟩ := of_takeFirst h
  have hnone : s.coordinator.initiator? = none := by rw [hawaiting]; rfl
  obtain ⟨hqueue, hmay⟩ := hs.queue hnone
  obtain ⟨hlead, hsignal⟩ : s.gone? lead = some exit ∧
      signal = { s.signal with queue := [] } := by
    unfold Signal.waitFirst at hfirst
    cases hgone : s.gone? lead with
    | none =>
      rw [hqueue, hgone, hmay hgone] at hfirst
      cases hfirst
    | some first =>
      rw [hqueue, hgone] at hfirst
      cases hfirst
      exact ⟨rfl, rfl⟩
  subst hsignal
  exact {
    onlyWaits := rfl
    tripped := by
      have htripped := hs.tripped
      rw [hawaiting] at htripped
      exact htripped
    cancelled := by
      have hcancelled := hs.cancelled
      rw [hawaiting] at hcancelled
      exact hcancelled
    released := by rw [hs.released, hawaiting]; rfl
    history := by rw [hs.history, hawaiting]; rfl
    initiator := fun first hinit => by cases hinit; exact hlead
    queue := fun hinit => by cases hinit
    controlled := fun _ => hs.controlled_of_initiator hnone
    report := fun report hreport => by cases hreport }

/-- The coordinator's states between the first exit and the report. -/
theorem exit_of_after (hs : s.LedBy lead) {after : After}
    (hafter : s.coordinator = .tripping after ∨ s.coordinator = .releasing after) :
    ∃ exit, after = .joining exit := by
  have hwaits := hs.onlyWaits
  rcases hafter with hafter | hafter
  all_goals
    rw [hafter] at hwaits
    cases after with
    | joining exit => exact ⟨exit, rfl⟩
    | idle | dropped => cases hwaits

theorem trip (hs : s.LedBy lead) (h : s.trip = some s') : s'.LedBy lead := by
  obtain ⟨after, hafter, rfl⟩ := of_trip h
  obtain ⟨exit, rfl⟩ := hs.exit_of_after (.inl hafter)
  have hcontrolled := hs.controlled fun report hreport => by rw [hafter] at hreport; cases hreport
  exact {
    onlyWaits := rfl
    tripped := rfl
    cancelled := rfl
    released := by rw [hs.released, hafter]; rfl
    history := by rw [hs.history, hafter]; rfl
    initiator := fun first hinit => hs.initiator first (by rw [hafter]; exact hinit)
    queue := fun hinit => by cases hinit
    controlled := fun _ => hcontrolled
    report := fun report hreport => by cases hreport }

theorem release (hs : s.LedBy lead) (h : s.release w = some (s', w')) : s'.LedBy lead := by
  obtain ⟨after, log, hafter, hcases⟩ := of_release h
  obtain ⟨exit, rfl⟩ := hs.exit_of_after (.inr hafter)
  have hcontrolled := hs.controlled fun report hreport => by rw [hafter] at hreport; cases hreport
  obtain ⟨-, -, rfl⟩ | ⟨hdropped, -⟩ := hcases
  · exact {
      onlyWaits := rfl
      tripped := by
        have htripped := hs.tripped
        rw [hafter] at htripped
        exact htripped
      cancelled := by
        have hcancelled := hs.cancelled
        rw [hafter] at hcancelled
        exact hcancelled
      released := rfl
      history := by rw [hs.history, hafter]; rfl
      initiator := fun first hinit => hs.initiator first (by rw [hafter]; exact hinit)
      queue := fun hinit => by cases hinit
      controlled := fun _ => hcontrolled
      report := fun report hreport => by cases hreport }
  · cases hdropped

theorem join (hs : s.LedBy lead) (h : s.join w = some (s', w')) : s'.LedBy lead := by
  obtain ⟨initiator, inbound, outbound, log, hjoining, hin, hout, -, rfl⟩ := of_join h
  have hgoneIn : s.gone? .inbound = some inbound := Inbound.gone?_eq_some_iff.2 hin
  have hgoneOut : s.gone? .outbound = some outbound := Outbound.gone?_eq_some_iff.2 hout
  have hhistory : s.history = ⟨.shuttingDown, [.connected, .shuttingDown]⟩ := by
    rw [hs.history, hjoining]
    rfl
  exact {
    onlyWaits := rfl
    tripped := rfl
    cancelled := rfl
    released := rfl
    history := by rw [hhistory]; rfl
    initiator := fun first hinit => by
      cases hinit
      exact hs.initiator initiator (by rw [hjoining]; rfl)
    queue := fun hinit => by cases hinit
    controlled := fun hne => absurd rfl (hne _)
    report := fun report hreport => by
      cases hreport
      exact ⟨hgoneIn, hgoneOut, by rw [hhistory]; rfl⟩ }

/-! ## Every step -/

theorem start {settings : Settings} {source : Source} {sink : Sink} {stream : Nat}
    (h : Session.start settings source sink stream w = (.ok s, w')) (lead : Direction) :
    s.LedBy lead := by
  obtain ⟨reader, writer, w₁, w₂, log, -, -, -, -, rfl⟩ := of_start h
  have hin : (Inbound.start (Medium.peer w₂ stream) sink
      settings.chunkSize.toNat).gone? = none := by
    simp only [Inbound.start, Inbound.gone?]
    split
    · next hphase => split at hphase <;> cases hphase
    · rfl
  exact {
    onlyWaits := rfl
    tripped := rfl
    cancelled := rfl
    released := rfl
    history := rfl
    initiator := fun exit hinit => by cases hinit
    queue := fun _ => by
      refine ⟨?_, fun _ => rfl⟩
      cases lead with
      | inbound => simp [gone?, hin]
      | outbound => rfl
    controlled := fun _ => rfl
    report := fun report hreport => by cases hreport }

/-- A step of a relay that is not its last one, or of the pump. -/
theorem relay (hs : s.LedBy lead) {pump : Pump} {inbound : Inbound} {outbound : Outbound}
    {log : List Log.Event} (hin : inbound.gone? = s.inbound.gone?)
    (hout : outbound.gone? = s.outbound.gone?) :
    LedBy lead { s with pump, inbound, outbound, log } := by
  refine hs.congr rfl rfl rfl rfl fun dir => ?_
  cases dir with
  | inbound => exact hin
  | outbound => exact hout

/-- **Whatever happens next, a session that its lead ends stays so,** as long as the other relay
does not end before the signal is tripped. -/
theorem step (hs : s.LedBy lead)
    (hfollow : ∀ exit, s.exit? lead.opposite = some exit → s.signal.tripped = true)
    {action : Action} (h : s.step w action = some (s', w')) : s'.LedBy lead := by
  -- A relay that is not the lead reports only after the signal is tripped.
  have hallowed : ∀ {dir exit}, s.exit? dir = some exit → dir = lead ∨ s.signal.tripped = true := by
    intro dir exit hexit
    by_cases hdir : dir = lead
    · exact .inl hdir
    · have hopposite : dir = lead.opposite := by
        cases dir <;> cases lead <;> simp_all [Direction.opposite]
      exact .inr (hfollow exit (hopposite ▸ hexit))
  cases action with
  | readInput =>
    obtain ⟨pump, -, rfl⟩ := of_readInput (of_map h).1
    exact hs.relay rfl rfl
  | dropInput =>
    obtain ⟨exit, pump, -, -, rfl⟩ := of_dropInput (of_map h).1
    exact hs.relay rfl rfl
  | receive =>
    obtain ⟨receipt, hphase, -, rfl⟩ := of_receive h
    exact hs.relay (by simp [Inbound.gone?, Inbound.receive, hphase]) rfl
  | handle =>
    obtain ⟨receipt, log, -, rfl, -⟩ := of_handle h
    exact hs.relay (Inbound.gone?_handle _ _) rfl
  | reportInbound =>
    obtain ⟨exit, hphase, -, rfl⟩ := of_reportInbound h
    have hbefore : s.gone? .inbound = none := by simp [gone?, Inbound.gone?, hphase]
    refine hs.reports hbefore (hallowed (Inbound.exit?_of_leaving hphase)) rfl rfl rfl rfl rfl ?_
    intro dir hdir
    cases dir with
    | inbound => exact absurd rfl hdir
    | outbound => rfl
  | takeInput =>
    obtain ⟨event, pump, log, hphase, -, rfl⟩ := of_takeInput (of_map h).1
    exact hs.relay rfl (by rw [Outbound.gone?_take, Outbound.gone?, hphase])
  | cancelInput =>
    obtain ⟨log, hphase, -, rfl⟩ := of_cancelInput (of_map h).1
    exact hs.relay rfl (by rw [Outbound.cancel, Outbound.gone?_leave, Outbound.gone?, hphase])
  | checkSignal =>
    obtain ⟨line, log, -, rfl⟩ := of_checkSignal (of_map h).1
    exact hs.relay rfl (Outbound.gone?_check _ _)
  | send =>
    obtain ⟨data, result, log, -, -, rfl⟩ := of_send h
    exact hs.relay rfl (Outbound.gone?_answer _ _)
  | judgeFault =>
    obtain ⟨fault, log, -, rfl⟩ := of_judgeFault (of_map h).1
    exact hs.relay rfl (Outbound.gone?_judge _ _)
  | reportOutbound =>
    obtain ⟨exit, hphase, -, rfl⟩ := of_reportOutbound h
    have hbefore : s.gone? .outbound = none := by simp [gone?, Outbound.gone?, hphase]
    refine hs.reports hbefore (hallowed (Outbound.exit?_of_leaving hphase)) rfl rfl rfl rfl rfl ?_
    intro dir hdir
    cases dir with
    | inbound => rfl
    | outbound => exact absurd rfl hdir
  | takeFirst => exact hs.takeFirst (of_map h).1
  | trip => exact hs.trip (of_map h).1
  | release => exact hs.release h
  | join => exact hs.join h

/-- The coordinator comes nearer to its end with each of its steps, and nothing that it has done is
undone. -/
theorem coordinate (hs : s.LedBy lead) {action : Action} (hparty : action.party = .coordinator)
    (h : s.step w action = some (s', w')) :
    s'.coordinator.rank < s.coordinator.rank ∧
      (s.signal.tripped = true → s'.signal.tripped = true) ∧
      (s.isReleased = true → s'.isReleased = true) := by
  cases action with
  | takeFirst =>
    obtain ⟨exit, signal, log, hawaiting, hfirst, rfl⟩ := of_takeFirst (of_map h).1
    have hnot : s.signal.tripped = false := by rw [hs.tripped, hawaiting]; rfl
    refine ⟨by rw [hawaiting]; exact Nat.lt_succ_self _, ?_, id⟩
    rw [hnot]
    exact fun h => by cases h
  | trip =>
    obtain ⟨after, hafter, rfl⟩ := of_trip (of_map h).1
    exact ⟨by rw [hafter]; exact Nat.lt_succ_self _, fun _ => rfl, id⟩
  | release =>
    obtain ⟨after, log, hafter, hcases⟩ := of_release h
    obtain ⟨exit, rfl⟩ := hs.exit_of_after (.inr hafter)
    obtain ⟨-, -, rfl⟩ | ⟨hdropped, -⟩ := hcases
    · exact ⟨by rw [hafter]; exact Nat.lt_succ_self _, id, fun _ => rfl⟩
    · cases hdropped
  | join =>
    obtain ⟨initiator, inbound, outbound, log, hjoining, -, -, -, rfl⟩ := of_join h
    exact ⟨by rw [hjoining]; exact Nat.lt_succ_self _, fun _ => rfl, fun _ => rfl⟩
  | readInput | dropInput | receive | handle | reportInbound | takeInput | cancelInput
  | checkSignal | send | judgeFault | reportOutbound => cases hparty

/-- A signal that is tripped stays so, and so does a stream that is shut down. -/
theorem mono (hs : s.LedBy lead) {action : Action} (h : s.step w action = some (s', w')) :
    (s.signal.tripped = true → s'.signal.tripped = true) ∧
      (s.isReleased = true → s'.isReleased = true) := by
  by_cases hparty : action.party = .coordinator
  · exact (hs.coordinate hparty h).2
  · obtain ⟨-, hreleased, htripped⟩ := (step_frame h).2.2 hparty
    rw [hreleased, htripped]
    exact ⟨id, id⟩

end LedBy

end Session

end TextRelay
