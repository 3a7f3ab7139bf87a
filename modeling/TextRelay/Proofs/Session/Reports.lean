import TextRelay.Pipe
import TextRelay.Proofs.Session.Exits

/-!
# What a session reports

The report of a session that was waited for, in every interleaving, over every medium, and whatever
breaks down on the way. Three things are followed along a run.

* `ReportsSound`: the coordinator learns the exits of the relays and of nothing else. Until it has
  taken the first one, its queue holds exactly the exits of the relays that are gone; so it never
  runs out of reports before it has one.
* `System.ExitsSound`: an exit is of its relay's direction, and it says that the relay broke down
  exactly if it did.
* `System.NoEarlyCancel`: as long as nobody has called for a close, no relay is cancelled before the
  first exit was taken, so that exit is not a cancellation.
-/

namespace TextRelay

def Report.exit (r : Report) : Direction → Exit
  | .inbound => r.inbound
  | .outbound => r.outbound

theorem Report.exitCode_eq_one_iff (r : Report) :
    r.exitCode = 1 ↔ ∃ dir, (r.exit dir).cause = .panicked := by
  have hdirections : (∃ dir, (r.exit dir).cause = .panicked) ↔
      r.inbound.cause = .panicked ∨ r.outbound.cause = .panicked := by
    constructor
    · rintro ⟨dir, hdir⟩
      cases dir with
      | inbound => exact .inl hdir
      | outbound => exact .inr hdir
    · rintro (hin | hout)
      · exact ⟨.inbound, hin⟩
      · exact ⟨.outbound, hout⟩
  rw [hdirections, exitCode]
  cases hclean : r.isClean with
  | true => simp_all [isClean]
  | false =>
    simp only [isClean, Bool.and_eq_false_iff, bne_eq_false_iff_eq] at hclean
    simpa using hclean

namespace Session

namespace Coordinator

/-- Nothing has begun to end the session yet. -/
def isActive : Coordinator → Bool
  | idle | awaiting => true
  | _ => false

@[simp] theorem initiator?_after (after : After) :
    after.coordinator.initiator? = (releasing after).initiator? := by
  cases after <;> rfl

@[simp] theorem initiator?_releasing (after : After) :
    (releasing after).initiator? = (tripping after).initiator? := by
  cases after <;> rfl

theorem history_after (after : After) : after.coordinator.history = (releasing after).history := by
  cases after <;> rfl

theorem history_releasing (after : After) :
    (releasing after).history = (tripping after).history := by
  cases after <;> rfl

end Coordinator

/-! ## The coordinator learns the exits -/

/-- The coordinator knows the exits of those relays that are gone. -/
structure ReportsSound (s : Session) : Prop where
  apart : s.reporter .inbound ≠ s.reporter .outbound
  waiting : ∀ dir, s.gone? dir = none →
    s.signal.reporters[s.reporter dir]? = some (some dir)
  history : s.history = s.coordinator.history
  queue : s.coordinator.initiator? = none → s.coordinator ≠ .dropped →
    s.signal.isControlled = true ∧
      ∀ exit, exit ∈ s.signal.queue ↔ ∃ dir, s.gone? dir = some exit
  initiator : ∀ exit, s.coordinator.initiator? = some exit → ∃ dir, s.gone? dir = some exit
  report : ∀ report, s.coordinator = .finished report →
    (∀ dir, s.gone? dir = some (report.exit dir)) ∧
      report.stages = [.connected, .shuttingDown, .closed]

namespace ReportsSound

variable {κ : Type} [Medium κ] {s s' : Session} {w w' : κ} {event : Event κ}

theorem start {settings : Settings} {source : Source} {sink : Sink} {stream : Nat}
    (h : Session.start settings source sink stream w = (.ok s, w')) : s.ReportsSound := by
  have hgone : ∀ dir, s.gone? dir = none := by
    intro dir
    obtain ⟨reader, writer, w₁, w₂, log, -, -, -, -, rfl⟩ := of_start h
    cases dir with
    | inbound => exact Inbound.gone?_start _ _ _
    | outbound => rfl
  obtain ⟨reader, writer, w₁, w₂, log, -, -, -, -, rfl⟩ := of_start h
  refine ⟨Nat.zero_ne_one, ?_, rfl, fun _ _ => ⟨rfl, fun exit => ?_⟩, ?_, ?_⟩
  · intro dir _
    cases dir <;> rfl
  · simp [hgone]
  · intro exit hexit
    cases hexit
  · intro report hreport
    cases hreport

theorem mayReport (hs : s.ReportsSound) {dir : Direction} (hgone : s.gone? dir = none) :
    s.signal.mayReport = true := by
  have hmem := List.mem_of_getElem? (hs.waiting dir hgone)
  have hany : s.signal.reporters.any Option.isSome = true := List.any_eq_true.2 ⟨_, hmem, rfl⟩
  simp [Signal.mayReport, hany]

theorem relay (hs : s.ReportsSound) (hcontrol : SameControl s s') (hreportStep : ReportStep s s') :
    s'.ReportsSound := by
  obtain ⟨hcoordinator, hhistory, -, -, hreporter⟩ := hcontrol
  have hkept := @hreportStep.gone?_mono
  cases hreportStep with
  | silent hsignal hgone =>
    refine ⟨?_, ?_, ?_, ?_, ?_, ?_⟩
    · simpa only [hreporter] using hs.apart
    · simpa only [hreporter, hgone, hsignal] using hs.waiting
    · rw [hhistory, hcoordinator, hs.history]
    · simpa only [hcoordinator, hsignal, hgone] using hs.queue
    · simpa only [hcoordinator, hgone] using hs.initiator
    · simpa only [hcoordinator, hgone] using hs.report
  | @reports dir exit hbefore hafter hothers hsignal =>
    refine ⟨?_, ?_, ?_, ?_, ?_, ?_⟩
    · simpa only [hreporter] using hs.apart
    · intro x hx
      have hdir : x ≠ dir := by
        rintro rfl
        exact absurd (hx.symm.trans hafter) (by simp)
      have hne : s.reporter dir ≠ s.reporter x := by
        have hapart := hs.apart
        cases x <;> cases dir <;> simp_all [eq_comm]
      rw [hreporter, hsignal, Signal.report]
      simpa only [List.getElem?_set_ne hne] using hs.waiting x ((hothers x hdir).symm.trans hx)
    · rw [hhistory, hcoordinator, hs.history]
    · intro hnone hdropped
      rw [hcoordinator] at hnone hdropped
      obtain ⟨hcontrolled, hqueue⟩ := hs.queue hnone hdropped
      rw [hsignal]
      refine ⟨hcontrolled, fun e => ?_⟩
      simp only [Signal.report, hcontrolled, if_true, List.mem_append, List.mem_singleton, hqueue e]
      constructor
      · rintro (⟨x, hx⟩ | rfl)
        · exact ⟨x, hkept hx⟩
        · exact ⟨dir, hafter⟩
      · rintro ⟨x, hx⟩
        by_cases hdir : x = dir
        · subst hdir
          exact .inr (Option.some.inj (hx.symm.trans hafter))
        · exact .inl ⟨x, (hothers x hdir).symm.trans hx⟩
    · intro e he
      rw [hcoordinator] at he
      obtain ⟨x, hx⟩ := hs.initiator e he
      exact ⟨x, hkept hx⟩
    · intro report hreport
      rw [hcoordinator] at hreport
      exact absurd (hbefore.symm.trans ((hs.report report hreport).1 dir)) (by simp)

/-- The coordinator goes on, without taking anything from its queue. -/
theorem advance (hs : s.ReportsSound) (hgone : ∀ dir, s'.gone? dir = s.gone? dir)
    (hreporter : ∀ dir, s'.reporter dir = s.reporter dir)
    (hreporters : s'.signal.reporters = s.signal.reporters)
    (hhistory : s'.history = s'.coordinator.history)
    (hinitiator : s'.coordinator.initiator? = s.coordinator.initiator?)
    (hfinished : ∀ report, s'.coordinator ≠ .finished report)
    (hqueue : s'.coordinator ≠ .dropped → s.coordinator ≠ .dropped ∧
      s'.signal.isControlled = s.signal.isControlled ∧ s'.signal.queue = s.signal.queue) :
    s'.ReportsSound := by
  refine ⟨?_, ?_, hhistory, ?_, ?_, fun report hreport => absurd hreport (hfinished report)⟩
  · simpa only [hreporter] using hs.apart
  · simpa only [hreporter, hgone, hreporters] using hs.waiting
  · intro hnone hdropped
    obtain ⟨hbefore, hcontrolled, hsame⟩ := hqueue hdropped
    rw [hcontrolled, hsame]
    simpa only [hgone] using hs.queue (hinitiator ▸ hnone) hbefore
  · simpa only [hinitiator, hgone] using hs.initiator

theorem call (hs : s.ReportsSound) (hidle : s.coordinator = .idle) {next : Coordinator}
    (hnone : next.initiator? = none) (hnextHistory : next.history = .start .connected) :
    ReportsSound { s with coordinator := next } := by
  refine hs.advance (fun _ => rfl) (fun _ => rfl) rfl ?_ ?_ ?_ fun _ => ⟨?_, rfl, rfl⟩
  · exact (hs.history.trans (by rw [hidle]; rfl)).trans hnextHistory.symm
  · rw [hidle]
    exact hnone
  · rintro report rfl
    cases hnone
  · rw [hidle]
    exact Coordinator.noConfusion

/-- The first exit that is taken is that of a relay which is gone. -/
theorem first (hs : s.ReportsSound) (hawaiting : s.coordinator = .awaiting) {exit : Exit}
    {signal : Signal} (hfirst : s.signal.waitFirst = some (exit, signal)) :
    (∃ dir, s.gone? dir = some exit) ∧ signal.reporters = s.signal.reporters := by
  have hunended : s.coordinator ≠ .dropped := by
    rw [hawaiting]
    exact Coordinator.noConfusion
  obtain ⟨-, hqueue⟩ := hs.queue (by rw [hawaiting]; rfl) hunended
  obtain ⟨rest, hcons, rfl⟩ | ⟨hnil, hmay, rfl⟩ := Signal.of_waitFirst hfirst
  · exact ⟨(hqueue exit).1 (by simp [hcons]), rfl⟩
  · -- nobody has reported, so somebody still can
    have hgone : s.gone? .inbound = none := by
      cases hin : s.gone? .inbound with
      | none => rfl
      | some first =>
        have hmem := (hqueue first).2 ⟨.inbound, hin⟩
        rw [hnil] at hmem
        cases hmem
    exact absurd (hs.mayReport hgone) (by simp [hmay])

theorem takeFirst (hs : s.ReportsSound) (h : s.takeFirst = some s') : s'.ReportsSound := by
  obtain ⟨exit, signal, log, hawaiting, hfirst, rfl⟩ := of_takeFirst h
  obtain ⟨hgone, hreporters⟩ := hs.first hawaiting hfirst
  refine ⟨hs.apart, ?_, ?_, ?_, ?_, ?_⟩
  · intro dir hdir
    show signal.reporters[s.reporter dir]? = _
    rw [hreporters]
    exact hs.waiting dir hdir
  · show (s.history.enter .shuttingDown).1 = _
    rw [hs.history, hawaiting]
    rfl
  · intro hnone
    cases hnone
  · intro first hinit
    cases hinit
    exact hgone
  · intro report hreport
    cases hreport

theorem trip (hs : s.ReportsSound) (h : s.trip = some s') : s'.ReportsSound := by
  obtain ⟨after, hafter, rfl⟩ := of_trip h
  refine hs.advance (fun _ => rfl) (fun _ => rfl) rfl ?_ ?_ ?_ fun _ => ⟨?_, rfl, rfl⟩
  · rw [hs.history, hafter, Coordinator.history_releasing]
  · rw [hafter, Coordinator.initiator?_releasing]
  · exact fun report => Coordinator.noConfusion
  · rw [hafter]
    exact Coordinator.noConfusion

theorem release (hs : s.ReportsSound) (h : s.release w = some (s', w')) : s'.ReportsSound := by
  obtain ⟨after, log, hafter, ⟨-, -, rfl⟩ | ⟨rfl, -, rfl⟩⟩ := of_release h
  · refine hs.advance (fun _ => rfl) (fun _ => rfl) rfl ?_ ?_ ?_ fun _ => ⟨?_, rfl, rfl⟩
    · rw [hs.history, hafter, Coordinator.history_after]
    · rw [hafter, Coordinator.initiator?_after]
    · cases after <;> exact fun report => Coordinator.noConfusion
    · rw [hafter]
      exact Coordinator.noConfusion
  · refine hs.advance (fun _ => rfl) (fun _ => rfl) rfl ?_ ?_ ?_ fun h => absurd rfl h
    · rw [hs.history, hafter]
      rfl
    · rw [hafter]
      rfl
    · exact fun report => Coordinator.noConfusion

theorem join (hs : s.ReportsSound) (h : s.join w = some (s', w')) : s'.ReportsSound := by
  obtain ⟨initiator, inbound, outbound, log, hjoining, hin, hout, -, rfl⟩ := of_join h
  have hhistory : (s.history.enter .closed).1 =
      ⟨.closed, [.connected, .shuttingDown, .closed]⟩ := by
    rw [hs.history, hjoining]
    rfl
  refine ⟨hs.apart, hs.waiting, hhistory, ?_, ?_, ?_⟩
  · intro hnone
    cases hnone
  · intro first hinit
    cases hinit
    exact hs.initiator initiator (by rw [hjoining]; rfl)
  · intro report hreport
    cases hreport
    refine ⟨fun dir => ?_, congrArg History.visited hhistory⟩
    cases dir with
    | inbound => exact Inbound.gone?_eq_some_iff.2 hin
    | outbound => exact Outbound.gone?_eq_some_iff.2 hout

theorem undergo (hs : s.ReportsSound) (h : s.undergo w event = some (s', w')) :
    s'.ReportsSound := by
  cases hown : event.isCoordination with
  | false =>
    obtain ⟨hcontrol, hreportStep⟩ := reportStep h hown
    exact hs.relay hcontrol hreportStep
  | true =>
    cases controlStep h hown with
    | close _ _ h =>
      obtain ⟨hidle, rfl⟩ := of_callClose h
      exact hs.call hidle rfl rfl
    | wait _ h =>
      obtain ⟨hidle, rfl⟩ := of_callWait h
      exact hs.call hidle rfl rfl
    | drop _ h =>
      obtain ⟨hidle, rfl⟩ := of_callDrop h
      exact hs.call hidle rfl rfl
    | takeFirst _ h => exact hs.takeFirst h
    | trip _ h => exact hs.trip h
    | release h => exact hs.release h
    | join h => exact hs.join h

end ReportsSound

theorem of_report? {s : Session} {report : Report} (h : s.report? = some report) :
    s.coordinator = .finished report := by
  unfold report? at h
  split at h
  · next hfinished =>
    cases h
    exact hfinished
  · cases h

namespace System

variable {κ : Type} [Medium κ] {c c' : System κ} {s : Session} {w w' : κ} {event : Event κ}

/-! ## Exits tell what happened -/

/-- The exits by now are of the right direction, and say of those relays that have broken down, and
of no others, that they did. -/
structure ExitsSound (c : System κ) : Prop where
  direction : ∀ dir exit, c.session.exit? dir = some exit → exit.direction = dir
  panics : ∀ dir ∈ c.broken, c.session.exit? dir = some (.panicked dir)
  whole : ∀ dir exit, c.session.exit? dir = some exit → exit.cause = .panicked → dir ∈ c.broken

theorem ExitsSound.init {settings : Settings} {source : Source} {sink : Sink} {stream : Nat}
    (h : Session.start settings source sink stream w = (.ok s, w')) : (init s w').ExitsSound := by
  have hout : s.exit? .outbound = none := by
    obtain ⟨reader, writer, w₁, w₂, log, -, -, -, -, rfl⟩ := of_start h
    rfl
  have hin : s.exit? .inbound = if s.inbound.bufferSize ≤ Inbound.maxBuffer then none
      else some (.panicked .inbound) := by
    obtain ⟨reader, writer, w₁, w₂, log, -, -, -, -, rfl⟩ := of_start h
    exact Inbound.exit?_start _ _ _
  by_cases hbuffer : s.inbound.bufferSize ≤ Inbound.maxBuffer
  · rw [if_pos hbuffer] at hin
    have hnone : ∀ dir, s.exit? dir = none := fun dir => by cases dir <;> assumption
    refine ⟨?_, ?_, ?_⟩ <;> simp [System.init, hnone, hbuffer]
  · rw [if_neg hbuffer] at hin
    refine ⟨?_, ?_, ?_⟩
    · intro dir exit hexit
      cases dir with
      | inbound =>
        cases hin.symm.trans hexit
        rfl
      | outbound => cases hout.symm.trans hexit
    · intro dir hmem
      obtain rfl : dir = .inbound := by simpa [System.init, hbuffer] using hmem
      exact hin
    · intro dir exit hexit _
      cases dir with
      | inbound => simp [System.init, hbuffer]
      | outbound => cases hout.symm.trans hexit

theorem ExitsSound.step (hc : c.ExitsSound) (h : c.step event = some c') : c'.ExitsSound := by
  obtain ⟨hundergo, -, hbroken⟩ := of_step h
  refine ⟨fun dir exit hexit => ?_, fun dir hmem => ?_, fun dir exit hexit hcause => ?_⟩
  · cases exitStep hundergo dir with
    | stays hsame => exact hc.direction dir exit (hsame.symm.trans hexit)
    | ends _ hafter hregular =>
      cases hafter.symm.trans hexit
      exact hregular.direction
    | breaks _ hafter =>
      cases hafter.symm.trans hexit
      rfl
  · rw [hbroken, List.mem_append] at hmem
    cases exitStep hundergo dir with
    | stays hsame hwhole => exact hsame.trans (hc.panics dir (hmem.resolve_left hwhole))
    | ends hbefore _ _ hwhole =>
      exact absurd (hbefore.symm.trans (hc.panics dir (hmem.resolve_left hwhole))) (by simp)
    | breaks _ hafter => exact hafter
  · rw [hbroken, List.mem_append]
    cases exitStep hundergo dir with
    | stays hsame => exact .inr (hc.whole dir exit (hsame.symm.trans hexit) hcause)
    | ends _ hafter hregular =>
      cases hafter.symm.trans hexit
      exact absurd hcause hregular.whole
    | breaks _ _ hfallen => exact .inl hfallen

/-! ## No relay is cancelled first -/

/-- Nobody has called for a close: before the first exit is taken, no relay is cancelled. -/
structure NoEarlyCancel (s : Session) : Prop where
  waited : s.coordinator ≠ .tripping .idle ∧ s.coordinator ≠ .releasing .idle
  active : s.coordinator.isActive = true → s.signal.isStopping = false ∧
    ∀ dir exit, s.exit? dir = some exit → exit.cause ≠ .cancelled
  initiator : ∀ exit, s.coordinator.initiator? = some exit → exit.cause ≠ .cancelled

namespace NoEarlyCancel

variable {s' : Session}

theorem start {settings : Settings} {source : Source} {sink : Sink} {stream : Nat}
    (h : Session.start settings source sink stream w = (.ok s, w')) : NoEarlyCancel s := by
  obtain ⟨reader, writer, w₁, w₂, log, -, -, -, -, rfl⟩ := of_start h
  refine ⟨⟨Coordinator.noConfusion, Coordinator.noConfusion⟩, fun _ => ⟨rfl, ?_⟩, ?_⟩
  · intro dir exit hexit hcause
    cases dir with
    | inbound =>
      rw [exit?, Inbound.exit?_start] at hexit
      split at hexit
      · cases hexit
      · cases hexit
        cases hcause
    | outbound => cases hexit
  · intro exit hexit
    cases hexit

theorem relay (hs : NoEarlyCancel s) (h : s.undergo w event = some (s', w'))
    (hrelay : event.isCoordination = false) : NoEarlyCancel s' := by
  obtain ⟨hcontrol, hreportStep⟩ := reportStep h hrelay
  refine ⟨?_, fun hactive => ?_, ?_⟩
  · rw [hcontrol.coordinator]
    exact hs.waited
  · rw [hcontrol.coordinator] at hactive
    obtain ⟨hquiet, hexits⟩ := hs.active hactive
    refine ⟨hreportStep.isStopping_eq.trans hquiet, fun dir exit hexit => ?_⟩
    cases exitStep h dir with
    | stays hsame => exact hexits dir exit (hsame.symm.trans hexit)
    | ends _ hafter hregular =>
      cases hafter.symm.trans hexit
      intro hcause
      exact absurd (hregular.cancelled hcause) (by simp [hquiet])
    | breaks _ hafter =>
      cases hafter.symm.trans hexit
      exact Cause.noConfusion
  · rw [hcontrol.coordinator]
    exact hs.initiator

/-- Once the session ends, it only matters which exit was taken. -/
theorem ending (hactive : s'.coordinator.isActive = false)
    (hwaited : s'.coordinator ≠ .tripping .idle ∧ s'.coordinator ≠ .releasing .idle)
    (hinitiator : ∀ exit, s'.coordinator.initiator? = some exit → exit.cause ≠ .cancelled) :
    NoEarlyCancel s' :=
  ⟨hwaited, fun h => absurd (hactive.symm.trans h) Bool.noConfusion, hinitiator⟩

theorem takeFirst (hs : NoEarlyCancel s) (hknown : s.ReportsSound) (h : s.takeFirst = some s') :
    NoEarlyCancel s' := by
  obtain ⟨exit, signal, log, hawaiting, hfirst, rfl⟩ := of_takeFirst h
  obtain ⟨⟨dir, hgone⟩, -⟩ := hknown.first hawaiting hfirst
  refine ending rfl (by simp) fun first hinit => ?_
  cases hinit
  exact (hs.active (by rw [hawaiting]; rfl)).2 dir exit (exit?_of_gone? hgone)

theorem trip (hs : NoEarlyCancel s) (h : s.trip = some s') : NoEarlyCancel s' := by
  obtain ⟨after, hafter, rfl⟩ := of_trip h
  have hidle : after ≠ .idle := by
    rintro rfl
    exact hs.waited.1 hafter
  refine ending rfl (by simpa using hidle) fun first hinit => hs.initiator first ?_
  rw [hafter, ← Coordinator.initiator?_releasing]
  exact hinit

theorem release (hs : NoEarlyCancel s) (h : s.release w = some (s', w')) : NoEarlyCancel s' := by
  obtain ⟨after, log, hafter, hcases⟩ := of_release h
  have hcoordinator : s'.coordinator = after.coordinator := by
    obtain ⟨-, -, rfl⟩ | ⟨rfl, -, rfl⟩ := hcases <;> rfl
  have hidle : after ≠ .idle := by
    rintro rfl
    exact hs.waited.2 hafter
  refine ending ?_ ?_ fun first hinit => hs.initiator first ?_
  · rw [hcoordinator]
    cases after with
    | idle => exact absurd rfl hidle
    | joining | dropped => rfl
  · rw [hcoordinator]
    cases after <;> simp [After.coordinator]
  · rw [hafter, ← Coordinator.initiator?_after, ← hcoordinator]
    exact hinit

theorem join (hs : NoEarlyCancel s) (h : s.join w = some (s', w')) : NoEarlyCancel s' := by
  obtain ⟨initiator, inbound, outbound, log, hjoining, -, -, -, rfl⟩ := of_join h
  refine ending rfl (by simp) fun first hinit => hs.initiator first ?_
  rw [hjoining]
  exact hinit

theorem undergo (hs : NoEarlyCancel s) (hknown : s.ReportsSound)
    (h : s.undergo w event = some (s', w')) (hopen : event.call? ≠ some .close) :
    NoEarlyCancel s' := by
  cases hown : event.isCoordination with
  | false => exact hs.relay h hown
  | true =>
    cases controlStep h hown with
    | close hclose => exact absurd hclose hopen
    | wait _ h =>
      obtain ⟨hidle, rfl⟩ := of_callWait h
      refine ⟨by simp, fun _ => hs.active (by rw [hidle]; rfl), fun exit hexit => ?_⟩
      cases hexit
    | drop _ h =>
      obtain ⟨-, rfl⟩ := of_callDrop h
      refine ending rfl (by simp) fun exit hexit => ?_
      cases hexit
    | takeFirst _ h => exact hs.takeFirst hknown h
    | trip _ h => exact hs.trip h
    | release h => exact hs.release h
    | join h => exact hs.join h

end NoEarlyCancel

/-! ## The report -/

/-- **A session that is waited for reports what happened,** whatever interleaving, medium, input and
breakdowns it went through. -/
theorem report_states_exits {settings : Settings} {source : Source} {sink : Sink} {stream : Nat}
    {events : List (Event κ)} (hexec : exec settings source sink stream w events = some c)
    {report : Report} (hreport : c.session.report? = some report) :
    (∀ dir, (report.exit dir).direction = dir) ∧
    report.initiator = report.exit report.initiator.direction ∧
    (∀ dir ∈ c.broken, report.exit dir = ⟨dir, .panicked, 0⟩) ∧
    report.stages = [.connected, .shuttingDown, .closed] ∧
    (report.exitCode = 1 ↔ ∃ dir, dir ∈ c.broken) ∧
    (c.closed = false → report.initiator.cause ≠ .cancelled) := by
  obtain ⟨s, w', hstart, hrun⟩ := of_exec hexec
  obtain ⟨hknown, hpanics, huncancelled⟩ :
      c.session.ReportsSound ∧ c.ExitsSound ∧ (c.closed = false → NoEarlyCancel c.session) := by
    refine run_keeps (P := fun c => c.session.ReportsSound ∧ c.ExitsSound ∧ (c.closed = false →
      NoEarlyCancel c.session)) ?_ ⟨.start hstart, .init hstart, fun _ => .start hstart⟩ hrun
    rintro event - c c' ⟨hknown, hpanics, huncancelled⟩ hstep
    obtain ⟨hundergo, hclosed, -⟩ := of_step hstep
    refine ⟨hknown.undergo hundergo, hpanics.step hstep, fun hopen => ?_⟩
    rw [hclosed, Bool.or_eq_false_iff, decide_eq_false_iff_not] at hopen
    exact (huncancelled hopen.1).undergo hknown hundergo hopen.2
  have hfinished := of_report? hreport
  obtain ⟨hgone, hstages⟩ := hknown.report report hfinished
  have hinitiator : c.session.coordinator.initiator? = some report.initiator := by
    rw [hfinished]
    rfl
  have hexit : ∀ dir, c.session.exit? dir = some (report.exit dir) := fun dir =>
    exit?_of_gone? (hgone dir)
  have hdirection : ∀ dir, (report.exit dir).direction = dir := fun dir =>
    hpanics.direction dir _ (hexit dir)
  have hbroken : ∀ dir ∈ c.broken, report.exit dir = .panicked dir := fun dir hdir =>
    Option.some.inj ((hexit dir).symm.trans (hpanics.panics dir hdir))
  refine ⟨hdirection, ?_, hbroken, hstages, ?_, fun hopen => ?_⟩
  · obtain ⟨dir, hdir⟩ := hknown.initiator _ hinitiator
    obtain heq : report.initiator = report.exit dir :=
      Option.some.inj (hdir.symm.trans (hgone dir))
    rw [heq, hdirection]
  · rw [Report.exitCode_eq_one_iff]
    constructor
    · rintro ⟨dir, hcause⟩
      exact ⟨dir, hpanics.whole dir _ (hexit dir) hcause⟩
    · rintro ⟨dir, hdir⟩
      exact ⟨dir, by rw [hbroken dir hdir]; rfl⟩
  · exact (huncancelled hopen).initiator _ hinitiator

/-- Both relays break down, the inbound one over the first chunk that it shows and the outbound one
in its first send; the outbound one reports first. -/
def twoBreakdowns : Option (System Pipe) :=
  exec {} (.ofLines ["hi"]) { verdict := fun _ _ => .broke } 0 {}
    [.elsewhere fun p => ((p.send 1 [0x78]).map (·.2)).getD p, .act .receive, .act .readInput,
      .act .takeInput, .act .checkSignal, .wait, .act .handle, .crash .outbound,
      .act .reportOutbound, .act .takeFirst, .act .reportInbound, .act .trip, .act .release,
      .act .join]

theorem report_states_exits_of_breakdowns :
    ∃ c report, twoBreakdowns = some c ∧ c.session.report? = some report ∧ c.closed = false ∧
      c.broken = [.outbound, .inbound] ∧ report.initiator = report.exit .outbound ∧
      report.outbound = ⟨.outbound, .panicked, 0⟩ ∧ report.exitCode = 1 := by
  obtain ⟨c, hexec⟩ := Option.isSome_iff_exists.1 (show twoBreakdowns.isSome by decide +kernel)
  have hfacts : twoBreakdowns.map (fun c => (c.broken, c.closed, c.session.report?.isSome,
      c.session.report?.map (·.initiator.direction))) =
        some ([.outbound, .inbound], false, true, some .outbound) := by
    decide +kernel
  rw [hexec] at hfacts
  simp only [Option.map_some, Option.some.injEq, Prod.mk.injEq] at hfacts
  obtain ⟨hbroken, hclosed, hsome, hdirection⟩ := hfacts
  obtain ⟨report, hreport⟩ := Option.isSome_iff_exists.1 hsome
  obtain ⟨-, hinitiator, hfallen, -, hcode, -⟩ := report_states_exits hexec hreport
  simp only [hreport, Option.map_some, Option.some.injEq] at hdirection
  rw [hdirection] at hinitiator
  refine ⟨c, report, hexec, hreport, hclosed, hbroken, hinitiator, ?_, ?_⟩
  · exact hfallen .outbound (by simp [hbroken])
  · exact hcode.2 ⟨.outbound, by simp [hbroken]⟩

end System

end Session

end TextRelay
