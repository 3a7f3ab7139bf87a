import TextRelay.Proofs.Session.Trace

/-!
# How the end of a session begins

A run is followed in two stages. It is `NoneReported` until a relay reports; from then on it has
`FirstReported` to end, and what was known of that relay by its report stays known. Its exit is
`TakenFirst`: it is the one that the coordinator takes, or has taken.

As long as the owner has not called for a close and has not given the session up, a silent session
is `Active`: nothing has begun to end it, so no relay knows of a shutdown, and their exits are
`Untripped`.
-/

namespace TextRelay

/-- A relay that knows of no shutdown can come to this cause. -/
structure Cause.Untripped (cause : Cause) : Prop where
  uncancelled : cause ≠ .cancelled
  closure : ∀ kind closure, cause = .transport kind closure → closure = .classify kind false

namespace Session

variable {κ : Type} [Medium κ] {s s' : Session} {w w' : κ} {event : Event κ}

/-! ## Reports and their observations -/

theorem observations_report (dir : Direction) :
    s.observations w (.act (reportAction dir)) = [.reported dir] := by
  cases dir <;> rfl

theorem report_of_mem_observations {dir : Direction}
    (hmem : .reported dir ∈ s.observations w event) : event = .act (reportAction dir) := by
  rcases (observed_of_mem hmem).relay with ⟨x, hx, -⟩ | ⟨-, hseen⟩ | ⟨x, hevent, hseen⟩
  · cases hx
  · cases hseen
  · cases hseen
    exact hevent

/-- A relay is gone by its report, which tells how it had ended. -/
theorem report_of_gone {dir : Direction} {exit : Exit} (h : s.undergo w event = some (s', w'))
    (hbefore : s.gone? dir = none) (hafter : s'.gone? dir = some exit) :
    event = .act (reportAction dir) ∧ s.exit? dir = some exit := by
  have hnone : ∀ {x : Option Exit}, x = none → x = some exit → False := by
    rintro x rfl hx
    cases hx
  cases dir with
  | inbound =>
    simp only [gone?] at hbefore hafter
    cases inboundMove h with
    | rests _ hsame =>
      rw [hsame] at hafter
      exact (hnone hbefore hafter).elim
    | receives _ _ _ hnext | crashes _ _ hnext =>
      rw [hnext] at hafter
      cases hafter
    | handles _ _ hnext =>
      rw [hnext, Inbound.gone?_handle] at hafter
      exact (hnone hbefore hafter).elim
    | reports hevent hphase hnext =>
      rw [hnext] at hafter
      cases hafter
      exact ⟨hevent, Inbound.exit?_of_leaving hphase⟩
  | outbound =>
    simp only [gone?] at hbefore hafter
    cases outboundMove h with
    | rests _ hsame =>
      rw [hsame] at hafter
      exact (hnone hbefore hafter).elim
    | takes _ _ hnext =>
      rw [hnext, Outbound.gone?_take] at hafter
      cases hafter
    | cancels _ _ _ hnext | crashes _ _ hnext =>
      rw [hnext] at hafter
      cases hafter
    | checks _ _ hnext =>
      rw [hnext, Outbound.gone?_check] at hafter
      exact (hnone hbefore hafter).elim
    | sends _ _ _ hnext =>
      rw [hnext, Outbound.gone?_answer] at hafter
      exact (hnone hbefore hafter).elim
    | judges _ _ hnext =>
      rw [hnext, Outbound.gone?_judge] at hafter
      exact (hnone hbefore hafter).elim
    | reports hevent hphase hnext =>
      rw [hnext] at hafter
      cases hafter
      exact ⟨hevent, Outbound.exit?_of_leaving hphase⟩

theorem gone_of_report {dir : Direction}
    (h : s.undergo w (.act (reportAction dir)) = some (s', w')) :
    s.gone? dir = none ∧ s'.gone? dir ≠ none := by
  cases dir with
  | inbound =>
    obtain ⟨exit, hphase, -, rfl⟩ := of_reportInbound h
    exact ⟨by simp [gone?, Inbound.gone?, hphase], by simp [gone?, Inbound.gone?]⟩
  | outbound =>
    obtain ⟨exit, hphase, -, rfl⟩ := of_reportOutbound h
    exact ⟨by simp [gone?, Outbound.gone?, hphase], by simp [gone?, Outbound.gone?]⟩

/-- Where no relay goes, none reports. -/
theorem reported_notMem_observations (h : s.undergo w event = some (s', w'))
    (hsame : ∀ dir, s'.gone? dir = s.gone? dir) (dir : Direction) :
    .reported dir ∉ s.observations w event := by
  intro hmem
  obtain rfl := report_of_mem_observations hmem
  obtain ⟨hbefore, hafter⟩ := gone_of_report h
  exact hafter ((hsame dir).trans hbefore)

/-! ## Exits of relays that know of no shutdown -/

theorem cause_deliver {r : Outbound} {line : String} {d : Delivery} {exit : Exit}
    (hexit : (r.deliver line d).1.exit? = some exit) : exit.cause = .localSentinel := by
  unfold Outbound.deliver at hexit
  split at hexit
  · by_cases hline : line = r.sentinel
    · rw [Outbound.complete_sentinel hline] at hexit
      cases hexit
      rfl
    · rw [Outbound.complete_line hline] at hexit
      cases hexit
  · cases hexit

theorem closure_of_exitOn? {r : Inbound} {shuttingDown : Bool} {receipt : Except Fault Bytes}
    {exit : Exit} (hdue : r.exitOn? shuttingDown receipt = some exit) {kind : FaultKind}
    {closure : Closure} (hcause : exit.cause = .transport kind closure) :
    closure = .classify kind shuttingDown := by
  unfold Inbound.exitOn? at hdue
  split at hdue
  · cases hdue
    cases shuttingDown <;> cases hcause
  · split at hdue
    · cases hdue
      cases hcause
    · cases hdue
  · split at hdue
    · cases hdue
    · cases hdue
      cases hcause
      rfl

theorem closure_of_inbound {exit : Exit} (h : s.undergo w event = some (s', w'))
    (hbefore : s.inbound.exit? = none) (hafter : s'.inbound.exit? = some exit) {kind : FaultKind}
    {closure : Closure} (hcause : exit.cause = .transport kind closure) :
    closure = .classify kind s.signal.tripped := by
  cases inboundMove h with
  | rests _ hsame =>
    rw [hsame, hbefore] at hafter
    cases hafter
  | receives _ _ _ hnext =>
    rw [hnext] at hafter
    cases hafter
  | handles _ hphase hnext =>
    rw [hnext, Inbound.exit?_handle hphase] at hafter
    exact closure_of_exitOn? hafter hcause
  | reports _ hphase =>
    rw [Inbound.exit?_of_leaving hphase] at hbefore
    cases hbefore
  | crashes _ _ hnext =>
    rw [hnext] at hafter
    cases hafter
    cases hcause

theorem closure_of_outbound {exit : Exit} (h : s.undergo w event = some (s', w'))
    (hbefore : s.outbound.exit? = none) (hafter : s'.outbound.exit? = some exit) {kind : FaultKind}
    {closure : Closure} (hcause : exit.cause = .transport kind closure) :
    closure = .classify kind s.signal.tripped := by
  have hdelivered : ∀ {line : String} {d : Delivery},
      (s.outbound.deliver line d).1.exit? ≠ some exit := by
    intro line d hexit
    rw [cause_deliver hexit] at hcause
    cases hcause
  cases outboundMove h with
  | rests _ hsame =>
    rw [hsame, hbefore] at hafter
    cases hafter
  | @takes input _ _ hnext =>
    rw [hnext] at hafter
    cases input with
    | line => cases hafter
    | ended | failed =>
      cases hafter
      cases hcause
  | cancels _ _ _ hnext | crashes _ _ hnext =>
    rw [hnext] at hafter
    cases hafter
    cases hcause
  | checks _ hphase hnext =>
    simp only [hnext, Outbound.check, hphase] at hafter
    split at hafter
    · cases hafter
      cases hcause
    · exact absurd hafter hdelivered
  | sends _ hphase _ hnext =>
    simp only [hnext, Outbound.answer, hphase] at hafter
    split at hafter
    · exact absurd hafter hdelivered
    · cases hafter
  | judges _ hphase hnext =>
    rw [hnext, Outbound.exit?_judge hphase] at hafter
    cases hafter
    cases hcause
    rfl
  | reports _ hphase =>
    rw [Outbound.exit?_of_leaving hphase] at hbefore
    cases hbefore

/-- A fault of the stream is classified by the signal as it is when the relay ends. -/
theorem closure_of_exit {dir : Direction} {exit : Exit} (h : s.undergo w event = some (s', w'))
    (hbefore : s.exit? dir = none) (hafter : s'.exit? dir = some exit) {kind : FaultKind}
    {closure : Closure} (hcause : exit.cause = .transport kind closure) :
    closure = .classify kind s.signal.tripped := by
  cases dir with
  | inbound => exact closure_of_inbound h hbefore hafter hcause
  | outbound => exact closure_of_outbound h hbefore hafter hcause

theorem untripped_of_exit {dir : Direction} {exit : Exit} (h : s.undergo w event = some (s', w'))
    (hquiet : s.signal.isStopping = false) (hbefore : s.exit? dir = none)
    (hafter : s'.exit? dir = some exit) : exit.cause.Untripped := by
  have htripped : s.signal.tripped = false := by
    cases htripped : s.signal.tripped with
    | false => rfl
    | true =>
      rw [Signal.isStopping_of_tripped htripped] at hquiet
      cases hquiet
  refine ⟨?_, ?_⟩
  · intro hcause
    cases exitStep h dir with
    | stays hsame =>
      rw [hsame, hbefore] at hafter
      cases hafter
    | ends _ hexit hregular =>
      cases hexit.symm.trans hafter
      rw [hregular.cancelled hcause] at hquiet
      cases hquiet
    | breaks _ hexit =>
      cases hexit.symm.trans hafter
      cases hcause
  · intro kind closure hcause
    rw [closure_of_exit h hbefore hafter hcause, htripped]

theorem released_of_attributed {dir x : Direction} {seen : Observation}
    (hseen : seen ≠ .severed dir) (h : .severed dir = s.attributed x seen) :
    s.isReleased = true := by
  unfold attributed at h
  split at h
  · assumption
  · exact absurd h.symm hseen

/-- What is put down to the session's own shutdown comes after it. -/
theorem released_of_severed {dir : Direction} (hmem : .severed dir ∈ s.observations w event) :
    s.isReleased = true := by
  cases observed_of_mem hmem with
  | closes _ hseen | reports _ _ hseen => cases hseen
  | typed _ hseen => rcases hseen with hseen | hseen | hseen <;> cases hseen
  | ended _ hseen => exact released_of_attributed Observation.noConfusion hseen
  | fails _ _ _ hseen => exact released_of_attributed Observation.noConfusion hseen

/-- A session that is given up stays so. -/
theorem ne_drop_before (h : s.undergo w event = some (s', w'))
    (hne : s'.coordinator.call? ≠ some .drop) : s.coordinator.call? ≠ some .drop :=
  fun hdrop => hne (call?_of_ne_close h hdrop Call.noConfusion)

/-- Nothing has begun to end the session, and the relays know of nothing that would. -/
structure Active (past : List Observation) (s : Session) : Prop where
  coordinator : s.coordinator.isActive = true
  signal : s.signal.isStopping = false
  unsevered : ∀ dir, .severed dir ∉ past
  untripped : ∀ dir exit, s.exit? dir = some exit → exit.cause.Untripped

namespace Active

variable {past : List Observation}

/-- The session has shut nothing down yet. -/
theorem unsevered_undergo (hc : Active past s) (hordered : s.ShutdownOrdered) (dir : Direction) :
    .severed dir ∉ past ++ s.observations w event := by
  intro hmem
  rcases List.mem_append.1 hmem with hold | hnew
  · exact hc.unsevered dir hold
  · have hstopping := Signal.isStopping_of_tripped (hordered.released (released_of_severed hnew))
    rw [hc.signal] at hstopping
    cases hstopping

theorem relay (hc : Active past s) (hordered : s.ShutdownOrdered)
    (h : s.undergo w event = some (s', w'))
    (hrelay : event.isCoordination = false) : Active (past ++ s.observations w event) s' := by
  obtain ⟨hcontrol, hreportStep⟩ := reportStep h hrelay
  refine ⟨?_, hreportStep.isStopping_eq.trans hc.signal, hc.unsevered_undergo hordered, ?_⟩
  · rw [hcontrol.coordinator]
    exact hc.coordinator
  · intro dir exit hexit
    cases hbefore : s.exit? dir with
    | none => exact untripped_of_exit h hc.signal hbefore hexit
    | some before =>
      cases (exit?_mono h hbefore).symm.trans hexit
      exact hc.untripped dir exit hbefore

end Active

/-! ## Until a relay reports -/

/-- No relay has reported. Unless the owner has called for a close or has given the session up,
nothing has begun to end it. -/
structure NoneReported (past : List Observation) (s : Session) : Prop where
  unreported : ∀ dir, .reported dir ∉ past
  present : ∀ dir, s.gone? dir = none
  active : s.coordinator.call? ≠ some .drop → .closing ∉ past → Active past s

/-- The coordinator takes this exit before any other, or has taken it. -/
structure TakenFirst (s : Session) (exit : Exit) : Prop where
  queue : s.coordinator.initiator? = none → s.coordinator ≠ .dropped →
    s.signal.queue.head? = some exit
  initiator : ∀ first, s.coordinator.initiator? = some first → first = exit

/-- A relay was the first to report, after all in `before`. What warrants its exit stands there. -/
structure FirstReported (past : List Observation) (s : Session) (before : List Observation)
    (dir : Direction) (exit : Exit) : Prop where
  trace : ∃ rest, past = before ++ .reported dir :: rest
  unreported : ∀ x, .reported x ∉ before
  gone : s.gone? dir = some exit
  justified : Justified dir exit.cause (ofRelay dir before)
  active : s.coordinator.call? ≠ some .drop → .closing ∉ before →
    exit.cause.Untripped ∧ ∀ x, .severed x ∉ before
  takenFirst : s.TakenFirst exit

theorem Traced.justified {dir : Direction} {own : List Observation} (hm : s.Traced dir own)
    {exit : Exit} (hexit : s.exit? dir = some exit) : Justified dir exit.cause own := by
  cases dir with
  | inbound =>
    simp only [Traced, exit?, Inbound.exit?] at hm hexit
    split at hexit
    · next hphase =>
      rw [hphase] at hm
      cases hexit
      cases hm with
      | leaving hjustified => exact hjustified
    · next hphase =>
      rw [hphase] at hm
      cases hexit
      cases hm with
      | gone hjustified => exact hjustified
    · cases hexit
  | outbound =>
    simp only [Traced, exit?, Outbound.exit?] at hm hexit
    split at hexit
    · next hphase =>
      rw [hphase] at hm
      cases hexit
      cases hm with
      | leaving hjustified => exact hjustified
    · next hphase =>
      rw [hphase] at hm
      cases hexit
      cases hm with
      | gone hjustified => exact hjustified
    · cases hexit

namespace NoneReported

theorem start {settings : Settings} {source : Source} {sink : Sink} {stream : Nat}
    (h : Session.start settings source sink stream w = (.ok s, w')) : NoneReported [] s := by
  obtain ⟨reader, writer, w₁, w₂, log, -, -, -, -, rfl⟩ := of_start h
  refine ⟨?_, fun dir => ?_, fun _ _ => ⟨rfl, rfl, ?_, ?_⟩⟩
  · intro dir hmem
    cases hmem
  · cases dir with
    | inbound => exact Inbound.gone?_start _ _ _
    | outbound => rfl
  · intro dir hmem
    cases hmem
  · intro dir exit hexit
    cases dir with
    | inbound =>
      rw [exit?, Inbound.exit?_start] at hexit
      split at hexit
      · cases hexit
      · cases hexit
        exact ⟨Cause.noConfusion, fun _ _ hcause => by cases hcause⟩
    | outbound => cases hexit

variable {past : List Observation}

theorem controlStep (hs : NoneReported past s) (hknown : s.ReportsSound)
    (hordered : s.ShutdownOrdered)
    (h : s.undergo w event = some (s', w')) (hown : event.isCoordination = true) :
    NoneReported (past ++ s.observations w event) s' := by
  have hcontrolStep := Session.controlStep h hown
  obtain ⟨hinbound, houtbound, -⟩ := hcontrolStep.relays_eq
  have hgone : ∀ dir, s'.gone? dir = s.gone? dir := by
    intro dir
    cases dir with
    | inbound => rw [gone?, hinbound, gone?]
    | outbound => rw [gone?, houtbound, gone?]
  refine ⟨fun dir hmem => ?_, fun dir => (hgone dir).trans (hs.present dir), ?_⟩
  · rcases List.mem_append.1 hmem with hold | hnew
    · exact hs.unreported dir hold
    · exact reported_notMem_observations h hgone dir hnew
  intro hdropping hclosing
  have hactive : Active past s := hs.active (ne_drop_before h hdropping)
    fun hmem => hclosing (List.mem_append_left _ hmem)
  have hcoordinator := hactive.coordinator
  cases hcontrolStep with
  | close hclose =>
    cases event with
    | close => exact absurd (List.mem_append_right past (List.mem_singleton.2 rfl)) hclosing
    | wait | drop | act | crash | elsewhere | input => cases hclose
  | wait _ hwait =>
    obtain ⟨-, rfl⟩ := of_callWait hwait
    exact ⟨rfl, hactive.signal, hactive.unsevered_undergo hordered, hactive.untripped⟩
  | drop _ hdrop =>
    obtain ⟨-, rfl⟩ := of_callDrop hdrop
    exact absurd rfl hdropping
  | takeFirst _ htake =>
    -- nobody has reported, so there is nothing to take
    obtain ⟨exit, signal, log, hawaiting, hfirst, -⟩ := of_takeFirst htake
    obtain ⟨⟨dir, hdir⟩, -⟩ := hknown.first hawaiting hfirst
    cases (hs.present dir).symm.trans hdir
  | trip _ htrip =>
    obtain ⟨after, hafter, -⟩ := of_trip htrip
    rw [hafter] at hcoordinator
    cases hcoordinator
  | release hrelease =>
    obtain ⟨after, log, hafter, -⟩ := of_release hrelease
    rw [hafter] at hcoordinator
    cases hcoordinator
  | join hjoin =>
    obtain ⟨initiator, inbound, outbound, log, hjoining, -⟩ := of_join hjoin
    rw [hjoining] at hcoordinator
    cases hcoordinator

/-- The relay that reports now is the first. -/
theorem begin (hs : NoneReported past s) (hknown : s.ReportsSound)
    (htraced : ∀ dir, s.Traced dir (ofRelay dir past))
    (hcontrol : SameControl s s') (h : s.undergo w event = some (s', w')) {dir : Direction}
    {exit : Exit} (hafter : s'.gone? dir = some exit)
    (hsignal : s'.signal = s.signal.report (s.reporter dir) exit) :
    FirstReported (past ++ s.observations w event) s' past dir exit := by
  obtain ⟨rfl, hexit⟩ := report_of_gone h (hs.present dir) hafter
  refine ⟨⟨[], by rw [observations_report]⟩, hs.unreported, hafter, (htraced dir).justified hexit,
    ?_, ?_, ?_⟩
  · rw [hcontrol.coordinator]
    intro hdropping hclosing
    have hactive := hs.active hdropping hclosing
    exact ⟨hactive.untripped dir exit hexit, hactive.unsevered⟩
  · rw [hcontrol.coordinator]
    intro hnone hdropped
    obtain ⟨hcontrolled, hqueue⟩ := hknown.queue hnone hdropped
    have hempty : s.signal.queue = [] := by
      rw [List.eq_nil_iff_forall_not_mem]
      intro first hmem
      obtain ⟨x, hx⟩ := (hqueue first).1 hmem
      cases (hs.present x).symm.trans hx
    rw [hsignal, Signal.report, hempty, hcontrolled]
    rfl
  · rw [hcontrol.coordinator]
    intro first hfirst
    obtain ⟨x, hx⟩ := hknown.initiator first hfirst
    cases (hs.present x).symm.trans hx

theorem relay (hs : NoneReported past s) (hknown : s.ReportsSound) (hordered : s.ShutdownOrdered)
    (htraced : ∀ dir, s.Traced dir (ofRelay dir past)) (h : s.undergo w event = some (s', w'))
    (hrelay : event.isCoordination = false) :
    NoneReported (past ++ s.observations w event) s' ∨
      ∃ before dir exit, FirstReported (past ++ s.observations w event) s' before dir exit := by
  obtain ⟨hcontrol, hreportStep⟩ := reportStep h hrelay
  cases hreportStep with
  | silent _ hgone =>
    refine .inl ⟨fun dir hmem => ?_, fun dir => (hgone dir).trans (hs.present dir), ?_⟩
    · rcases List.mem_append.1 hmem with hold | hnew
      · exact hs.unreported dir hold
      · exact reported_notMem_observations h hgone dir hnew
    · intro hdropping hclosing
      have hactive := hs.active (ne_drop_before h hdropping)
        fun hmem => hclosing (List.mem_append_left _ hmem)
      exact hactive.relay hordered h hrelay
  | @reports dir exit _ hafter _ hsignal =>
    exact .inr ⟨past, dir, exit, hs.begin hknown htraced hcontrol h hafter hsignal⟩

end NoneReported

/-! ## After a relay has reported -/

namespace TakenFirst

variable {exit : Exit}

theorem relay (hf : s.TakenFirst exit) (hcontrol : SameControl s s')
    (hreportStep : ReportStep s s') : s'.TakenFirst exit := by
  refine ⟨?_, ?_⟩
  · rw [hcontrol.coordinator]
    intro hnone hdropped
    have hhead := hf.queue hnone hdropped
    cases hreportStep with
    | silent hsignal => rw [hsignal, hhead]
    | reports _ _ _ hsignal =>
      simp only [hsignal, Signal.report]
      split
      · rw [List.head?_append, hhead]
        rfl
      · exact hhead
  · rw [hcontrol.coordinator]
    exact hf.initiator

/-- The coordinator goes on, without taking anything from its queue. -/
theorem advance (hf : s.TakenFirst exit)
    (hinitiator : s'.coordinator.initiator? = s.coordinator.initiator?)
    (hqueue : s'.coordinator ≠ .dropped →
      s.coordinator ≠ .dropped ∧ s'.signal.queue = s.signal.queue) : s'.TakenFirst exit := by
  refine ⟨?_, ?_⟩
  · intro hnone hdropped
    obtain ⟨hbefore, hsame⟩ := hqueue hdropped
    rw [hsame]
    exact hf.queue (hinitiator ▸ hnone) hbefore
  · rw [hinitiator]
    exact hf.initiator

theorem call (hf : s.TakenFirst exit) (hidle : s.coordinator = .idle) {next : Coordinator}
    (hnone : next.initiator? = none) : TakenFirst { s with coordinator := next } exit := by
  refine hf.advance ?_ fun _ => ⟨?_, rfl⟩
  · rw [hidle]
    exact hnone
  · rw [hidle]
    exact Coordinator.noConfusion

theorem takeFirst (hf : s.TakenFirst exit) (h : s.takeFirst = some s') : s'.TakenFirst exit := by
  obtain ⟨taken, signal, log, hawaiting, hwait, rfl⟩ := of_takeFirst h
  have hhead : s.signal.queue.head? = some exit := by
    apply hf.queue
    · rw [hawaiting]
      rfl
    · rw [hawaiting]
      exact Coordinator.noConfusion
  refine ⟨fun hnone _ => (by cases hnone), fun first hfirst => ?_⟩
  cases hfirst
  obtain ⟨rest, hqueue, -⟩ | ⟨hqueue, -⟩ := Signal.of_waitFirst hwait
  · rw [hqueue] at hhead
    exact Option.some.inj hhead
  · rw [hqueue] at hhead
    cases hhead

theorem undergo (hf : s.TakenFirst exit) (h : s.undergo w event = some (s', w')) :
    s'.TakenFirst exit := by
  cases hown : event.isCoordination with
  | false =>
    obtain ⟨hcontrol, hreportStep⟩ := reportStep h hown
    exact hf.relay hcontrol hreportStep
  | true =>
    cases Session.controlStep h hown with
    | close _ _ hclose =>
      obtain ⟨hidle, rfl⟩ := of_callClose hclose
      exact hf.call hidle rfl
    | wait _ hwait =>
      obtain ⟨hidle, rfl⟩ := of_callWait hwait
      exact hf.call hidle rfl
    | drop _ hdrop =>
      obtain ⟨hidle, rfl⟩ := of_callDrop hdrop
      exact hf.call hidle rfl
    | takeFirst _ htake => exact hf.takeFirst htake
    | trip _ htrip =>
      obtain ⟨after, hafter, rfl⟩ := of_trip htrip
      refine hf.advance ?_ fun _ => ⟨?_, rfl⟩
      · rw [hafter, Coordinator.initiator?_releasing]
      · rw [hafter]
        exact Coordinator.noConfusion
    | release hrelease =>
      obtain ⟨after, log, hafter, ⟨-, -, rfl⟩ | ⟨rfl, -, rfl⟩⟩ := of_release hrelease
      · refine hf.advance ?_ fun _ => ⟨?_, rfl⟩
        · rw [hafter, Coordinator.initiator?_after]
        · rw [hafter]
          exact Coordinator.noConfusion
      · refine hf.advance ?_ fun hdropped => absurd rfl hdropped
        rw [hafter]
        rfl
    | join hjoin =>
      obtain ⟨initiator, inbound, outbound, log, hjoining, -, -, -, rfl⟩ := of_join hjoin
      refine ⟨fun hnone _ => (by cases hnone), fun first hfirst => ?_⟩
      cases hfirst
      exact hf.initiator initiator (by rw [hjoining]; rfl)

end TakenFirst

theorem FirstReported.undergo {past before : List Observation} {dir : Direction} {exit : Exit}
    (hb : FirstReported past s before dir exit) (h : s.undergo w event = some (s', w')) :
    FirstReported (past ++ s.observations w event) s' before dir exit where
  trace := by
    obtain ⟨rest, rfl⟩ := hb.trace
    exact ⟨rest ++ s.observations w event, by rw [List.append_assoc, List.cons_append]⟩
  unreported := hb.unreported
  gone := gone?_mono h hb.gone
  justified := hb.justified
  active hdropping := hb.active (ne_drop_before h hdropping)
  takenFirst := hb.takenFirst.undergo h

end Session

end TextRelay
