import TextRelay.Proofs.Session.Moves

/-!
# How relays come to their exits

A relay ends once, and its exit never changes after that. `Session.exitStep` says, for everything
that can happen to a session, what it can make of the exit of a relay: an exit that comes about is
of the relay's own direction, a relay is cancelled only if the signal says so, by its flag or by its
channel (`Signal.isStopping`), and it counts as broken down exactly if it is one of those that break
down in the event. `Session.reportStep` says what it can make of the reports.

The two are all that is needed of the relays to follow how a session ends.
-/

namespace TextRelay

/-- An exit that a relay comes to without breaking down. `cancelled` is whether it can know of a
cancellation. -/
structure Exit.Regular (dir : Direction) (cancelled : Bool) (exit : Exit) : Prop where
  direction : exit.direction = dir
  cancelled : exit.cause = .cancelled → cancelled = true
  whole : exit.cause ≠ .panicked

theorem Exit.Regular.mono {dir : Direction} {known known' : Bool} {exit : Exit}
    (he : exit.Regular dir known) (hknown : known = true → known' = true) :
    exit.Regular dir known' :=
  ⟨he.direction, fun hcause => hknown (he.cancelled hcause), he.whole⟩

/-! ## The signal -/

theorem Signal.of_waitFirst {s s' : Signal} {exit : Exit} (h : s.waitFirst = some (exit, s')) :
    (∃ rest, s.queue = exit :: rest ∧ s' = { s with queue := rest }) ∨
      (s.queue = [] ∧ s.mayReport = false ∧ s' = s) := by
  unfold waitFirst at h
  split at h
  · next first rest hqueue =>
    cases h
    exact .inl ⟨rest, hqueue, rfl⟩
  · next hqueue =>
    split at h
    · cases h
    · next hmay =>
      cases h
      exact .inr ⟨hqueue, by simpa using hmay, rfl⟩

/-- Whether a relay can see in the signal that the session is to end. -/
def Signal.isStopping (s : Signal) : Bool := s.tripped || s.isCancelled

theorem Signal.isStopping_of_tripped {s : Signal} (htripped : s.tripped = true) :
    s.isStopping = true := by
  rw [isStopping, htripped, Bool.true_or]

theorem Signal.isStopping_of_cancelled {s : Signal} (hcancelled : s.isCancelled = true) :
    s.isStopping = true := by
  rw [isStopping, hcancelled, Bool.or_true]

/-! ## The inbound relay -/

namespace Inbound

variable {r : Inbound} {receipt : Except Fault Bytes}

/-- A relay has its exit from the beginning only if its buffer cannot be had. -/
theorem exit?_start (peer : String) (sink : Sink) (chunkSize : Nat) :
    (start peer sink chunkSize).exit? =
      if (start peer sink chunkSize).bufferSize ≤ maxBuffer then none
      else some (.panicked .inbound) := by
  by_cases hbuffer : max chunkSize 1 ≤ maxBuffer <;> simp [start, exit?, hbuffer]

@[simp] theorem gone?_start (peer : String) (sink : Sink) (chunkSize : Nat) :
    (start peer sink chunkSize).gone? = none := by
  by_cases hbuffer : max chunkSize 1 ≤ maxBuffer <;> simp [start, gone?, hbuffer]

/-- What a receipt ends the relay with, if it does. -/
def exitOn? (r : Inbound) (shuttingDown : Bool) : Except Fault Bytes → Option Exit
  | .ok [] => some ⟨.inbound, if shuttingDown then .cancelled else .peerClosed, r.bytes⟩
  | .ok (byte :: rest) =>
    if r.sink.verdict r.sink.offered.length (Chunk.shown (byte :: rest)) = .broke
    then some (.panicked .inbound) else none
  | .error fault =>
    if fault.kind = .interrupted then none
    else some ⟨.inbound, .transport fault.kind (.classify fault.kind shuttingDown), r.bytes⟩

theorem exit?_handle (hphase : r.phase = .handling receipt) (shuttingDown : Bool) :
    (r.handle shuttingDown).1.exit? = r.exitOn? shuttingDown receipt := by
  match receipt with
  | .ok [] =>
    rw [handle_end hphase]
    rfl
  | .ok (byte :: rest) =>
    have hshown := Sink.display_fst r.sink (Chunk.shown (byte :: rest))
    simp only [handle, hphase, showChunk, exitOn?]
    split
    · next hdisplay => simp [exit?, ← hshown, hdisplay]
    · next hdisplay => simp [exit?, ← hshown, hdisplay]
    · next hdisplay => simp [exit?, ← hshown, hdisplay]
  | .error fault =>
    simp only [handle, hphase, exitOn?]
    split <;> rfl

theorem exitOn?_of_breaks (hphase : r.phase = .handling receipt) (hbreaks : r.breaks = true)
    (shuttingDown : Bool) : r.exitOn? shuttingDown receipt = some (.panicked .inbound) := by
  unfold breaks at hbreaks
  rw [hphase] at hbreaks
  match receipt with
  | .ok [] => cases hbreaks
  | .ok (byte :: rest) => exact if_pos (of_decide_eq_true hbreaks)
  | .error fault => cases hbreaks

theorem regular_of_exitOn? (hphase : r.phase = .handling receipt) (hbreaks : r.breaks = false)
    {shuttingDown : Bool} {exit : Exit} (hdue : r.exitOn? shuttingDown receipt = some exit) :
    exit.Regular .inbound shuttingDown := by
  unfold breaks at hbreaks
  rw [hphase] at hbreaks
  match receipt with
  | .ok [] =>
    cases hdue
    refine ⟨rfl, fun hcause => ?_, ?_⟩ <;> cases shuttingDown <;> simp_all
  | .ok (byte :: rest) =>
    rw [exitOn?, if_neg (of_decide_eq_false hbreaks)] at hdue
    cases hdue
  | .error fault =>
    simp only [exitOn?] at hdue
    split at hdue
    · cases hdue
    · cases hdue
      exact ⟨rfl, by simp, by simp⟩

end Inbound

/-! ## The outbound relay -/

namespace Outbound

variable {r : Outbound} {exit : Exit}

theorem regular_leave {cause : Cause} {known : Bool} (hwhole : cause ≠ .panicked)
    (hcancelled : cause = .cancelled → known = true) (hexit : (r.leave cause).1.exit? = some exit) :
    exit.Regular .outbound known := by
  cases hexit
  exact ⟨rfl, hcancelled, hwhole⟩

theorem regular_take {event : InputEvent} (hexit : (r.take event).1.exit? = some exit) :
    exit.Regular .outbound false := by
  cases event with
  | line text => cases hexit
  | ended => exact regular_leave (by simp) (by simp) hexit
  | failed fault => exact regular_leave (by simp) (by simp) hexit

theorem regular_deliver {line : String} {d : Delivery}
    (hexit : (r.deliver line d).1.exit? = some exit) : exit.Regular .outbound false := by
  unfold deliver at hexit
  split at hexit
  · by_cases hline : line = r.sentinel
    · rw [complete_sentinel hline] at hexit
      cases hexit
      exact ⟨rfl, by simp, by simp⟩
    · rw [complete_line hline] at hexit
      cases hexit
  · cases hexit

theorem regular_check {line : String} {shuttingDown : Bool} (hphase : r.phase = .holding line)
    (hexit : (r.check shuttingDown).1.exit? = some exit) : exit.Regular .outbound shuttingDown := by
  simp only [check, hphase] at hexit
  split at hexit
  · next htripped => exact regular_leave (by simp) (fun _ => htripped) hexit
  · exact (regular_deliver hexit).mono (by simp)

theorem regular_answer {line : String} {d : Delivery} {result : Except Fault Nat}
    (hphase : r.phase = .sending line d) (hexit : (r.answer result).1.exit? = some exit) :
    exit.Regular .outbound false := by
  simp only [answer, hphase] at hexit
  split at hexit
  · exact regular_deliver hexit
  · cases hexit

theorem exit?_judge {fault : Fault} (hphase : r.phase = .failing fault) (shuttingDown : Bool) :
    (r.judge shuttingDown).1.exit? =
      some ⟨.outbound, .transport fault.kind (.classify fault.kind shuttingDown), r.bytes⟩ := by
  simp only [judge, hphase]
  rfl

end Outbound

namespace Session

variable {κ : Type} [Medium κ] {s s' : Session} {w w' : κ} {event : Event κ}

/-! ## Exits -/

/-- What can become of the exit of a relay in an event. -/
inductive ExitStep (s : Session) (event : Event κ) (s' : Session) (dir : Direction) : Prop where
  | stays (hexit : s'.exit? dir = s.exit? dir) (hwhole : dir ∉ s.breakdowns event)
  | ends {exit : Exit} (hbefore : s.exit? dir = none) (hafter : s'.exit? dir = some exit)
    (hregular : exit.Regular dir s.signal.isStopping) (hwhole : dir ∉ s.breakdowns event)
  | breaks (hbefore : s.exit? dir = none) (hafter : s'.exit? dir = some (.panicked dir))
    (hbroken : dir ∈ s.breakdowns event)

omit [Medium κ] in
theorem ExitStep.of_regular {dir : Direction} (hbefore : s.exit? dir = none)
    (hwhole : dir ∉ s.breakdowns event)
    (hregular : ∀ exit, s'.exit? dir = some exit → exit.Regular dir s.signal.isStopping) :
    ExitStep s event s' dir := by
  cases hafter : s'.exit? dir with
  | none => exact .stays (hafter.trans hbefore.symm) hwhole
  | some exit => exact .ends hbefore hafter (hregular exit hafter) hwhole

omit [Medium κ] in
/-- Only a relay's own steps can break it down. -/
theorem not_mem_breakdowns {dir : Direction} (hof : event.isOf dir = false) :
    dir ∉ s.breakdowns event := by
  cases event with
  | crash direction =>
    have hne : direction ≠ dir := of_decide_eq_false hof
    simp [breakdowns, hne.symm]
  | act action =>
    have hne : action.relay? ≠ some dir := of_decide_eq_false hof
    cases action with
    | handle =>
      have hdir : dir ≠ .inbound := fun h => hne (congrArg some h.symm)
      simp [breakdowns, hdir]
    | readInput | dropInput | receive | reportInbound | takeInput | cancelInput | checkSignal | send
    | judgeFault | reportOutbound | takeFirst | trip | release | join => simp [breakdowns]
  | close | wait | drop | elsewhere | input => simp [breakdowns]

omit [Medium κ] in
theorem ExitStep.of_outbound {known : Bool} {next : Outbound} (hbefore : s.outbound.exit? = none)
    (hwhole : .outbound ∉ s.breakdowns event) (hnext : s'.outbound = next)
    (hknown : known = true → s.signal.isStopping = true)
    (hregular : ∀ exit, next.exit? = some exit → exit.Regular .outbound known) :
    ExitStep s event s' .outbound := by
  subst hnext
  exact .of_regular hbefore hwhole fun exit hexit => (hregular exit hexit).mono hknown

theorem exitStep_inbound (h : s.undergo w event = some (s', w')) :
    ExitStep s event s' .inbound := by
  cases inboundMove h with
  | rests hof hsame => exact .stays (congrArg Inbound.exit? hsame) (not_mem_breakdowns hof)
  | receives hevent hphase _ hnext =>
    subst hevent
    refine .stays ?_ (by simp [breakdowns])
    simp [exit?, hnext, Inbound.exit?, Inbound.receive, hphase]
  | @handles receipt hevent hphase hnext =>
    subst hevent
    have hbefore : s.exit? .inbound = none := by simp [exit?, Inbound.exit?, hphase]
    have hexit : s'.exit? .inbound = s.inbound.exitOn? s.signal.tripped receipt := by
      rw [exit?, hnext, Inbound.exit?_handle hphase]
    cases hbreaks : s.inbound.breaks with
    | true =>
      rw [Inbound.exitOn?_of_breaks hphase hbreaks] at hexit
      exact .breaks hbefore hexit (by simp [breakdowns, hbreaks])
    | false =>
      refine .of_regular hbefore (by simp [breakdowns, hbreaks]) fun exit hafter => ?_
      have hregular := Inbound.regular_of_exitOn? hphase hbreaks (hexit.symm.trans hafter)
      exact hregular.mono Signal.isStopping_of_tripped
  | reports hevent hphase hnext =>
    subst hevent
    refine .stays ?_ (by simp [breakdowns])
    simp [exit?, hnext, Inbound.exit?, hphase]
  | crashes hevent hphase hnext =>
    subst hevent
    refine .breaks ?_ ?_ (by simp [breakdowns])
    · simp [exit?, Inbound.exit?, hphase]
    · simp [exit?, hnext, Inbound.exit?]

theorem exitStep_outbound (h : s.undergo w event = some (s', w')) :
    ExitStep s event s' .outbound := by
  cases outboundMove h with
  | rests hof hsame => exact .stays (congrArg Outbound.exit? hsame) (not_mem_breakdowns hof)
  | takes hevent hphase hnext =>
    subst hevent
    have hbefore : s.outbound.exit? = none := by simp [Outbound.exit?, hphase]
    exact .of_outbound hbefore (by simp [breakdowns]) hnext (by simp) fun exit =>
      Outbound.regular_take
  | cancels hevent hphase hcancelled hnext =>
    subst hevent
    have hbefore : s.outbound.exit? = none := by simp [Outbound.exit?, hphase]
    exact .of_outbound hbefore (by simp [breakdowns]) hnext (fun _ =>
      Signal.isStopping_of_cancelled hcancelled)
      fun exit => Outbound.regular_leave (by simp) fun _ => rfl
  | checks hevent hphase hnext =>
    subst hevent
    have hbefore : s.outbound.exit? = none := by simp [Outbound.exit?, hphase]
    exact .of_outbound hbefore (by simp [breakdowns]) hnext Signal.isStopping_of_tripped
      fun exit => Outbound.regular_check hphase
  | sends hevent hphase _ hnext =>
    subst hevent
    have hbefore : s.outbound.exit? = none := by simp [Outbound.exit?, hphase]
    exact .of_outbound hbefore (by simp [breakdowns]) hnext (by simp) fun exit =>
      Outbound.regular_answer hphase
  | judges hevent hphase hnext =>
    subst hevent
    have hbefore : s.outbound.exit? = none := by simp [Outbound.exit?, hphase]
    refine .of_outbound hbefore (by simp [breakdowns]) hnext
      (fun hknown : false = true => absurd hknown Bool.false_ne_true) fun exit hexit => ?_
    cases (Outbound.exit?_judge hphase _).symm.trans hexit
    exact ⟨rfl, by simp, by simp⟩
  | reports hevent hphase hnext =>
    subst hevent
    refine .stays ?_ (by simp [breakdowns])
    simp [exit?, hnext, Outbound.exit?, hphase]
  | crashes hevent hphase hnext =>
    subst hevent
    have hbefore : s.exit? .outbound = none := by simp [exit?, Outbound.exit?, hphase]
    refine .breaks hbefore ?_ (by simp [breakdowns])
    simp [exit?, hnext, Outbound.exit?]

/-- **Whatever happens, a relay's exit stays, or comes about in a regular way, or the relay is one
that breaks down.** -/
theorem exitStep (h : s.undergo w event = some (s', w')) (dir : Direction) :
    ExitStep s event s' dir := by
  cases dir with
  | inbound => exact exitStep_inbound h
  | outbound => exact exitStep_outbound h

theorem exit?_mono (h : s.undergo w event = some (s', w')) {dir : Direction} {exit : Exit}
    (hexit : s.exit? dir = some exit) : s'.exit? dir = some exit := by
  cases exitStep h dir with
  | stays hstays => exact hstays.trans hexit
  | ends hbefore => exact absurd (hbefore.symm.trans hexit) (by simp)
  | breaks hbefore => exact absurd (hbefore.symm.trans hexit) (by simp)

/-! ## Reports -/

/-- Whether an event is of the coordinator or a call of its owner. -/
def Event.isCoordination : Event κ → Bool
  | close | wait | drop => true
  | act action => action.party = .coordinator
  | crash _ | elsewhere _ | input _ => false

def reporter (s : Session) : Direction → Nat
  | .inbound => s.inboundReporter
  | .outbound => s.outboundReporter

/-- The numbers of the handles of the inbound relay, the outbound relay and the coordinator. -/
def handles (s : Session) : Nat × Nat × Nat := (s.reader, s.writer, s.closer)

/-- The coordinator's part of a session is as it was. -/
structure SameControl (s s' : Session) : Prop where
  coordinator : s'.coordinator = s.coordinator
  history : s'.history = s.history
  isReleased : s'.isReleased = s.isReleased
  handles : s'.handles = s.handles
  reporter : ∀ dir, s'.reporter dir = s.reporter dir

/-- What can become of the reports while the coordinator does nothing. -/
inductive ReportStep (s s' : Session) : Prop where
  | silent (hsignal : s'.signal = s.signal) (hgone : ∀ dir, s'.gone? dir = s.gone? dir)
  | reports {dir : Direction} {exit : Exit} (hbefore : s.gone? dir = none)
    (hafter : s'.gone? dir = some exit) (hothers : ∀ x, x ≠ dir → s'.gone? x = s.gone? x)
    (hsignal : s'.signal = s.signal.report (s.reporter dir) exit)

theorem SameControl.of_eq (hcoordinator : s'.coordinator = s.coordinator)
    (hhistory : s'.history = s.history) (hreleased : s'.isReleased = s.isReleased)
    (hhandles : s'.handles = s.handles) (hinbound : s'.inboundReporter = s.inboundReporter)
    (houtbound : s'.outboundReporter = s.outboundReporter) : SameControl s s' := by
  refine ⟨hcoordinator, hhistory, hreleased, hhandles, fun dir => ?_⟩
  cases dir with
  | inbound => exact hinbound
  | outbound => exact houtbound

theorem ReportStep.of_eq (hsignal : s'.signal = s.signal)
    (hinbound : s'.inbound.gone? = s.inbound.gone?)
    (houtbound : s'.outbound.gone? = s.outbound.gone?) : ReportStep s s' := by
  refine .silent hsignal fun dir => ?_
  cases dir with
  | inbound => exact hinbound
  | outbound => exact houtbound

theorem ReportStep.gone?_mono (hr : ReportStep s s') {dir : Direction} {exit : Exit}
    (hgone : s.gone? dir = some exit) : s'.gone? dir = some exit := by
  cases hr with
  | silent _ hsame => rw [hsame dir, hgone]
  | @reports reporter _ hbefore _ hothers =>
    have hne : dir ≠ reporter := by
      rintro rfl
      cases hbefore.symm.trans hgone
    rw [hothers dir hne, hgone]

/-- Reports leave the flag and the channel alone. -/
theorem ReportStep.flags_eq (hr : ReportStep s s') :
    s'.signal.tripped = s.signal.tripped ∧ s'.signal.isCancelled = s.signal.isCancelled := by
  cases hr with
  | silent hsignal => rw [hsignal]; exact ⟨rfl, rfl⟩
  | reports _ _ _ hsignal =>
    rw [hsignal]
    exact ⟨rfl, rfl⟩

theorem ReportStep.isStopping_eq (hr : ReportStep s s') :
    s'.signal.isStopping = s.signal.isStopping := by
  rw [Signal.isStopping, hr.flags_eq.1, hr.flags_eq.2]
  rfl

theorem reportStep_step {action : Action} (h : s.step w action = some (s', w'))
    (hparty : action.party ≠ .coordinator) : SameControl s s' ∧ ReportStep s s' := by
  cases action with
  | readInput =>
    obtain ⟨pump, -, rfl⟩ := of_readInput (of_map h).1
    exact ⟨.of_eq rfl rfl rfl rfl rfl rfl, .of_eq rfl rfl rfl⟩
  | dropInput =>
    obtain ⟨exit, pump, -, -, rfl⟩ := of_dropInput (of_map h).1
    exact ⟨.of_eq rfl rfl rfl rfl rfl rfl, .of_eq rfl rfl rfl⟩
  | receive =>
    obtain ⟨receipt, hphase, -, rfl⟩ := of_receive h
    refine ⟨.of_eq rfl rfl rfl rfl rfl rfl, .of_eq rfl ?_ rfl⟩
    simp [Inbound.gone?, Inbound.receive, hphase]
  | handle =>
    obtain ⟨receipt, log, -, rfl, -⟩ := of_handle h
    exact ⟨.of_eq rfl rfl rfl rfl rfl rfl, .of_eq rfl (Inbound.gone?_handle _ _) rfl⟩
  | reportInbound =>
    obtain ⟨exit, hphase, -, rfl⟩ := of_reportInbound h
    have hbefore : s.gone? .inbound = none := by simp [gone?, Inbound.gone?, hphase]
    refine ⟨.of_eq rfl rfl rfl rfl rfl rfl, .reports hbefore rfl ?_ rfl⟩
    intro dir hdir
    cases dir with
    | inbound => exact absurd rfl hdir
    | outbound => rfl
  | takeInput =>
    obtain ⟨input, pump, log, hphase, -, rfl⟩ := of_takeInput (of_map h).1
    refine ⟨.of_eq rfl rfl rfl rfl rfl rfl, .of_eq rfl rfl ?_⟩
    rw [Outbound.gone?_take, Outbound.gone?, hphase]
  | cancelInput =>
    obtain ⟨log, hphase, -, rfl⟩ := of_cancelInput (of_map h).1
    refine ⟨.of_eq rfl rfl rfl rfl rfl rfl, .of_eq rfl rfl ?_⟩
    rw [Outbound.cancel, Outbound.gone?_leave, Outbound.gone?, hphase]
  | checkSignal =>
    obtain ⟨line, log, -, rfl⟩ := of_checkSignal (of_map h).1
    exact ⟨.of_eq rfl rfl rfl rfl rfl rfl, .of_eq rfl rfl (Outbound.gone?_check _ _)⟩
  | send =>
    obtain ⟨data, result, log, -, -, rfl⟩ := of_send h
    exact ⟨.of_eq rfl rfl rfl rfl rfl rfl, .of_eq rfl rfl (Outbound.gone?_answer _ _)⟩
  | judgeFault =>
    obtain ⟨fault, log, -, rfl⟩ := of_judgeFault (of_map h).1
    exact ⟨.of_eq rfl rfl rfl rfl rfl rfl, .of_eq rfl rfl (Outbound.gone?_judge _ _)⟩
  | reportOutbound =>
    obtain ⟨exit, hphase, -, rfl⟩ := of_reportOutbound h
    have hbefore : s.gone? .outbound = none := by simp [gone?, Outbound.gone?, hphase]
    refine ⟨.of_eq rfl rfl rfl rfl rfl rfl, .reports hbefore rfl ?_ rfl⟩
    intro dir hdir
    cases dir with
    | inbound => rfl
    | outbound => exact absurd rfl hdir
  | takeFirst | trip | release | join => exact absurd rfl hparty

/-- **While the coordinator does nothing, a relay reports once, and then it is gone.** -/
theorem reportStep (h : s.undergo w event = some (s', w')) (hrelay : event.isCoordination = false) :
    SameControl s s' ∧ ReportStep s s' := by
  cases event with
  | close | wait | drop => cases hrelay
  | act action => exact reportStep_step h (of_decide_eq_false hrelay)
  | crash direction =>
    obtain ⟨rfl, hphase, rfl⟩ | ⟨rfl, ⟨line, d, hphase⟩, rfl⟩ := of_crash (of_map h).1
    · exact ⟨.of_eq rfl rfl rfl rfl rfl rfl, .of_eq rfl (by simp [Inbound.gone?, hphase]) rfl⟩
    · exact ⟨.of_eq rfl rfl rfl rfl rfl rfl, .of_eq rfl rfl (by simp [Outbound.gone?, hphase])⟩
  | elsewhere change =>
    cases h
    exact ⟨.of_eq rfl rfl rfl rfl rfl rfl, .of_eq rfl rfl rfl⟩
  | input change =>
    cases h
    exact ⟨.of_eq rfl rfl rfl rfl rfl rfl, .of_eq rfl rfl rfl⟩

/-! ## The coordinator -/

/-- What can be done in an event of the coordinator. -/
inductive ControlStep (s : Session) (w : κ) (event : Event κ) (s' : Session) (w' : κ) : Prop where
  | close (hclose : event.call? = some .close) (hw : w' = w) (h : s.callClose = some s')
  | wait (hw : w' = w) (h : s.callWait = some s')
  | drop (hw : w' = w) (h : s.callDrop = some s')
  | takeFirst (hw : w' = w) (h : s.takeFirst = some s')
  | trip (hw : w' = w) (h : s.trip = some s')
  | release (h : s.release w = some (s', w'))
  | join (h : s.join w = some (s', w'))

theorem controlStep (h : s.undergo w event = some (s', w')) (hown : event.isCoordination = true) :
    ControlStep s w event s' w' := by
  cases event with
  | close => exact .close rfl (of_map h).2 (of_map h).1
  | wait => exact .wait (of_map h).2 (of_map h).1
  | drop => exact .drop (of_map h).2 (of_map h).1
  | act action =>
    cases action with
    | takeFirst => exact .takeFirst (of_map h).2 (of_map h).1
    | trip => exact .trip (of_map h).2 (of_map h).1
    | release => exact .release h
    | join => exact .join h
    | readInput | dropInput | receive | handle | reportInbound | takeInput | cancelInput
    | checkSignal | send | judgeFault | reportOutbound => cases hown
  | crash | elsewhere | input => cases hown

/-- The coordinator leaves the relays alone. -/
theorem ControlStep.relays_eq (hc : ControlStep s w event s' w') :
    s'.inbound = s.inbound ∧ s'.outbound = s.outbound ∧ s'.handles = s.handles := by
  cases hc with
  | close _ _ h =>
    obtain ⟨-, rfl⟩ := of_callClose h
    exact ⟨rfl, rfl, rfl⟩
  | wait _ h =>
    obtain ⟨-, rfl⟩ := of_callWait h
    exact ⟨rfl, rfl, rfl⟩
  | drop _ h =>
    obtain ⟨-, rfl⟩ := of_callDrop h
    exact ⟨rfl, rfl, rfl⟩
  | takeFirst _ h =>
    obtain ⟨exit, signal, log, -, -, rfl⟩ := of_takeFirst h
    exact ⟨rfl, rfl, rfl⟩
  | trip _ h =>
    obtain ⟨after, -, rfl⟩ := of_trip h
    exact ⟨rfl, rfl, rfl⟩
  | release h =>
    obtain ⟨after, log, -, ⟨-, -, rfl⟩ | ⟨-, -, rfl⟩⟩ := of_release h
    · exact ⟨rfl, rfl, rfl⟩
    · exact ⟨rfl, rfl, rfl⟩
  | join h =>
    obtain ⟨initiator, inbound, outbound, log, -, -, -, -, rfl⟩ := of_join h
    exact ⟨rfl, rfl, rfl⟩

theorem gone?_mono (h : s.undergo w event = some (s', w')) {dir : Direction} {exit : Exit}
    (hgone : s.gone? dir = some exit) : s'.gone? dir = some exit := by
  cases hown : event.isCoordination with
  | false => exact (reportStep h hown).2.gone?_mono hgone
  | true =>
    obtain ⟨hinbound, houtbound, -⟩ := (controlStep h hown).relays_eq
    cases dir with
    | inbound => rwa [gone?, hinbound]
    | outbound => rwa [gone?, houtbound]

/-- The numbers of a session's handles are fixed. -/
theorem handles_undergo (h : s.undergo w event = some (s', w')) :
    s'.reader = s.reader ∧ s'.writer = s.writer ∧ s'.closer = s.closer := by
  have hhandles : s'.handles = s.handles := by
    cases hown : event.isCoordination with
    | false => exact (reportStep h hown).1.handles
    | true => exact (controlStep h hown).relays_eq.2.2
  simpa [handles] using hhandles

/-- Only the coordinator shuts the stream down, on its way or at its end. -/
theorem release_or_join_of_new (h : s.undergo w event = some (s', w'))
    (hnew : s'.isReleased ≠ s.isReleased) :
    s.release w = some (s', w') ∨ s.join w = some (s', w') := by
  cases hown : event.isCoordination with
  | false => exact absurd (reportStep h hown).1.isReleased hnew
  | true =>
    cases controlStep h hown with
    | close _ _ h => exact absurd (congrArg isReleased (of_callClose h).2) hnew
    | wait _ h => exact absurd (congrArg isReleased (of_callWait h).2) hnew
    | drop _ h => exact absurd (congrArg isReleased (of_callDrop h).2) hnew
    | takeFirst _ h =>
      obtain ⟨exit, signal, log, -, -, rfl⟩ := of_takeFirst h
      exact absurd rfl hnew
    | trip _ h =>
      obtain ⟨after, -, rfl⟩ := of_trip h
      exact absurd rfl hnew
    | release h => exact .inl h
    | join h => exact .inr h

end Session

end TextRelay
