import TextRelay.Proofs.Session.Reports
import TextRelay.Proofs.Session.Shutdown

/-!
# What happens to a session, seen from outside

The observations of a run are about what happened, and not about what the relays made of it: the
owner calls for a close, the sentinel is out, the input ends or fails, the stream is found at its
end, a call on it fails, a relay reports. What is found of the stream after the session has itself
shut it down is a case of its own.

Each relay ends once, and by one thing. `Traced` ties the state of the relays to the observations so
far: how a relay has ended is `Justified` by the one observation of it, or it was cancelled or has
broken down, and then there is none.
-/

namespace TextRelay

namespace Session

/-! ## Observations -/

/-- What can be observed of the run of a session. -/
inductive Observation where
  /-- The owner calls for a close. -/
  | closing
  /-- The sentinel is out in full. -/
  | sentinelSent
  | inputEnded
  | inputFailed
  /-- The stream is found at its end, and it is not the session that has shut it down. -/
  | peerClosed
  /-- A call on the stream fails that the session has not shut down. -/
  | failed (dir : Direction) (kind : FaultKind)
  /-- The stream is found at its end, or a call on it fails, and the session has shut it down. -/
  | severed (dir : Direction)
  /-- A relay reports that it has ended. -/
  | reported (dir : Direction)
  deriving DecidableEq

/-- The relay to which something has happened. -/
def Observation.relay? : Observation → Option Direction
  | sentinelSent | inputEnded | inputFailed => some .outbound
  | peerClosed => some .inbound
  | failed dir _ | severed dir => some dir
  | closing | reported _ => none

variable {κ : Type}

/-- What a relay finds of the stream, if it is not what the session has done to it. -/
def attributed (s : Session) (dir : Direction) (seen : Observation) : Observation :=
  if s.isReleased then .severed dir else seen

/-- The observations of an event. -/
def observations [Medium κ] (s : Session) (w : κ) : Event κ → List Observation
  | .close => [.closing]
  | .act .receive => match Medium.receive w s.reader s.inbound.bufferSize with
    | some (.ok [], _) => [s.attributed .inbound .peerClosed]
    | some (.error fault, _) =>
      if fault.kind = .interrupted then []
        else [s.attributed .inbound (.failed .inbound fault.kind)]
    | _ => []
  | .act .takeInput => match s.pump.take with
    | some (event, _) => match event.getD .ended with
      | .line _ => []
      | .ended => [.inputEnded]
      | .failed _ => [.inputFailed]
    | none => []
  | .act .checkSignal => match s.outbound.phase with
    | .holding line =>
      -- an empty line is out without a call
      let d : Delivery := { data := Line.encode line }
      if s.signal.tripped then []
      else if d.isDone = true ∧ line = s.outbound.sentinel then [.sentinelSent] else []
    | _ => []
  | .act .send => match s.outbound.phase with
    | .sending line d => match Medium.send w s.writer d.remaining with
      | some (result, _) => match d.feed result with
        | .ok next =>
          if next.isDone = true ∧ line = s.outbound.sentinel then [.sentinelSent] else []
        | .error fault => [s.attributed .outbound (.failed .outbound fault.kind)]
      | none => []
    | _ => []
  | .act .reportInbound => [.reported .inbound]
  | .act .reportOutbound => [.reported .outbound]
  | _ => []

/-- All observations of a run. -/
def System.trace [Medium κ] : System κ → List (Event κ) → List Observation
  | _, [] => []
  | c, event :: rest => c.session.observations c.medium event ++ match c.step event with
    | some c' => c'.trace rest
    | none => []

variable [Medium κ]

/-- What holds of the observations so far and of the system that they have led to, and is kept by
every event, holds of the trace of a whole run. -/
theorem System.run_trace {P : List Observation → System κ → Prop}
    (hstep : ∀ past c c' event, P past c → c.step event = some c' →
      P (past ++ c.session.observations c.medium event) c')
    {past : List Observation} {c c' : System κ} {events : List (Event κ)} (hc : P past c)
    (hrun : c.run events = some c') : P (past ++ c.trace events) c' := by
  induction events generalizing past c with
  | nil =>
    cases hrun
    rwa [trace, List.append_nil]
  | cons event rest ih =>
    obtain ⟨c₁, hfirst, hrest⟩ := Option.bind_eq_some_iff.1 hrun
    have hnext := ih (hstep past c c₁ event hc hfirst) hrest
    rwa [trace, hfirst, ← List.append_assoc]

/-- The observations about a relay. -/
def ofRelay (dir : Direction) (observations : List Observation) : List Observation :=
  observations.filter fun seen => seen.relay? = some dir

/-- The step in which a relay reports. -/
def reportAction : Direction → Action
  | .inbound => .reportInbound
  | .outbound => .reportOutbound

/-- The events in which something is observed. -/
inductive Observed (s : Session) (event : Event κ) (seen : Observation) : Prop where
  | closes (hevent : event = .close) (hseen : seen = .closing)
  | reports (dir : Direction) (hevent : event = .act (reportAction dir))
    (hseen : seen = .reported dir)
  | typed (hevent : event = .act .takeInput ∨ event = .act .checkSignal ∨ event = .act .send)
    (hseen : seen = .inputEnded ∨ seen = .inputFailed ∨ seen = .sentinelSent)
  | ended (hevent : event = .act .receive) (hseen : seen = s.attributed .inbound .peerClosed)
  | fails (dir : Direction) (kind : FaultKind) (hof : event.isOf dir = true)
    (hseen : seen = s.attributed dir (.failed dir kind))

variable {s s' : Session} {w w' : κ} {event : Event κ} {seen : Observation} {dir : Direction}

theorem observed_of_mem (hseen : seen ∈ s.observations w event) : Observed s event seen := by
  cases event with
  | close => exact .closes rfl (List.mem_singleton.1 hseen)
  | act action =>
    cases action with
    | receive =>
      simp only [observations] at hseen
      split at hseen
      · exact .ended rfl (List.mem_singleton.1 hseen)
      · split at hseen
        · cases hseen
        · exact .fails .inbound _ rfl (List.mem_singleton.1 hseen)
      · cases hseen
    | takeInput =>
      simp only [observations] at hseen
      split at hseen
      · split at hseen
        · cases hseen
        · exact .typed (.inl rfl) (.inl (List.mem_singleton.1 hseen))
        · exact .typed (.inl rfl) (.inr (.inl (List.mem_singleton.1 hseen)))
      · cases hseen
    | checkSignal =>
      simp only [observations] at hseen
      split at hseen
      · split at hseen
        · cases hseen
        · split at hseen
          · exact .typed (.inr (.inl rfl)) (.inr (.inr (List.mem_singleton.1 hseen)))
          · cases hseen
      · cases hseen
    | send =>
      simp only [observations] at hseen
      split at hseen
      · split at hseen
        · split at hseen
          · split at hseen
            · exact .typed (.inr (.inr rfl)) (.inr (.inr (List.mem_singleton.1 hseen)))
            · cases hseen
          · exact .fails .outbound _ rfl (List.mem_singleton.1 hseen)
        · cases hseen
      · cases hseen
    | reportInbound => exact .reports .inbound rfl (List.mem_singleton.1 hseen)
    | reportOutbound => exact .reports .outbound rfl (List.mem_singleton.1 hseen)
    | readInput | dropInput | handle | cancelInput | judgeFault | takeFirst | trip | release
    | join => cases hseen
  | wait | drop | crash | elsewhere | input => cases hseen

theorem relay?_attributed (s : Session) (hseen : seen.relay? = some dir) :
    (s.attributed dir seen).relay? = some dir := by
  unfold attributed
  split
  · rfl
  · exact hseen

omit [Medium κ] in
/-- An observation is about the relay whose step it is made in, unless it is of a close or a report.
-/
theorem Observed.relay (hn : Observed s event seen) :
    (∃ dir, seen.relay? = some dir ∧ event.isOf dir = true) ∨
      event = .close ∧ seen = .closing ∨
      ∃ dir, event = .act (reportAction dir) ∧ seen = .reported dir := by
  cases hn with
  | closes hevent hseen => exact .inr (.inl ⟨hevent, hseen⟩)
  | reports dir hevent hseen => exact .inr (.inr ⟨dir, hevent, hseen⟩)
  | typed hevent hseen =>
    refine .inl ⟨.outbound, ?_, ?_⟩
    · rcases hseen with rfl | rfl | rfl <;> rfl
    · rcases hevent with rfl | rfl | rfl <;> rfl
  | ended hevent hseen =>
    subst hevent hseen
    exact .inl ⟨.inbound, s.relay?_attributed rfl, rfl⟩
  | fails dir kind hof hseen =>
    subst hseen
    exact .inl ⟨dir, s.relay?_attributed rfl, hof⟩

/-- An event is observed of a relay only if it is a step of it. -/
theorem isOf_of_mem_observations (hseen : seen ∈ s.observations w event)
    (hdir : seen.relay? = some dir) : event.isOf dir = true := by
  rcases (observed_of_mem hseen).relay with ⟨x, hx, hof⟩ | ⟨-, rfl⟩ | ⟨x, -, rfl⟩
  · cases hdir.symm.trans hx
    exact hof
  · cases hdir
  · cases hdir

theorem ofRelay_observations_eq_nil (hof : event.isOf dir = false) :
    ofRelay dir (s.observations w event) = [] := by
  rw [ofRelay, List.filter_eq_nil_iff]
  intro seen hseen hdir
  have hown := isOf_of_mem_observations hseen (of_decide_eq_true hdir)
  rw [hof] at hown
  cases hown

/-- What is observed in the steps of a relay, but for its report, is about it. -/
theorem ofRelay_observations_eq_self {action : Action} (hof : action.relay? = some dir)
    (hreport : action ≠ reportAction dir) :
    ofRelay dir (s.observations w (.act action)) = s.observations w (.act action) := by
  rw [ofRelay, List.filter_eq_self]
  intro seen hseen
  rcases (observed_of_mem hseen).relay with ⟨x, hx, hown⟩ | ⟨hevent, -⟩ | ⟨x, hevent, -⟩
  · cases hof.symm.trans (of_decide_eq_true hown)
    exact decide_eq_true hx
  · cases hevent
  · cases hevent
    have hsame : dir = x := by
      cases x <;> exact (Option.some.inj hof).symm
    exact absurd (congrArg reportAction hsame.symm) hreport

/-! ## How relays end -/

/-- Why a relay has ended is what was observed of it. -/
inductive Justified : Direction → Cause → List Observation → Prop where
  | sentinel : Justified .outbound .localSentinel [.sentinelSent]
  | inputEnd : Justified .outbound .inputClosed [.inputEnded]
  | inputFault (text : String) : Justified .outbound (.inputFailed text) [.inputFailed]
  | streamEnd : Justified .inbound .peerClosed [.peerClosed]
  | streamFault (dir : Direction) (kind : FaultKind) (tripped : Bool) :
    Justified dir (.transport kind (.classify kind tripped)) [.failed dir kind]
  /-- Calls that fail after a shutdown of one's own are as expected. -/
  | severedFault (dir : Direction) (kind : FaultKind) :
    Justified dir (.transport kind .expected) [.severed dir]
  /-- A peer's close is taken for the session's own, if the signal is tripped by the time it is
  looked at. -/
  | earlyEnd : Justified .inbound .cancelled [.peerClosed]
  | severedEnd : Justified .inbound .cancelled [.severed .inbound]
  | cancelled : Justified .outbound .cancelled []
  | breakdown (dir : Direction) : Justified dir .panicked []

/-- The inbound relay and the observations about it. -/
inductive InboundTraced (tripped : Bool) : Inbound.Phase → List Observation → Prop where
  | receiving : InboundTraced tripped .receiving []
  | chunk (byte : UInt8) (rest : Bytes) : InboundTraced tripped (.handling (.ok (byte :: rest))) []
  | interrupted {fault : Fault} (hkind : fault.kind = .interrupted) :
    InboundTraced tripped (.handling (.error fault)) []
  | ended : InboundTraced tripped (.handling (.ok [])) [.peerClosed]
  | failed {fault : Fault} (hkind : fault.kind ≠ .interrupted) :
    InboundTraced tripped (.handling (.error fault)) [.failed .inbound fault.kind]
  | severedEnd (htripped : tripped = true) :
    InboundTraced tripped (.handling (.ok [])) [.severed .inbound]
  | severedFault {fault : Fault} (hkind : fault.kind ≠ .interrupted) (htripped : tripped = true) :
    InboundTraced tripped (.handling (.error fault)) [.severed .inbound]
  | leaving {exit : Exit} {observations : List Observation}
    (h : Justified .inbound exit.cause observations) :
    InboundTraced tripped (.leaving exit) observations
  | gone {exit : Exit} {observations : List Observation}
    (h : Justified .inbound exit.cause observations) :
    InboundTraced tripped (.gone exit) observations

/-- The outbound relay and the observations about it. -/
inductive OutboundTraced (tripped : Bool) : Outbound.Phase → List Observation → Prop where
  | waiting : OutboundTraced tripped .waiting []
  | holding (line : String) : OutboundTraced tripped (.holding line) []
  | sending (line : String) (d : Delivery) : OutboundTraced tripped (.sending line d) []
  | failing (fault : Fault) : OutboundTraced tripped (.failing fault) [.failed .outbound fault.kind]
  | severed (fault : Fault) (htripped : tripped = true) :
    OutboundTraced tripped (.failing fault) [.severed .outbound]
  | leaving {exit : Exit} {observations : List Observation}
    (h : Justified .outbound exit.cause observations) :
    OutboundTraced tripped (.leaving exit) observations
  | gone {exit : Exit} {observations : List Observation}
    (h : Justified .outbound exit.cause observations) :
    OutboundTraced tripped (.gone exit) observations

/-- A relay and the observations about it. -/
def Traced (s : Session) : Direction → List Observation → Prop
  | .inbound => InboundTraced s.signal.tripped s.inbound.phase
  | .outbound => OutboundTraced s.signal.tripped s.outbound.phase

theorem InboundTraced.mono {tripped tripped' : Bool} (hmono : tripped = true → tripped' = true)
    {phase : Inbound.Phase} {observations : List Observation}
    (hm : InboundTraced tripped phase observations) :
    InboundTraced tripped' phase observations := by
  cases hm with
  | receiving => exact .receiving
  | chunk byte rest => exact .chunk byte rest
  | interrupted hkind => exact .interrupted hkind
  | ended => exact .ended
  | failed hkind => exact .failed hkind
  | severedEnd htripped => exact .severedEnd (hmono htripped)
  | severedFault hkind htripped => exact .severedFault hkind (hmono htripped)
  | leaving h => exact .leaving h
  | gone h => exact .gone h

theorem OutboundTraced.mono {tripped tripped' : Bool} (hmono : tripped = true → tripped' = true)
    {phase : Outbound.Phase} {observations : List Observation}
    (hm : OutboundTraced tripped phase observations) :
    OutboundTraced tripped' phase observations := by
  cases hm with
  | waiting => exact .waiting
  | holding line => exact .holding line
  | sending line d => exact .sending line d
  | failing fault => exact .failing fault
  | severed fault htripped => exact .severed fault (hmono htripped)
  | leaving h => exact .leaving h
  | gone h => exact .gone h

/-- What a receive call returns is observed. -/
theorem InboundTraced.receive (hordered : s.ShutdownOrdered) {tripped : Bool}
    (hmono : s.signal.tripped = true → tripped = true) {receipt : Except Fault Bytes}
    (hreceive : Medium.receive w s.reader s.inbound.bufferSize = some (receipt, w')) :
    InboundTraced tripped (.handling receipt)
      (ofRelay .inbound (s.observations w (.act .receive))) := by
  have hreleased : s.isReleased = true → tripped = true := fun h => hmono (hordered.released h)
  simp only [observations, hreceive, attributed]
  match receipt with
  | .ok [] =>
    cases hr : s.isReleased with
    | true => exact .severedEnd (hreleased hr)
    | false => exact .ended
  | .ok (byte :: rest) => exact .chunk byte rest
  | .error fault =>
    by_cases hkind : fault.kind = .interrupted
    · simp only [if_pos hkind]
      exact .interrupted hkind
    · simp only [if_neg hkind]
      cases hr : s.isReleased with
      | true => exact .severedFault hkind (hreleased hr)
      | false => exact .failed hkind

/-- What the relay makes of a receipt is warranted. -/
theorem InboundTraced.handle {r : Inbound} {receipt : Except Fault Bytes} {tripped tripped' : Bool}
    {observations : List Observation} (hphase : r.phase = .handling receipt)
    (hm : InboundTraced tripped r.phase observations) :
    InboundTraced tripped' (r.handle tripped).1.phase observations := by
  have hfailed : ∀ {fault : Fault}, fault.kind ≠ .interrupted → r.phase = .handling (.error fault) →
      (r.handle tripped).1.phase = .leaving
        ⟨.inbound, .transport fault.kind (.classify fault.kind tripped), r.bytes⟩ := by
    intro fault hkind hphase
    simp [Inbound.handle, hphase, hkind, Inbound.failedStream, Inbound.leave]
  rw [hphase] at hm
  cases hm with
  | chunk byte rest =>
    rcases (Inbound.offered_handle hphase tripped).2 with hnext | hnext
    · rw [hnext]
      exact .receiving
    · rw [hnext]
      exact .leaving (.breakdown .inbound)
  | interrupted hkind =>
    have hnext : (r.handle tripped).1.phase = .receiving := by
      simp [Inbound.handle, hphase, hkind]
    rw [hnext]
    exact .receiving
  | ended =>
    rw [Inbound.handle_end hphase]
    cases tripped with
    | true => exact .leaving .earlyEnd
    | false => exact .leaving .streamEnd
  | @failed fault hkind =>
    rw [hfailed hkind hphase]
    exact .leaving (.streamFault .inbound fault.kind _)
  | severedEnd htripped =>
    rw [Inbound.handle_end hphase, htripped]
    exact .leaving .severedEnd
  | @severedFault fault hkind htripped =>
    rw [hfailed hkind hphase, htripped]
    exact .leaving (.severedFault .inbound fault.kind)

theorem traced_inbound (hordered : s.ShutdownOrdered) {past : List Observation}
    (hm : s.Traced .inbound past) (h : s.undergo w event = some (s', w')) :
    s'.Traced .inbound (past ++ ofRelay .inbound (s.observations w event)) := by
  have hmono := (mono_undergo h).1
  simp only [Traced] at hm ⊢
  cases inboundMove h with
  | rests hof hsame =>
    rw [ofRelay_observations_eq_nil hof, List.append_nil, hsame]
    exact hm.mono hmono
  | receives hevent hphase hreceive hnext =>
    subst hevent
    rw [hphase] at hm
    cases hm
    rw [hnext, List.nil_append]
    exact .receive hordered hmono hreceive
  | handles hevent hphase hnext =>
    subst hevent
    have hnone : ofRelay .inbound (s.observations w (.act .handle)) = [] := rfl
    rw [hnone, List.append_nil, hnext]
    exact hm.handle hphase
  | reports hevent hphase hnext =>
    subst hevent
    rw [hphase] at hm
    rw [hnext]
    have hnone : ofRelay .inbound (s.observations w (.act .reportInbound)) = [] := rfl
    rw [hnone, List.append_nil]
    cases hm with
    | leaving hjustified => exact .gone hjustified
  | crashes hevent hphase hnext =>
    subst hevent
    rw [hphase] at hm
    cases hm
    rw [hnext]
    exact .leaving (.breakdown .inbound)

/-- What becomes of a line that is being sent, or of one that needs no sending. -/
theorem OutboundTraced.deliver (r : Outbound) (tripped : Bool) (line : String) (d : Delivery) :
    OutboundTraced tripped (r.deliver line d).1.phase
      (if d.isDone = true ∧ line = r.sentinel then [.sentinelSent] else []) := by
  unfold Outbound.deliver
  cases hdone : d.isDone with
  | false =>
    rw [if_neg Bool.false_ne_true, if_neg fun h => Bool.false_ne_true h.1]
    exact .sending line d
  | true =>
    rw [if_pos rfl]
    by_cases hline : line = r.sentinel
    · rw [if_pos ⟨rfl, hline⟩, Outbound.complete_sentinel hline]
      exact .leaving .sentinel
    · rw [if_neg fun h => hline h.2, Outbound.complete_line hline]
      exact .waiting

theorem traced_outbound (hordered : s.ShutdownOrdered) {past : List Observation}
    (hm : s.Traced .outbound past) (h : s.undergo w event = some (s', w')) :
    s'.Traced .outbound (past ++ ofRelay .outbound (s.observations w event)) := by
  have hmono := (mono_undergo h).1
  simp only [Traced] at hm ⊢
  cases outboundMove h with
  | rests hof hsame =>
    rw [ofRelay_observations_eq_nil hof, List.append_nil, hsame]
    exact hm.mono hmono
  | takes hevent hphase hnext =>
    subst hevent
    rw [hphase] at hm
    cases hm
    obtain ⟨input, pump, log, -, htake, rfl⟩ := of_takeInput (of_map h).1
    rw [List.nil_append, ofRelay_observations_eq_self rfl Action.noConfusion]
    simp only [observations, htake]
    cases input.getD .ended with
    | line text => exact .holding text
    | ended => exact .leaving .inputEnd
    | failed fault => exact .leaving (.inputFault fault.text)
  | cancels hevent hphase _ hnext =>
    subst hevent
    rw [hphase] at hm
    cases hm
    rw [hnext]
    exact .leaving .cancelled
  | @checks line hevent hphase hnext =>
    subst hevent
    rw [hphase] at hm
    cases hm
    rw [List.nil_append, ofRelay_observations_eq_self rfl Action.noConfusion, hnext]
    simp only [observations, Outbound.check, hphase]
    cases s.signal.tripped with
    | true => exact .leaving .cancelled
    | false => exact .deliver s.outbound _ line { data := Line.encode line }
  | @sends line d result hevent hphase hsend hnext =>
    subst hevent
    rw [hphase] at hm
    cases hm
    rw [List.nil_append, ofRelay_observations_eq_self rfl Action.noConfusion, hnext]
    simp only [observations, Outbound.answer, hphase, hsend]
    cases d.feed result with
    | ok next => exact .deliver s.outbound _ line next
    | error fault =>
      unfold attributed
      cases hreleased : s.isReleased with
      | true => exact .severed fault (hmono (hordered.released hreleased))
      | false => exact .failing fault
  | @judges fault hevent hphase hnext =>
    subst hevent
    have hnone : ofRelay .outbound (s.observations w (.act .judgeFault)) = [] := rfl
    rw [hphase] at hm
    rw [hnone, List.append_nil, hnext]
    simp only [Outbound.judge, hphase]
    cases hm with
    | failing => exact .leaving (.streamFault .outbound fault.kind _)
    | severed _ htripped =>
      rw [htripped]
      exact .leaving (.severedFault .outbound fault.kind)
  | reports hevent hphase hnext =>
    subst hevent
    have hnone : ofRelay .outbound (s.observations w (.act .reportOutbound)) = [] := rfl
    rw [hphase] at hm
    rw [hnone, List.append_nil, hnext]
    cases hm with
    | leaving hjustified => exact .gone hjustified
  | crashes hevent hphase hnext =>
    subst hevent
    rw [hphase] at hm
    cases hm
    rw [hnext]
    exact .leaving (.breakdown .outbound)

theorem traced_undergo (hordered : s.ShutdownOrdered) {dir : Direction} {past : List Observation}
    (hm : s.Traced dir past) (h : s.undergo w event = some (s', w')) :
    s'.Traced dir (past ++ ofRelay dir (s.observations w event)) := by
  cases dir with
  | inbound => exact traced_inbound hordered hm h
  | outbound => exact traced_outbound hordered hm h

end Session

end TextRelay
