import TextRelay.Proofs.Session.Reports

/-!
# Closing a session

A close, a wait and giving the session up all come to the same: the signal is tripped, and then the
stream is shut down, unless that was done before. `ShutdownOrdered` says in which order this
happens. The coordinator is busy with one call at a time (`Coordinator.call?`), and what it was
called for it does: nothing can hold it up except that a wait begins with the exit of a relay, and
ends with both relays gone (`System.run_untilShutdown`, `System.step_join`).
-/

namespace TextRelay

namespace Session

variable {κ : Type} [Medium κ] {s s' : Session} {w w' : κ} {event : Event κ}

/-! ## The order of a shutdown -/

/-- A flag that is set stays so, a channel that is disconnected stays so, and so does a stream that
is shut down. -/
theorem mono_undergo (h : s.undergo w event = some (s', w')) :
    (s.signal.tripped = true → s'.signal.tripped = true) ∧
      (s.signal.isCancelled = true → s'.signal.isCancelled = true) ∧
      (s.isReleased = true → s'.isReleased = true) := by
  cases hown : event.isCoordination with
  | false =>
    obtain ⟨hcontrol, hreportStep⟩ := reportStep h hown
    obtain ⟨htripped, hcancelled⟩ := hreportStep.flags_eq
    exact ⟨htripped.trans, hcancelled.trans, hcontrol.isReleased.trans⟩
  | true =>
    cases controlStep h hown with
    | close _ _ h =>
      obtain ⟨-, rfl⟩ := of_callClose h
      exact ⟨id, id, id⟩
    | wait _ h =>
      obtain ⟨-, rfl⟩ := of_callWait h
      exact ⟨id, id, id⟩
    | drop _ h =>
      obtain ⟨-, rfl⟩ := of_callDrop h
      exact ⟨id, id, id⟩
    | takeFirst _ h =>
      obtain ⟨exit, signal, log, -, hfirst, rfl⟩ := of_takeFirst h
      obtain ⟨rest, -, rfl⟩ | ⟨-, -, rfl⟩ := Signal.of_waitFirst hfirst
      · exact ⟨id, id, id⟩
      · exact ⟨id, id, id⟩
    | trip _ h =>
      obtain ⟨after, -, rfl⟩ := of_trip h
      exact ⟨fun _ => rfl, fun _ => rfl, id⟩
    | release h =>
      obtain ⟨after, log, -, ⟨-, -, rfl⟩ | ⟨-, -, rfl⟩⟩ := of_release h
      · exact ⟨id, id, fun _ => rfl⟩
      · exact ⟨id, fun _ => rfl, fun _ => rfl⟩
    | join h =>
      obtain ⟨initiator, inbound, outbound, log, -, -, -, -, rfl⟩ := of_join h
      exact ⟨fun _ => rfl, fun _ => rfl, fun _ => rfl⟩

/-- The flag is set only together with the cancellation, the stream is shut down only after that,
and it is so when the session is over. -/
structure ShutdownOrdered (s : Session) : Prop where
  cancelled : s.signal.tripped = true → s.signal.isCancelled = true
  released : s.isReleased = true → s.signal.tripped = true
  releasing : ∀ after, s.coordinator = .releasing after → s.signal.tripped = true
  ended : s.coordinator.isOver = true → s.isReleased = true

namespace ShutdownOrdered

theorem start {settings : Settings} {source : Source} {sink : Sink} {stream : Nat}
    (h : Session.start settings source sink stream w = (.ok s, w')) : s.ShutdownOrdered := by
  obtain ⟨reader, writer, w₁, w₂, log, -, -, -, -, rfl⟩ := of_start h
  refine ⟨fun h => ?_, fun h => ?_, fun after h => ?_, fun h => ?_⟩ <;> cases h

theorem call (hs : s.ShutdownOrdered) (hreleased : s'.isReleased = s.isReleased)
    (htripped : s'.signal.tripped = s.signal.tripped)
    (hcancelled : s'.signal.isCancelled = s.signal.isCancelled)
    (hreleasing : ∀ after, s'.coordinator ≠ .releasing after)
    (hover : s'.coordinator.isOver = false) : s'.ShutdownOrdered := by
  refine ⟨?_, ?_, fun after h => absurd h (hreleasing after), fun h => ?_⟩
  · rw [htripped, hcancelled]
    exact hs.cancelled
  · rw [hreleased, htripped]
    exact hs.released
  · rw [hover] at h
    cases h

theorem release (hs : s.ShutdownOrdered) (h : s.release w = some (s', w')) :
    s'.ShutdownOrdered := by
  obtain ⟨after, log, hafter, ⟨-, -, rfl⟩ | ⟨-, -, rfl⟩⟩ := of_release h
  · exact ⟨hs.cancelled, fun _ => hs.releasing after hafter, fun _ _ => hs.releasing after hafter,
      fun _ => rfl⟩
  · exact ⟨fun _ => rfl, fun _ => hs.releasing after hafter, fun _ _ => hs.releasing after hafter,
      fun _ => rfl⟩

theorem undergo (hs : s.ShutdownOrdered) (h : s.undergo w event = some (s', w')) :
    s'.ShutdownOrdered := by
  cases hown : event.isCoordination with
  | false =>
    obtain ⟨hcontrol, hreportStep⟩ := reportStep h hown
    obtain ⟨htripped, hcancelled⟩ := hreportStep.flags_eq
    refine ⟨?_, ?_, ?_, ?_⟩
    · rw [htripped, hcancelled]
      exact hs.cancelled
    · rw [htripped, hcontrol.isReleased]
      exact hs.released
    · rw [htripped, hcontrol.coordinator]
      exact hs.releasing
    · rw [hcontrol.coordinator, hcontrol.isReleased]
      exact hs.ended
  | true =>
    cases controlStep h hown with
    | close _ _ h =>
      obtain ⟨-, rfl⟩ := of_callClose h
      exact hs.call rfl rfl rfl (by simp) rfl
    | wait _ h =>
      obtain ⟨-, rfl⟩ := of_callWait h
      exact hs.call rfl rfl rfl (by simp) rfl
    | drop _ h =>
      obtain ⟨-, rfl⟩ := of_callDrop h
      exact hs.call rfl rfl rfl (by simp) rfl
    | takeFirst _ h =>
      obtain ⟨exit, signal, log, -, hfirst, rfl⟩ := of_takeFirst h
      obtain ⟨rest, -, rfl⟩ | ⟨-, -, rfl⟩ := Signal.of_waitFirst hfirst
      · exact hs.call rfl rfl rfl (by simp) rfl
      · exact hs.call rfl rfl rfl (by simp) rfl
    | trip _ h =>
      obtain ⟨after, -, rfl⟩ := of_trip h
      exact ⟨fun _ => rfl, fun _ => rfl, fun _ _ => rfl, fun hover => by cases hover⟩
    | release h => exact hs.release h
    | join h =>
      obtain ⟨initiator, inbound, outbound, log, -, -, -, -, rfl⟩ := of_join h
      exact ⟨fun _ => rfl, fun _ => rfl, fun _ _ => rfl, fun _ => rfl⟩

end ShutdownOrdered

/-- The signal is tripped before the stream is shut down, not only after it. -/
theorem ShutdownOrdered.before (hs : s.ShutdownOrdered) (h : s.undergo w event = some (s', w'))
    (hnew : s'.isReleased ≠ s.isReleased) :
    s.signal.tripped = true ∧ s.signal.isCancelled = true := by
  have htripped : s.signal.tripped = true := by
    rcases release_or_join_of_new h hnew with hrelease | hjoin
    · obtain ⟨after, log, hafter, -⟩ := of_release hrelease
      exact hs.releasing after hafter
    · obtain ⟨initiator, inbound, outbound, log, hjoining, -⟩ := of_join hjoin
      exact hs.released (hs.ended (by rw [hjoining]; rfl))
  exact ⟨htripped, hs.cancelled htripped⟩

/-! ## Calls -/

/-- The call that the coordinator is busy with, or the last one. -/
def Coordinator.call? : Coordinator → Option Call
  | idle => none
  | tripping .idle | releasing .idle => some .close
  | awaiting | tripping (.joining _) | releasing (.joining _) | joining _ | finished _ => some .wait
  | tripping .dropped | releasing .dropped | dropped => some .drop

/-- What an event can make of the call that the coordinator is busy with. -/
inductive CallStep (s : Session) (event : Event κ) (s' : Session) : Prop where
  | stays (hevent : event.call? = none) (hcall : s'.coordinator.call? = s.coordinator.call?)
  | calls {call : Call} (hevent : event.call? = some call) (hidle : s.coordinator = .idle)
    (hcall : s'.coordinator.call? = some call)
  | returns (hevent : event.call? = none) (hcall : s.coordinator.call? = some .close)
    (hidle : s'.coordinator = .idle) (hreleased : s'.isReleased = true)

theorem Coordinator.call?_releasing (after : After) :
    (releasing after).call? = (tripping after).call? := by
  cases after <;> rfl

theorem callStep_act {action : Action} (h : s.step w action = some (s', w')) :
    CallStep s (.act action : Event κ) s' := by
  by_cases hparty : action.party = .coordinator
  · cases action with
    | takeFirst =>
      obtain ⟨exit, signal, log, hawaiting, -, rfl⟩ := of_takeFirst (of_map h).1
      exact .stays rfl (by rw [hawaiting]; rfl)
    | trip =>
      obtain ⟨after, hafter, rfl⟩ := of_trip (of_map h).1
      exact .stays rfl (by rw [hafter]; exact Coordinator.call?_releasing after)
    | release =>
      obtain ⟨after, log, hafter, ⟨-, -, rfl⟩ | ⟨rfl, -, rfl⟩⟩ := of_release h
      · cases after with
        | idle => exact .returns rfl (by rw [hafter]; rfl) rfl rfl
        | joining | dropped => exact .stays rfl (by rw [hafter]; rfl)
      · exact .stays rfl (by rw [hafter]; rfl)
    | join =>
      obtain ⟨initiator, inbound, outbound, log, hjoining, -, -, -, rfl⟩ := of_join h
      exact .stays rfl (by rw [hjoining]; rfl)
    | readInput | dropInput | receive | handle | reportInbound | takeInput | cancelInput
    | checkSignal | send | judgeFault | reportOutbound => cases hparty
  · exact .stays rfl (by rw [((step_frame h).2.2 hparty).1])

/-- **The coordinator stays with a call until it is done with it,** and only a close returns to the
owner. -/
theorem callStep (h : s.undergo w event = some (s', w')) : CallStep s event s' := by
  cases event with
  | close =>
    obtain ⟨hidle, rfl⟩ := of_callClose (of_map h).1
    exact .calls rfl hidle rfl
  | wait =>
    obtain ⟨hidle, rfl⟩ := of_callWait (of_map h).1
    exact .calls rfl hidle rfl
  | drop =>
    obtain ⟨hidle, rfl⟩ := of_callDrop (of_map h).1
    exact .calls rfl hidle rfl
  | act action => exact callStep_act h
  | crash | elsewhere | input =>
    obtain ⟨hcontrol, -⟩ := reportStep h rfl
    exact .stays rfl (by rw [hcontrol.coordinator])

omit [Medium κ] in
/-- The coordinator is busy with a call from the moment it is made. -/
theorem CallStep.call?_of_event (hc : CallStep s event s') {call : Call}
    (hevent : event.call? = some call) : s'.coordinator.call? = some call := by
  cases hc with
  | calls hmade _ hcall => rw [hcall, ← hmade, hevent]
  | stays hnone => cases hnone.symm.trans hevent
  | returns hnone => cases hnone.symm.trans hevent

/-- Once a session is waited for or given up, that is the last call. -/
theorem call?_of_ne_close (h : s.undergo w event = some (s', w')) {call : Call}
    (hcall : s.coordinator.call? = some call) (hne : call ≠ .close) :
    s'.coordinator.call? = some call := by
  cases callStep h with
  | stays _ hsame => rw [hsame, hcall]
  | calls _ hidle =>
    rw [hidle] at hcall
    cases hcall
  | returns _ hclose =>
    cases hclose.symm.trans hcall
    exact absurd rfl hne

/-- Nothing is in the way of a join once both relays are gone. -/
theorem enabled_join {initiator : Exit} (hjoining : s.coordinator = .joining initiator)
    (hgone : ∀ dir, s.gone? dir ≠ none) : (s.step w .join).isSome = true := by
  obtain ⟨inbound, hinbound⟩ := Option.ne_none_iff_exists'.1 (hgone .inbound)
  obtain ⟨outbound, houtbound⟩ := Option.ne_none_iff_exists'.1 (hgone .outbound)
  have hin := Inbound.gone?_eq_some_iff.1 hinbound
  have hout := Outbound.gone?_eq_some_iff.1 houtbound
  simp [step, join, hjoining, hin, hout]

namespace System

variable {c c' : System κ}

/-- What the owner has called for is done, or the coordinator is busy with it. -/
structure CallsSound (c : System κ) : Prop where
  closed : c.closed = true → c.session.isReleased = true ∨ c.session.coordinator.call? = some .close
  waited : c.waited = true → c.session.coordinator.call? = some .wait
  dropped : c.dropped = true → c.session.coordinator.call? = some .drop

omit [Medium κ] in
theorem CallsSound.init (s : Session) (w : κ) : (init s w).CallsSound := by
  refine ⟨fun h => ?_, fun h => ?_, fun h => ?_⟩ <;> cases h

theorem CallsSound.step (hc : c.CallsSound) (h : c.step event = some c') : c'.CallsSound := by
  obtain ⟨hundergo, hclosed, -⟩ := of_step h
  obtain ⟨hwaited, hdropped⟩ := calls_of_step h
  have hcallStep := callStep hundergo
  refine ⟨fun hcall => ?_, fun hcall => ?_, fun hcall => ?_⟩
  · rw [hclosed, Bool.or_eq_true, decide_eq_true_iff] at hcall
    rcases hcall with hbefore | hnow
    · rcases hc.closed hbefore with hreleased | hbusy
      · exact .inl ((mono_undergo hundergo).2.2 hreleased)
      · cases hcallStep with
        | stays _ hsame => exact .inr (hsame.trans hbusy)
        | calls _ hidle =>
          rw [hidle] at hbusy
          cases hbusy
        | returns _ _ _ hreleased => exact .inl hreleased
    · exact .inr (hcallStep.call?_of_event hnow)
  · rw [hwaited, Bool.or_eq_true, decide_eq_true_iff] at hcall
    rcases hcall with hbefore | hnow
    · exact call?_of_ne_close hundergo (hc.waited hbefore) Call.noConfusion
    · exact hcallStep.call?_of_event hnow
  · rw [hdropped, Bool.or_eq_true, decide_eq_true_iff] at hcall
    rcases hcall with hbefore | hnow
    · exact call?_of_ne_close hundergo (hc.dropped hbefore) Call.noConfusion
    · exact hcallStep.call?_of_event hnow

/-! ## Nothing holds the coordinator up -/

theorem enabled_calls (hidle : c.session.coordinator = .idle) :
    (c.step .close).isSome = true ∧ (c.step .wait).isSome = true ∧
    (c.step .drop).isSome = true := by
  simp [System.step, undergo, callClose, callWait, callDrop, hidle]

theorem step_takeFirst (hknown : c.session.ReportsSound)
    (hawaiting : c.session.coordinator = .awaiting)
    {dir : Direction} (hgone : c.session.gone? dir ≠ none) :
    ∃ c' exit, c.step (.act .takeFirst) = some c' ∧
      c'.session.coordinator = .tripping (.joining exit) := by
  obtain ⟨exit, hexit⟩ := Option.ne_none_iff_exists'.1 hgone
  obtain ⟨-, hqueue⟩ := hknown.queue (by rw [hawaiting]; rfl) (by rw [hawaiting]; simp)
  have hmem : exit ∈ c.session.signal.queue := (hqueue exit).2 ⟨dir, hexit⟩
  obtain ⟨first, signal, hfirst⟩ : ∃ first signal,
      c.session.signal.waitFirst = some (first, signal) := by
    unfold Signal.waitFirst
    cases hcons : c.session.signal.queue with
    | nil =>
      rw [hcons] at hmem
      cases hmem
    | cons first rest => exact ⟨first, _, rfl⟩
  have htake : ∃ s', c.session.step c.medium .takeFirst = some (s', c.medium) ∧
      s'.coordinator = .tripping (.joining first) := by
    simp only [Session.step, Session.takeFirst, hawaiting, hfirst, Option.map_some]
    exact ⟨_, rfl, rfl⟩
  obtain ⟨s', hact, hnext⟩ := htake
  obtain ⟨c', hstep, rfl⟩ := step_act hact
  exact ⟨c', first, hstep, hnext⟩

theorem step_trip {after : After} (hafter : c.session.coordinator = .tripping after) :
    ∃ c', c.step (.act .trip) = some c' ∧ c'.session.coordinator = .releasing after := by
  have htrip : c.session.step c.medium .trip = some ({ c.session with
      signal := c.session.signal.trip.2, coordinator := .releasing after }, c.medium) := by
    simp [Session.step, Session.trip, hafter]
  obtain ⟨c', hstep, hnext⟩ := step_act htrip
  exact ⟨c', hstep, by rw [hnext]⟩

theorem step_release {after : After} (hafter : c.session.coordinator = .releasing after) :
    ∃ c', c.step (.act .release) = some c' ∧ c'.session.isReleased = true ∧
      c'.session.coordinator = after.coordinator := by
  have henabled : (c.session.release c.medium).isSome = true := by
    simp only [Session.release, hafter]
    cases after <;> rfl
  obtain ⟨⟨s', w'⟩, hrelease⟩ := Option.isSome_iff_exists.1 henabled
  have hact : c.session.step c.medium .release = some (s', w') := hrelease
  obtain ⟨c', hstep, rfl⟩ := step_act hact
  obtain ⟨after', log, hafter', hcases⟩ := of_release hrelease
  cases hafter.symm.trans hafter'
  obtain ⟨-, -, hnext⟩ | ⟨rfl, -, hnext⟩ := hcases
  · exact ⟨c', hstep, by rw [hnext], by rw [hnext]⟩
  · exact ⟨c', hstep, by rw [hnext], by rw [hnext]; rfl⟩

/-- Both relays are gone: the coordinator joins them and reports. -/
theorem step_join {initiator : Exit} (hjoining : c.session.coordinator = .joining initiator)
    (hgone : ∀ dir, c.session.gone? dir ≠ none) :
    ∃ c' report, c.step (.act .join) = some c' ∧ c'.session.report? = some report := by
  obtain ⟨⟨s', w'⟩, hjoin⟩ :=
    Option.isSome_iff_exists.1 (enabled_join (w := c.medium) hjoining hgone)
  obtain ⟨c', hstep, rfl⟩ := step_act hjoin
  obtain ⟨initiator', inbound, outbound, log, -, -, -, -, hnext⟩ := of_join hjoin
  exact ⟨c', _, hstep, by rw [hnext]; rfl⟩

end System

/-- What the coordinator does next, until the stream is shut down. -/
def Coordinator.untilShutdown : Coordinator → List Action
  | awaiting => [.takeFirst, .trip, .release]
  | tripping _ => [.trip, .release]
  | releasing _ => [.release]
  | idle | joining _ | finished _ | dropped => []

namespace System

variable {c : System κ}

theorem run_releasing {after : After} (hafter : c.session.coordinator = .releasing after) :
    ∃ c', c.run [.act .release] = some c' ∧ c'.session.isReleased = true ∧
      c'.session.coordinator = after.coordinator := by
  obtain ⟨c', hstep, hreleased⟩ := step_release hafter
  exact ⟨c', by simp [run, hstep], hreleased⟩

theorem run_tripping {after : After} (hafter : c.session.coordinator = .tripping after) :
    ∃ c', c.run [.act .trip, .act .release] = some c' ∧ c'.session.isReleased = true ∧
      c'.session.coordinator = after.coordinator := by
  obtain ⟨c₁, hstep, hnext⟩ := step_trip hafter
  obtain ⟨c', hrun, hreleased⟩ := run_releasing hnext
  exact ⟨c', by rw [run, hstep, Option.bind_some, hrun], hreleased⟩

/-- **A coordinator that was called comes to the shutdown of its stream by its own steps alone,**
once a relay is gone if it waits for that. -/
theorem run_untilShutdown (hknown : c.session.ReportsSound) (hordered : c.session.ShutdownOrdered)
    (hcalled : c.session.isReleased = true ∨ c.session.coordinator ≠ .idle)
    (hgone : c.session.coordinator = .awaiting → ∃ dir, c.session.gone? dir ≠ none) :
    ∃ c', c.run (c.session.coordinator.untilShutdown.map .act) = some c' ∧
      c'.session.isReleased = true ∧ c'.session.coordinator.untilShutdown = [] := by
  have hreturned : ∀ after : After, after.coordinator.untilShutdown = [] := by
    intro after
    cases after <;> rfl
  cases hco : c.session.coordinator with
  | idle => exact ⟨c, rfl, hcalled.resolve_right (not_not_intro hco), by rw [hco]; rfl⟩
  | tripping after =>
    obtain ⟨c', hrun, hreleased, hnext⟩ := run_tripping hco
    exact ⟨c', hrun, hreleased, by rw [hnext, hreturned]⟩
  | releasing after =>
    obtain ⟨c', hrun, hreleased, hnext⟩ := run_releasing hco
    exact ⟨c', hrun, hreleased, by rw [hnext, hreturned]⟩
  | awaiting =>
    obtain ⟨dir, hdir⟩ := hgone hco
    obtain ⟨c₁, exit, hstep, hfirst⟩ := step_takeFirst hknown hco hdir
    obtain ⟨c', hrun, hreleased, hnext⟩ := run_tripping hfirst
    refine ⟨c', ?_, hreleased, by rw [hnext, hreturned]⟩
    rw [Coordinator.untilShutdown, List.map_cons, run, hstep]
    exact hrun
  | joining | finished | dropped =>
    exact ⟨c, rfl, hordered.ended (by rw [hco]; rfl), by rw [hco]; rfl⟩

end System

end Session

end TextRelay
