import TextRelay.Faulty
import TextRelay.Pipe
import TextRelay.Proofs.Session.Closing

/-!
# A stream is shut down once, and after the signal

Whoever calls for the end of a session, and however often, its stream is shut down once, and by then
the signal is tripped. So whatever a relay is told by its stream from then on, it
takes for the shutdown that it is: the end of the stream is a cancellation, and a fault is expected.

The shutdowns are counted by the medium itself (`Faulty.shutdowns`), not by the session.
-/

namespace TextRelay

namespace Faulty

variable {κ : Type} [Medium κ] {w w' : Faulty κ} {h : Nat}

theorem shutdowns_send {data : Bytes} {result : Except Fault Nat}
    (hsend : Medium.send w h data = some (result, w')) : w'.shutdowns = w.shutdowns := by
  change Faulty.send w h data = some (result, w') at hsend
  unfold send at hsend
  split at hsend
  · cases hsend
    rfl
  · obtain ⟨⟨result', base⟩, -, heq⟩ := Option.map_eq_some_iff.1 hsend
    cases heq
    rfl

theorem shutdowns_receive {size : Nat} {result : Except Fault Bytes}
    (hreceive : Medium.receive w h size = some (result, w')) : w'.shutdowns = w.shutdowns := by
  change Faulty.receive w h size = some (result, w') at hreceive
  unfold receive at hreceive
  obtain ⟨⟨result', base⟩, -, heq⟩ := Option.map_eq_some_iff.1 hreceive
  dsimp only at heq
  split at heq <;> cases heq <;> rfl

theorem shutdowns_clone (w : Faulty κ) (h : Nat) :
    (Medium.clone w h).2.shutdowns = w.shutdowns := by
  change (Faulty.clone w h).2.shutdowns = w.shutdowns
  unfold clone
  dsimp only
  split
  · split <;> rfl
  · rfl

theorem shutdowns_shutdown (w : Faulty κ) (h : Nat) :
    (Medium.shutdown w h).2.shutdowns = w.shutdowns + 1 := by
  change (Faulty.shutdown w h).2.shutdowns = w.shutdowns + 1
  unfold shutdown
  dsimp only
  split <;> rfl

@[simp] theorem shutdowns_listen (w : Faulty κ) (h : Nat) :
    (Medium.listen w h).shutdowns = w.shutdowns := rfl

@[simp] theorem shutdowns_drop (w : Faulty κ) (h : Nat) :
    (Medium.drop w h).shutdowns = w.shutdowns := rfl

end Faulty

namespace Session

variable {κ : Type} [Medium κ] {s s' : Session} {w w' : κ} {event : Event κ}

/-! ## Counting shutdowns -/

section count

variable {v v' : Faulty κ}

theorem shutdowns_shutDown (s : Session) (v : Faulty κ) :
    (s.shutDown v).shutdowns + s.isReleased.toNat = v.shutdowns + 1 := by
  unfold shutDown
  cases hreleased : s.isReleased with
  | true => simp
  | false => simp [Faulty.shutdowns_shutdown]

/-- A session shuts its stream down when it records that it does. -/
theorem shutdowns_step {action : Action} (h : s.step v action = some (s', v')) :
    v'.shutdowns + s.isReleased.toNat = v.shutdowns + s'.isReleased.toNat := by
  by_cases hparty : action.party = .coordinator
  · cases action with
    | takeFirst =>
      obtain ⟨hstep, rfl⟩ := of_map h
      obtain ⟨exit, signal, log, -, -, rfl⟩ := of_takeFirst hstep
      rfl
    | trip =>
      obtain ⟨hstep, rfl⟩ := of_map h
      obtain ⟨after, -, rfl⟩ := of_trip hstep
      rfl
    | release =>
      have hcount := shutdowns_shutDown s v
      obtain ⟨after, log, -, ⟨-, rfl, rfl⟩ | ⟨-, rfl, rfl⟩⟩ := of_release h
      · exact hcount
      · simpa using hcount
    | join =>
      have hcount := shutdowns_shutDown s v
      obtain ⟨initiator, inbound, outbound, log, -, -, -, rfl, rfl⟩ := of_join h
      simpa using hcount
    | readInput | dropInput | receive | handle | reportInbound | takeInput | cancelInput
    | checkSignal | send | judgeFault | reportOutbound => cases hparty
  · rw [((step_frame h).2.2 hparty).2.1]
    congr 1
    cases action with
    | receive =>
      obtain ⟨receipt, -, hreceive, -⟩ := of_receive h
      exact Faulty.shutdowns_receive hreceive
    | handle =>
      obtain ⟨receipt, log, -, -, ⟨-, rfl⟩ | ⟨-, rfl⟩⟩ := of_handle h
      · exact Faulty.shutdowns_listen v s.reader
      · rfl
    | reportInbound =>
      obtain ⟨exit, -, rfl, -⟩ := of_reportInbound h
      exact Faulty.shutdowns_drop v s.reader
    | send =>
      obtain ⟨data, result, log, -, hsend, -⟩ := of_send h
      exact Faulty.shutdowns_send hsend
    | reportOutbound =>
      obtain ⟨exit, -, rfl, -⟩ := of_reportOutbound h
      exact Faulty.shutdowns_drop v s.writer
    | readInput | dropInput | takeInput | cancelInput | checkSignal | judgeFault =>
      rw [(of_map h).2]
    | takeFirst | trip | release | join => exact absurd rfl hparty

theorem shutdowns_undergo {event : Event (Faulty κ)} (h : s.undergo v event = some (s', v'))
    (hothers : ∀ change, event = .elsewhere change → ∀ v, (change v).shutdowns = v.shutdowns) :
    v'.shutdowns + s.isReleased.toNat = v.shutdowns + s'.isReleased.toNat := by
  cases event with
  | close =>
    obtain ⟨hcall, rfl⟩ := of_map h
    obtain ⟨-, rfl⟩ := of_callClose hcall
    rfl
  | wait =>
    obtain ⟨hcall, rfl⟩ := of_map h
    obtain ⟨-, rfl⟩ := of_callWait hcall
    rfl
  | drop =>
    obtain ⟨hcall, rfl⟩ := of_map h
    obtain ⟨-, rfl⟩ := of_callDrop hcall
    rfl
  | act action => exact shutdowns_step h
  | crash direction =>
    obtain ⟨hcrash, rfl⟩ := of_map h
    obtain ⟨-, -, rfl⟩ | ⟨-, -, rfl⟩ := of_crash hcrash <;> rfl
  | elsewhere change =>
    cases h
    rw [hothers change rfl]
  | input change =>
    cases h
    rfl

theorem shutdowns_start {settings : Settings} {source : Source} {sink : Sink} {stream : Nat}
    (h : Session.start settings source sink stream v = (.ok s, v')) :
    v'.shutdowns = v.shutdowns ∧ s.isReleased = false := by
  obtain ⟨reader, writer, v₁, v₂, log, -, hreader, hwriter, rfl, rfl⟩ := of_start h
  have hfirst := Faulty.shutdowns_clone v stream
  have hsecond := Faulty.shutdowns_clone v₁ stream
  rw [hreader] at hfirst
  rw [hwriter] at hsecond
  exact ⟨hsecond.trans hfirst, rfl⟩

end count

/-! ## What the stream says after the shutdown -/

theorem handling_undergo (h : s.undergo w event = some (s', w')) {receipt : Except Fault Bytes}
    (hphase : s.inbound.phase = .handling receipt) :
    s'.inbound = s.inbound ∨ s'.inbound = (s.inbound.handle s.signal.tripped).1 := by
  cases inboundMove h with
  | rests _ h => exact .inl h
  | handles _ _ h => exact .inr h
  | receives _ hother | reports _ hother | crashes _ hother => cases hphase.symm.trans hother

theorem failing_undergo (h : s.undergo w event = some (s', w')) {fault : Fault}
    (hphase : s.outbound.phase = .failing fault) :
    s'.outbound = s.outbound ∨ s'.outbound = (s.outbound.judge s.signal.tripped).1 := by
  cases outboundMove h with
  | rests _ h => exact .inl h
  | judges _ _ h => exact .inr h
  | takes _ hother | cancels _ hother | checks _ hother | sends _ hother | reports _ hother
  | crashes _ hother => cases hphase.symm.trans hother

/-- A relay has come to this exit, or has only to look at the signal to come to it. -/
def ExitSettled (s : Session) (exit : Exit) : Direction → Prop
  | .inbound => s.exit? .inbound = some exit ∨
    ∃ receipt, s.inbound.phase = .handling receipt ∧ s.inbound.exitOn? true receipt = some exit
  | .outbound => s.exit? .outbound = some exit ∨
    ∃ fault, s.outbound.phase = .failing fault ∧
      exit = ⟨.outbound, .transport fault.kind .expected, s.outbound.bytes⟩

theorem ExitSettled.undergo {exit : Exit} {dir : Direction} (hs : s.ExitSettled exit dir)
    (htripped : s.signal.tripped = true) (h : s.undergo w event = some (s', w')) :
    s'.ExitSettled exit dir := by
  cases dir with
  | inbound =>
    obtain hexit | ⟨receipt, hphase, hdue⟩ := hs
    · exact .inl (exit?_mono h hexit)
    obtain hsame | hhandled := handling_undergo h hphase
    · exact .inr ⟨receipt, by rw [hsame, hphase], by rw [hsame, hdue]⟩
    · left
      rw [exit?, hhandled, Inbound.exit?_handle hphase, htripped, hdue]
  | outbound =>
    obtain hexit | ⟨fault, hphase, rfl⟩ := hs
    · exact .inl (exit?_mono h hexit)
    obtain hsame | hjudged := failing_undergo h hphase
    · exact .inr ⟨fault, by rw [hsame, hphase], by rw [hsame]⟩
    · left
      rw [exit?, hjudged, Outbound.exit?_judge hphase, htripped]
      rfl

namespace System

variable {c c' : System κ}

/-- What a relay does last before it has its exit, if it was not cancelled in a wait. -/
def lastAction : Direction → Action
  | .inbound => .handle
  | .outbound => .judgeFault

/-- Whatever happens from now on, a relay has come to this exit, or comes to it in its next step. -/
def ExitFixed (c : System κ) (dir : Direction) (exit : Exit) : Prop :=
  ∀ later c', c.run later = some c' → c'.session.exit? dir = some exit ∨
    ∃ c'', c'.step (.act (lastAction dir)) = some c'' ∧ c''.session.exit? dir = some exit

theorem next_of_settled {exit : Exit} {dir : Direction} (hs : c.session.ExitSettled exit dir)
    (htripped : c.session.signal.tripped = true) : c.session.exit? dir = some exit ∨
      ∃ c', c.step (.act (lastAction dir)) = some c' ∧ c'.session.exit? dir = some exit := by
  cases dir with
  | inbound =>
    obtain hexit | ⟨receipt, hphase, hdue⟩ := hs
    · exact .inl hexit
    have henabled : (c.session.handle c.medium).isSome := by simp [Session.handle, hphase]
    obtain ⟨⟨s', w'⟩, hhandle⟩ := Option.isSome_iff_exists.1 henabled
    have hact : c.session.step c.medium .handle = some (s', w') := hhandle
    obtain ⟨c', hstep, hsession⟩ := step_act hact
    obtain ⟨-, log, -, rfl, -⟩ := of_handle hhandle
    refine .inr ⟨c', hstep, ?_⟩
    rw [hsession, exit?, Inbound.exit?_handle hphase, htripped, hdue]
  | outbound =>
    obtain hexit | ⟨fault, hphase, rfl⟩ := hs
    · exact .inl hexit
    have henabled : (c.session.judgeFault).isSome := by simp [Session.judgeFault, hphase]
    obtain ⟨s', hjudge⟩ := Option.isSome_iff_exists.1 henabled
    have hact : c.session.step c.medium .judgeFault = some (s', c.medium) := by
      rw [Session.step, hjudge]
      rfl
    obtain ⟨c', hstep, hsession⟩ := step_act hact
    obtain ⟨-, log, -, rfl⟩ := of_judgeFault hjudge
    refine .inr ⟨c', hstep, ?_⟩
    rw [hsession, exit?, Outbound.exit?_judge hphase, htripped]
    rfl

theorem exitFixed_of_settled {exit : Exit} {dir : Direction} (hs : c.session.ExitSettled exit dir)
    (htripped : c.session.signal.tripped = true) : c.ExitFixed dir exit := by
  intro later c' hrun
  have hkept : c'.session.signal.tripped = true ∧ c'.session.ExitSettled exit dir := by
    refine run_keeps (P := fun c => c.session.signal.tripped = true ∧
      c.session.ExitSettled exit dir) ?_ ⟨htripped, hs⟩ hrun
    rintro event - c c' ⟨htripped, hs⟩ hstep
    obtain ⟨hundergo, -⟩ := of_step hstep
    exact ⟨(mono_undergo hundergo).1 htripped, hs.undergo htripped hundergo⟩
  exact next_of_settled hkept.2 hkept.1

theorem receive_exitFixed (htripped : c.session.signal.tripped = true)
    (hphase : c.session.inbound.phase = .receiving) {receipt : Except Fault Bytes}
    (hreceive : Medium.receive c.medium c.session.reader c.session.inbound.bufferSize =
      some (receipt, w')) {exit : Exit}
        (hdue : c.session.inbound.exitOn? true receipt = some exit) :
    ∃ c', c.step (.act .receive) = some c' ∧ c'.ExitFixed .inbound exit := by
  have hact : c.session.step c.medium .receive =
      some ({ c.session with inbound := c.session.inbound.receive receipt }, w') := by
    rw [Session.step, Session.receive, hphase, hreceive]
    rfl
  obtain ⟨c', hstep, hsession⟩ := step_act hact
  refine ⟨c', hstep, exitFixed_of_settled ?_ ?_⟩
  · rw [hsession]
    exact .inr ⟨receipt, rfl, hdue⟩
  · rw [hsession]
    exact htripped

theorem send_exitFixed (htripped : c.session.signal.tripped = true) {line : String} {d : Delivery}
    (hphase : c.session.outbound.phase = .sending line d) {result : Except Fault Nat}
    (hsend : Medium.send c.medium c.session.writer d.remaining = some (result, w'))
    {fault : Fault} (hfeed : d.feed result = .error fault) :
    ∃ c', c.step (.act .send) = some c' ∧ c'.ExitFixed .outbound
      ⟨.outbound, .transport fault.kind .expected, c.session.outbound.bytes⟩ := by
  have hact : c.session.step c.medium .send =
      some (c.session.setOutbound (c.session.outbound.answer result), w') := by
    simp only [Session.step, Session.send, Outbound.offer?, hphase, Option.bind_some, hsend]
    rfl
  have hanswer : c.session.outbound.answer result =
      ({ c.session.outbound with phase := .failing fault }, []) := by
    simp only [Outbound.answer, hphase, hfeed]
  obtain ⟨c', hstep, hsession⟩ := step_act hact
  rw [hanswer] at hsession
  refine ⟨c', hstep, exitFixed_of_settled ?_ ?_⟩
  · rw [hsession]
    exact .inr ⟨fault, rfl, rfl⟩
  · rw [hsession]
    exact htripped

/-! ## Once -/

section once

variable {c c' : System (Faulty κ)}

/-- What every event keeps of a system whose medium counts the shutdowns. -/
structure ShutdownCounted (c : System (Faulty κ)) : Prop where
  reports : c.session.ReportsSound
  ordered : c.session.ShutdownOrdered
  calls : c.CallsSound
  count : c.medium.shutdowns = c.session.isReleased.toNat

namespace ShutdownCounted

theorem init {settings : Settings} {source : Source} {sink : Sink} {stream : Nat}
    {v v' : Faulty κ} (hfresh : v.shutdowns = 0)
    (hstart : Session.start settings source sink stream v = (.ok s, v')) :
    (System.init s v').ShutdownCounted := by
  obtain ⟨hsame, hnot⟩ := shutdowns_start hstart
  refine ⟨.start hstart, .start hstart, .init s v', ?_⟩
  rw [System.init, hsame, hfresh, hnot]
  rfl

theorem step (hc : c.ShutdownCounted) {event : Event (Faulty κ)} (h : c.step event = some c')
    (hothers : ∀ change, event = .elsewhere change → ∀ v, (change v).shutdowns = v.shutdowns) :
    c'.ShutdownCounted := by
  obtain ⟨hundergo, -⟩ := of_step h
  have hnext := shutdowns_undergo hundergo hothers
  have hcount := hc.count
  exact ⟨hc.reports.undergo hundergo, hc.ordered.undergo hundergo, hc.calls.step h, by omega⟩

theorem run (hc : c.ShutdownCounted) {events : List (Event (Faulty κ))}
    (hrun : c.run events = some c')
    (hothers : ∀ change, .elsewhere change ∈ events → ∀ v, (change v).shutdowns = v.shutdowns) :
    c'.ShutdownCounted := by
  refine run_keeps (P := ShutdownCounted) (fun event hmem c c' hc hstep => ?_) hc hrun
  exact hc.step hstep fun change heq => hothers change (heq ▸ hmem)

omit [Medium κ] in
theorem isReleased_iff (hc : c.ShutdownCounted) : c.session.isReleased = true ↔
    c.medium.shutdowns = 1 := by
  rw [hc.count]
  cases c.session.isReleased <;> simp

end ShutdownCounted

/-- The coordinator comes to the end of what it was called for by its own steps alone, and the
stream is shut down once by then. A session that was given up is gone; one that was waited for
reports, if both relays are gone. -/
def Concludes (c : System (Faulty κ)) : Prop :=
  ∃ c', c.run (c.session.coordinator.untilShutdown.map .act) = some c' ∧ c'.medium.shutdowns = 1 ∧
    (c.dropped = true → c'.session.coordinator = .dropped) ∧
    (c.waited = true → (∀ dir, c.session.gone? dir ≠ none) →
      c'.session.report?.isSome = true ∨ ∃ c'', c'.step (.act .join) = some c'' ∧
        c''.session.report?.isSome = true ∧ c''.medium.shutdowns = 1)

theorem ShutdownCounted.concludes (hc : c.ShutdownCounted)
    (hcalled : c.closed = true ∨ c.waited = true ∨ c.dropped = true)
    (hgone : c.session.coordinator = .awaiting → ∃ dir, c.session.gone? dir ≠ none) :
    c.Concludes := by
  have hbusy : c.session.isReleased = true ∨ c.session.coordinator ≠ .idle := by
    have hne : ∀ {call : Call}, c.session.coordinator.call? = some call →
        c.session.coordinator ≠ .idle := by
      intro call hcall hidle
      rw [hidle] at hcall
      cases hcall
    rcases hcalled with hclosed | hwaited | hdropped
    · exact (hc.calls.closed hclosed).imp_right hne
    · exact .inr (hne (hc.calls.waited hwaited))
    · exact .inr (hne (hc.calls.dropped hdropped))
  obtain ⟨c', hrun, hreleased, hpast⟩ := run_untilShutdown hc.reports hc.ordered hbusy hgone
  -- the coordinator's own steps are no uses of the medium by others
  have hown : ∀ change : Faulty κ → Faulty κ,
      .elsewhere change ∈ (c.session.coordinator.untilShutdown.map .act : List (Event (Faulty κ))) →
      ∀ v, (change v).shutdowns = v.shutdowns := by
    intro change hmem
    obtain ⟨action, -, heq⟩ := List.mem_map.1 hmem
    cases heq
  have hc' := hc.run hrun hown
  have hcall : ∀ call, call ≠ .close → c.session.coordinator.call? = some call →
      c'.session.coordinator.call? = some call := by
    intro call hne hcall
    refine run_keeps (P := fun c => c.session.coordinator.call? = some call) ?_ hcall hrun
    exact fun event _ c c' hcall hstep => call?_of_ne_close (of_step hstep).1 hcall hne
  refine ⟨c', hrun, hc'.isReleased_iff.1 hreleased, fun hdropped => ?_, fun hwaited hboth => ?_⟩
  · have hdrop := hcall .drop Call.noConfusion (hc.calls.dropped hdropped)
    cases hco : c'.session.coordinator with
    | dropped => rfl
    | idle | joining | finished => rw [hco] at hdrop; cases hdrop
    | tripping | releasing | awaiting => rw [hco] at hpast; cases hpast
  · have hwait := hcall .wait Call.noConfusion (hc.calls.waited hwaited)
    have hboth' : ∀ dir, c'.session.gone? dir ≠ none := by
      refine run_keeps (P := fun c => ∀ dir, c.session.gone? dir ≠ none) ?_ hboth hrun
      intro event _ c c' hboth hstep dir
      obtain ⟨exit, hexit⟩ := Option.ne_none_iff_exists'.1 (hboth dir)
      rw [gone?_mono (of_step hstep).1 hexit]
      exact Option.some_ne_none exit
    cases hco : c'.session.coordinator with
    | joining initiator =>
      obtain ⟨c'', report, hjoin, hreport⟩ := step_join hco hboth'
      refine .inr ⟨c'', hjoin, by rw [hreport]; rfl, ?_⟩
      have hc'' := hc'.step hjoin fun change heq => by cases heq
      exact hc''.isReleased_iff.1 ((mono_undergo (of_step hjoin).1).2.2 hreleased)
    | finished report => exact .inl (by simp [report?, hco])
    | idle | dropped => rw [hco] at hwait; cases hwait
    | tripping | releasing | awaiting => rw [hco] at hpast; cases hpast

/-- **However a session is ended, its stream is shut down once, and after the signal was tripped;**
and what the relays are told by the stream from then on, they take for the shutdown. The owner may
close the session any number of times before it waits for it or gives it up; whatever it calls for
comes, and a wait as soon as a relay is gone. A send also fails if it takes nothing. Others may do
to the medium what they like; only shutdowns of theirs are not counted. -/
theorem shutdown_once_after_signal {settings : Settings} {source : Source} {sink : Sink}
    {stream : Nat} {v : Faulty κ} (hfresh : v.shutdowns = 0) {events : List (Event (Faulty κ))}
    (hothers : ∀ change, .elsewhere change ∈ events → ∀ v, (change v).shutdowns = v.shutdowns)
    (hexec : exec settings source sink stream v events = some c) :
    c.medium.shutdowns ≤ 1 ∧
    (c.session.coordinator = .idle → (c.step .close).isSome = true ∧
      (c.step .wait).isSome = true ∧ (c.step .drop).isSome = true) ∧
    (c.closed = true ∨ c.waited = true ∨ c.dropped = true →
      (c.session.coordinator = .awaiting → ∃ dir, c.session.gone? dir ≠ none) → c.Concludes) ∧
    (c.session.coordinator.isOver = true ∨ c.closed = true ∧ c.session.coordinator = .idle →
      c.medium.shutdowns = 1) ∧
    (∀ event c', (∀ change, event ≠ .elsewhere change) → c.step event = some c' →
      c'.medium.shutdowns ≠ c.medium.shutdowns →
      c.session.signal.tripped = true ∧ c.session.signal.isCancelled = true) ∧
    (c.medium.shutdowns = 1 →
      (∀ v', c.session.inbound.phase = .receiving →
        Medium.receive c.medium c.session.reader c.session.inbound.bufferSize =
          some (.ok [], v') →
        ∃ c', c.step (.act .receive) = some c' ∧
          c'.ExitFixed .inbound ⟨.inbound, .cancelled, c.session.inbound.bytes⟩) ∧
      (∀ fault v', c.session.inbound.phase = .receiving →
        Medium.receive c.medium c.session.reader c.session.inbound.bufferSize =
          some (.error fault, v') → fault.kind ≠ .interrupted →
        ∃ c', c.step (.act .receive) = some c' ∧ c'.ExitFixed .inbound
          ⟨.inbound, .transport fault.kind .expected, c.session.inbound.bytes⟩) ∧
      (∀ line d result fault v', c.session.outbound.phase = .sending line d →
        Medium.send c.medium c.session.writer d.remaining = some (result, v') →
        d.feed result = .error fault →
        ∃ c', c.step (.act .send) = some c' ∧ c'.ExitFixed .outbound
          ⟨.outbound, .transport fault.kind .expected, c.session.outbound.bytes⟩)) := by
  obtain ⟨s, v', hstart, hrun⟩ := of_exec hexec
  have hc : c.ShutdownCounted := (ShutdownCounted.init hfresh hstart).run hrun hothers
  refine ⟨?_, enabled_calls, hc.concludes, ?_, ?_, fun hdone => ?_⟩
  · rw [hc.count]
    exact Bool.toNat_le _
  · rintro (hover | ⟨hclosed, hidle⟩)
    · exact hc.isReleased_iff.1 (hc.ordered.ended hover)
    · refine hc.isReleased_iff.1 ((hc.calls.closed hclosed).resolve_right ?_)
      rw [hidle]
      exact nofun
  · intro event c' hown hstep hne
    obtain ⟨hundergo, -⟩ := of_step hstep
    have hnext := shutdowns_undergo hundergo fun change heq => absurd heq (hown change)
    exact hc.ordered.before hundergo fun hsame => hne (by rw [hsame] at hnext; omega)
  · have htripped := hc.ordered.released (hc.isReleased_iff.2 hdone)
    refine ⟨fun v' hphase hreceive => ?_, fun fault v' hphase hreceive hkind => ?_, ?_⟩
    · exact receive_exitFixed htripped hphase hreceive rfl
    · exact receive_exitFixed htripped hphase hreceive (if_neg hkind)
    · intro line d result fault v' hphase hsend hfeed
      exact send_exitFixed htripped hphase hsend hfeed

end once

/-- A session is closed twice while its peer still talks, over a stream whose shutdown complains,
and then waited for. -/
def closedTwice : Option (System (Faulty Pipe)) :=
  exec {} (.ofLines []) {} 0 { base := {}, shutdownFault := some ⟨.other, "late"⟩ }
    [.close, .act .trip, .elsewhere fun v => { v with base := v.base.listen 1 }, .act .release,
      .close, .act .trip, .act .release, .wait, .act .cancelInput, .act .reportOutbound,
      .act .takeFirst, .act .trip, .act .release]

/-- A session is given up, and its outbound relay sees the cancellation before the stream is shut
down. -/
def givenUp : Option (System (Faulty Pipe)) :=
  exec {} (.ofLines []) {} 0 { base := {} } [.drop, .act .trip, .act .cancelInput]

theorem shutdown_once_after_signal_closed_or_given_up :
    (∃ c, closedTwice = some c ∧ c.session.coordinator = .joining ⟨.outbound, .cancelled, 0⟩ ∧
      c.medium.shutdowns = 1 ∧ ∃ c', c.step (.act .receive) = some c' ∧
        c'.ExitFixed .inbound ⟨.inbound, .cancelled, 0⟩) ∧
    ∃ c, givenUp = some c ∧ c.medium.shutdowns = 0 ∧ ∃ c', c.run [.act .release] = some c' ∧
      c'.medium.shutdowns = 1 ∧ c'.session.coordinator = .dropped := by
  constructor
  · obtain ⟨c, hexec⟩ := Option.isSome_iff_exists.1 (show closedTwice.isSome by decide +kernel)
    have hfacts : closedTwice.map (fun c => (c.session.coordinator, c.session.inbound.bytes)) =
        some (.joining ⟨.outbound, .cancelled, 0⟩, 0) := by
      decide +kernel
    have hready : closedTwice.any (fun c => (c.session.receive c.medium).isSome) = true := by
      decide +kernel
    have hended : closedTwice.map (fun c => (Medium.receive c.medium c.session.reader
        c.session.inbound.bufferSize).map (·.1.toOption)) = some (some (some [])) := by
      decide +kernel
    rw [hexec] at hfacts hready hended
    simp only [Option.map_some, Option.some.injEq, Prod.mk.injEq] at hfacts hended
    obtain ⟨hjoining, hbytes⟩ := hfacts
    obtain ⟨⟨s', v'⟩, hstep⟩ := Option.isSome_iff_exists.1 hready
    obtain ⟨receipt, hphase, hreceive, -⟩ := of_receive hstep
    obtain rfl : receipt = .ok [] := by
      rw [hreceive] at hended
      cases receipt with
      | ok data => exact congrArg Except.ok (Option.some.inj (Option.some.inj hended))
      | error fault => cases hended
    obtain ⟨-, -, -, honce, -, hafter⟩ := shutdown_once_after_signal rfl (fun change hmem v => by
      obtain rfl : change = fun v => { v with base := v.base.listen 1 } := by simpa using hmem
      rfl) hexec
    have hone := honce (.inl (by rw [hjoining]; rfl))
    refine ⟨c, hexec, hjoining, hone, ?_⟩
    rw [← hbytes]
    exact (hafter hone).1 v' hphase hreceive
  · obtain ⟨c, hexec⟩ := Option.isSome_iff_exists.1 (show givenUp.isSome by decide +kernel)
    have hfacts : givenUp.map (fun c => (c.dropped, c.session.coordinator, c.medium.shutdowns)) =
        some (true, .releasing .dropped, 0) := by
      decide +kernel
    rw [hexec] at hfacts
    simp only [Option.map_some, Option.some.injEq, Prod.mk.injEq] at hfacts
    obtain ⟨hdropped, hreleasing, hnone⟩ := hfacts
    obtain ⟨-, -, hconcludes, -⟩ := shutdown_once_after_signal rfl (by simp) hexec
    obtain ⟨c', hrun, hone, hend, -⟩ :=
      hconcludes (.inr (.inr hdropped)) (by rw [hreleasing]; exact nofun)
    rw [hreleasing] at hrun
    exact ⟨c, hexec, hnone, c', hrun, hone, hend hdropped⟩

end System

end Session

end TextRelay
