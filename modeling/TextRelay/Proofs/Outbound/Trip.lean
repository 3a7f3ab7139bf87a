import TextRelay.Proofs.Outbound.System

/-!
# An outbound relay after a trip

`OutboundSystem.AfterTrip` says what a tripped signal leaves to a relay, phase by phase. It is
proved backwards: `OutboundSystem.RunsTo.step` puts one move in front of a run that is known, so
that a phase rests on the phases that can follow it. Nothing starts a line any more, so all that can
still go out is the rest of the line being sent. `OutboundSystem.run_after_trip` holds for every run
of the system and every moment of the trip.
-/

namespace TextRelay

/-- Whether a relay that stops for this cause has no line in hand, or none that it looked at. -/
def Cause.isIdle : Cause → Bool
  | cancelled | inputClosed | inputFailed _ => true
  | peerClosed | localSentinel | transport _ _ | panicked => false

theorem Delivery.remaining_ne_nil (d : Delivery) (hleft : d.written < d.data.length) :
    d.remaining ≠ [] := by
  intro hnil
  exact Nat.not_le.2 hleft (List.drop_eq_nil_iff.1 hnil)

namespace SendScript

variable {s : SendScript}

theorem answer_tripped (size : Nat) (steps : List SendStep) (tripped : Bool) :
    answer size steps true =
      ((answer size steps tripped).1, (answer size steps tripped).2.1, true) := by
  induction steps generalizing tripped with
  | nil => rfl
  | cons step rest ih =>
    cases step with
    | accept n => rfl
    | fail fault => rfl
    | trip => exact ih true

/-- A call does the same on a tripped signal, which stays tripped. -/
theorem send_tripped (s : SendScript) (data : Bytes) :
    { s with tripped := true }.send data =
      ((s.send data).1, { (s.send data).2 with tripped := true }) := by
  simp only [send]
  rw [answer_tripped data.length s.steps s.tripped]

theorem tripped_send (htripped : s.tripped = true) (data : Bytes) :
    (s.send data).2.tripped = true := by
  have hstays := congrArg (·.2.2) (answer_tripped data.length s.steps true)
  simpa only [send, htripped] using hstays

end SendScript

namespace OutboundSystem

variable {d d' d₁ : OutboundSystem} {move : Move} {moves : List Move}

theorem tripSignal_of_tripped (htripped : d.stream.tripped = true) : d.tripSignal = d := by
  rw [tripSignal, ← htripped]

theorem tripped_step (h : Step d move d') (htripped : d.stream.tripped = true) :
    d'.stream.tripped = true := by
  cases h with
  | trips => rfl
  | takes | cancels | checks | judges => exact htripped
  | sends line delivery hphase => exact SendScript.tripped_send htripped delivery.remaining

/-- A move during which the signal is tripped could as well be made right after the trip. -/
theorem step_tripSignal (h : d.step move = some d') (htripped : d'.stream.tripped = true) :
    d.tripSignal.step move = some d' := by
  by_cases hbefore : d.stream.tripped = true
  · rw [tripSignal_of_tripped hbefore, h]
  · cases of_step h with
    | trips => rfl
    | takes | cancels | checks | judges => exact absurd htripped hbefore
    | sends line delivery hphase =>
      have hoffer : d.tripSignal.relay.offer? = some delivery.remaining :=
        Outbound.offer?_of_sending hphase
      have hsend :
          d.tripSignal.stream.send delivery.remaining = d.stream.send delivery.remaining := by
        refine (SendScript.send_tripped d.stream delivery.remaining).trans ?_
        rw [← htripped]
      simp only [step, hoffer, hsend]
      rfl

/-! ## After a trip -/

/-- The relay has come to this exit, or this move brings it there. -/
def ReachesExit (d : OutboundSystem) (move : Move) (exit : Exit) : Prop :=
  match d.relay.exit? with
  | some reached => reached = exit
  | none => ∃ d', d.step move = some d' ∧ d'.relay.exit? = some exit

theorem ReachesExit.of_exit {exit : Exit} (hexit : d.relay.exit? = some exit) :
    d.ReachesExit move exit := by
  simp [ReachesExit, hexit]

theorem ReachesExit.of_step {exit : Exit} (hgoing : d.relay.exit? = none)
    (hstep : d.step move = some d') (hexit : d'.relay.exit? = some exit) :
    d.ReachesExit move exit := by
  simp only [ReachesExit, hgoing]
  exact ⟨d', hstep, hexit⟩

/-- The relay has stopped without a line to send, or a move cancels it. -/
def EndsIdle (d : OutboundSystem) : Prop :=
  (∃ exit, d.relay.exit? = some exit ∧ exit.cause.isIdle = true) ∨
    ∃ move, d.ReachesExit move ⟨.outbound, .cancelled, d.relay.bytes⟩

/-- What is left to a relay on a tripped signal, by the phase it is in at `o`: what goes out is
`more`, and `d` is a state that it comes to. -/
def AfterTrip (o : OutboundSystem) (more : Bytes) (d : OutboundSystem) : Prop :=
  match o.relay.phase with
  | .waiting => more = [] ∧ d.relay.bytes = o.relay.bytes ∧ d.EndsIdle
  -- A line that is not yet looked at is never sent.
  | .holding _ => more = [] ∧ d.relay.bytes = o.relay.bytes ∧
      d.ReachesExit .check ⟨.outbound, .cancelled, o.relay.bytes⟩
  -- The line being sent goes out in full, and counts; or it is still being sent, or its stream
  -- fails.
  | .sending line delivery => more <+: delivery.remaining ∧
      (more = delivery.remaining →
        d.relay.bytes = o.relay.bytes + (Line.encode line).length ∧
        (line = o.relay.sentinel →
          d.relay.exit? = some ⟨.outbound, .localSentinel, d.relay.bytes⟩) ∧
        (line ≠ o.relay.sentinel → d.EndsIdle)) ∧
      (more ≠ delivery.remaining → d.relay.bytes = o.relay.bytes ∧
        ((∃ rest, d.relay.phase = .sending line rest ∧
            delivery.remaining = more ++ rest.remaining) ∨
          ∃ kind, d.ReachesExit .judge ⟨.outbound, .transport kind .expected, o.relay.bytes⟩))
  | .failing fault => more = [] ∧ d.relay.bytes = o.relay.bytes ∧
      d.ReachesExit .judge ⟨.outbound, .transport fault.kind .expected, o.relay.bytes⟩
  | .leaving exit | .gone exit => more = [] ∧ d.relay.bytes = o.relay.bytes ∧
      d.relay.exit? = some exit

/-- How many events a relay can still take on a tripped signal. -/
def takesLeft (d : OutboundSystem) : Nat :=
  match d.relay.phase with
  | .waiting | .sending _ _ => 1
  | .holding _ | .failing _ | .leaving _ | .gone _ => 0

/-- What the relay itself does next on a tripped signal. -/
def next? (d : OutboundSystem) : Option Move :=
  match d.relay.phase with
  | .waiting => some .cancel
  | .holding _ => some .check
  | .sending _ _ => some .send
  | .failing _ => some .judge
  | .leaving _ | .gone _ => none

/-- A relay that has not stopped can go on. -/
theorem enabled_next (htripped : d.stream.tripped = true) (hgoing : d.relay.exit? = none) :
    ∃ move d', d.next? = some move ∧ d.step move = some d' := by
  cases hphase : d.relay.phase with
  | waiting => exact ⟨.cancel, _, by simp [next?, hphase], by simp [step, hphase, htripped]; rfl⟩
  | holding line => exact ⟨.check, _, by simp [next?, hphase], by simp [step, hphase]; rfl⟩
  | sending line delivery =>
    have hoffer := Outbound.offer?_of_sending hphase
    exact ⟨.send, _, by simp [next?, hphase], by simp [step, hoffer]; rfl⟩
  | failing fault => exact ⟨.judge, _, by simp [next?, hphase], by simp [step, hphase]; rfl⟩
  | leaving exit | gone exit => simp [Outbound.exit?, hphase] at hgoing

/-- A run on a tripped signal, from `o` to `d`. -/
def RunsTo (o d : OutboundSystem) : Prop :=
  ∃ more, d.stream.wire = o.stream.wire ++ more ∧ d.taken ≤ o.taken + o.takesLeft ∧
    o.AfterTrip more d

namespace RunsTo

theorem refl (hd : d.relay.Sound) (htripped : d.stream.tripped = true) : d.RunsTo d := by
  refine ⟨[], (List.append_nil _).symm, Nat.le_add_right _ _, ?_⟩
  unfold AfterTrip
  cases hphase : d.relay.phase with
  | waiting =>
    have hstep : d.step .cancel = some { d with relay := d.relay.cancel.1 } := by
      simp [OutboundSystem.step, hphase, htripped]
    exact ⟨rfl, rfl, .inr ⟨.cancel, .of_step (by simp [Outbound.exit?, hphase]) hstep rfl⟩⟩
  | holding line =>
    have hstep : d.step .check = some { d with relay := (d.relay.leave .cancelled).1 } := by
      simp [OutboundSystem.step, Outbound.check, hphase, htripped]
    exact ⟨rfl, rfl, .of_step (by simp [Outbound.exit?, hphase]) hstep rfl⟩
  | failing fault =>
    have hstep : d.step .judge =
        some { d with relay := (d.relay.leave (.transport fault.kind .expected)).1 } := by
      simp [OutboundSystem.step, Outbound.judge, hphase, htripped, Closure.classify]
    exact ⟨rfl, rfl, .of_step (by simp [Outbound.exit?, hphase]) hstep rfl⟩
  | leaving exit | gone exit => simp [Outbound.exit?, hphase]
  | sending line delivery =>
    obtain ⟨-, hleft⟩ := hd.sending hphase
    refine ⟨List.nil_prefix, fun hnil => ?_, fun _ => ⟨rfl, .inl ⟨delivery, rfl, rfl⟩⟩⟩
    exact absurd hnil.symm (delivery.remaining_ne_nil hleft)

/-- A relay that has stopped stays as it is. -/
theorem of_leaving {exit : Exit} (h : d₁.RunsTo d') (hphase : d₁.relay.phase = .leaving exit) :
    d'.stream.wire = d₁.stream.wire ∧ d'.taken ≤ d₁.taken ∧ d'.relay.bytes = d₁.relay.bytes ∧
      d'.relay.exit? = some exit := by
  obtain ⟨more, hwire, htaken, hafterTrip⟩ := h
  simp only [AfterTrip, hphase] at hafterTrip
  simp only [takesLeft, hphase, Nat.add_zero] at htaken
  obtain ⟨rfl, hbytes, hexit⟩ := hafterTrip
  rw [List.append_nil] at hwire
  exact ⟨hwire, htaken, hbytes, hexit⟩

/-- A relay that stops sends nothing more, so all that follows is the cause for which it stops. -/
theorem leave {cause : Cause} (h : d₁.RunsTo d') (hrelay : d₁.relay = (d.relay.leave cause).1)
    (hstream : d₁.stream = d.stream) (htakes : d₁.taken ≤ d.taken + d.takesLeft)
    (hafterTrip : d'.relay.bytes = d.relay.bytes →
      d'.relay.exit? = some ⟨.outbound, cause, d.relay.bytes⟩ → d.AfterTrip [] d') :
    d.RunsTo d' := by
  obtain ⟨hwire, htaken, hbytes, hexit⟩ := h.of_leaving (congrArg Outbound.phase hrelay)
  rw [hstream] at hwire
  rw [hrelay] at hbytes
  exact ⟨[], by simpa using hwire, Nat.le_trans htaken htakes, hafterTrip hbytes hexit⟩

/-- A relay that waits may take one more event, and stops after it. -/
theorem take (hphase : d.relay.phase = .waiting) {event : InputEvent} {rest : List InputEvent}
    (h : RunsTo
      { d with relay := (d.relay.take event).1, input := rest, taken := d.taken + 1 } d') :
    d.RunsTo d' := by
  have htakes : d.takesLeft = 1 := by simp [takesLeft, hphase]
  cases event with
  | line text =>
    obtain ⟨more, hwire, htaken, hmore, hbytes, hcancelled⟩ := h
    refine ⟨more, hwire, by rwa [htakes], ?_⟩
    simp only [AfterTrip, hphase]
    refine ⟨hmore, hbytes, .inr ⟨.check, ?_⟩⟩
    rw [hbytes]
    exact hcancelled
  | ended | failed fault =>
    apply h.leave rfl rfl (Nat.le_of_eq (by rw [htakes]))
    intro hbytes hreached
    simp only [AfterTrip, hphase]
    exact ⟨trivial, hbytes, .inl ⟨_, hreached, rfl⟩⟩

/-- The line being sent may go on, and then its rest is all that goes out; or it is out, and the
relay stops or waits again; or its stream fails. -/
theorem send (hd : d.relay.Sound) {line : String} {delivery : Delivery}
    (hphase : d.relay.phase = .sending line delivery)
    (h : RunsTo
      { d with
        relay := (d.relay.answer (d.stream.send delivery.remaining).1).1
        stream := (d.stream.send delivery.remaining).2 } d') :
    d.RunsTo d' := by
  obtain ⟨-, hleft⟩ := hd.sending hphase
  have htakes : d.takesLeft = 1 := by simp [takesLeft, hphase]
  cases Outbound.outcome (s := d.stream) hphase hleft with
  | advances k hless hwire hrelay =>
    rw [hrelay] at h
    obtain ⟨more, hwire', htaken, hmore, hall, hpart⟩ := h
    have hsplit : delivery.remaining = delivery.remaining.take k ++
        Delivery.remaining { delivery with written := delivery.written + k } := by
      simp only [Delivery.remaining, ← List.drop_drop, List.take_append_drop]
    refine ⟨delivery.remaining.take k ++ more, ?_, by rwa [htakes], ?_⟩
    · rw [hwire', hwire, List.append_assoc]
    · simp only [AfterTrip, hphase]
      refine ⟨?_, ?_, ?_⟩
      · have hgrown := (List.prefix_append_right_inj (delivery.remaining.take k)).2 hmore
        rwa [← hsplit] at hgrown
      · intro heq
        exact hall (List.append_cancel_left (heq.trans hsplit))
      · intro hne
        obtain ⟨hbytes, hgoes⟩ := hpart fun heq => hne (by rw [heq, ← hsplit])
        refine ⟨hbytes, hgoes.imp_left ?_⟩
        rintro ⟨rest, hrest, hsame⟩
        rw [hsame, ← List.append_assoc] at hsplit
        exact ⟨rest, hrest, hsplit⟩
  | completes hwire hrelay =>
    rw [hrelay] at h
    by_cases hline : line = d.relay.sentinel
    · rw [Outbound.complete_sentinel hline] at h
      obtain ⟨hwire', htaken, hbytes, hexit⟩ := h.of_leaving rfl
      refine ⟨delivery.remaining, hwire'.trans hwire, Nat.le_add_right_of_le htaken, ?_⟩
      simp only [AfterTrip, hphase]
      refine ⟨List.prefix_rfl, fun _ => ⟨hbytes, fun _ => ?_, fun hne => absurd hline hne⟩,
        fun hne => absurd rfl hne⟩
      rw [hexit, hbytes]
    · rw [Outbound.complete_line hline] at h
      obtain ⟨more, hwire', htaken, rfl, hbytes, hexits⟩ := h
      refine ⟨delivery.remaining, ?_, by rwa [htakes], ?_⟩
      · rw [hwire', List.append_nil, hwire]
      · simp only [AfterTrip, hphase]
        exact ⟨List.prefix_rfl, fun _ => ⟨hbytes, fun heq => absurd heq hline, fun _ => hexits⟩,
          fun hne => absurd rfl hne⟩
  | fails fault hwire hrelay =>
    rw [hrelay] at h
    obtain ⟨more, hwire', htaken, rfl, hbytes, hexpected⟩ := h
    have hne := delivery.remaining_ne_nil hleft
    refine ⟨[], ?_, Nat.le_add_right_of_le htaken, ?_⟩
    · rw [hwire', hwire]
    · simp only [AfterTrip, hphase]
      exact ⟨List.nil_prefix, fun heq => absurd heq.symm hne,
        fun _ => ⟨hbytes, .inr ⟨fault.kind, hexpected⟩⟩⟩

/-- One move before a run that is known. -/
theorem step (hd : d.relay.Sound) (htripped : d.stream.tripped = true) (h : Step d move d₁)
    (hrunsTo : d₁.RunsTo d') : d.RunsTo d' := by
  cases h with
  | trips => exact hrunsTo
  | takes event rest hphase => exact hrunsTo.take hphase
  | sends line delivery hphase => exact hrunsTo.send hd hphase
  | cancels hphase =>
    apply hrunsTo.leave rfl rfl (Nat.le_add_right _ _)
    intro hbytes hreached
    simp only [AfterTrip, hphase]
    exact ⟨trivial, hbytes, .inl ⟨_, hreached, rfl⟩⟩
  | checks line hphase =>
    have hrelay : (d.relay.check d.stream.tripped).1 = (d.relay.leave .cancelled).1 := by
      simp [Outbound.check, hphase, htripped]
    apply hrunsTo.leave hrelay rfl (Nat.le_add_right _ _)
    intro hbytes hreached
    simp only [AfterTrip, hphase]
    exact ⟨trivial, hbytes, .of_exit hreached⟩
  | judges fault hphase =>
    have hrelay : (d.relay.judge d.stream.tripped).1 =
        (d.relay.leave (.transport fault.kind .expected)).1 := by
      simp [Outbound.judge, hphase, htripped, Closure.classify]
    apply hrunsTo.leave hrelay rfl (Nat.le_add_right _ _)
    intro hbytes hreached
    simp only [AfterTrip, hphase]
    exact ⟨trivial, hbytes, .of_exit hreached⟩

/-- A run on a tripped signal, by induction on its moves. -/
theorem of_run (hd : d.relay.Sound) (htripped : d.stream.tripped = true)
    (h : d.run moves = some d') : d.RunsTo d' := by
  induction moves generalizing d with
  | nil =>
    cases h
    exact .refl hd htripped
  | cons move rest ih =>
    obtain ⟨next, hstep, hrest⟩ := Option.bind_eq_some_iff.1 h
    have hmove := of_step hstep
    exact (ih (sound_step hmove hd) (tripped_step hmove htripped) hrest).step hd htripped hmove

end RunsTo

theorem takesLeft_le_one (d : OutboundSystem) : d.takesLeft ≤ 1 := by
  unfold takesLeft
  split <;> omega

theorem AfterTrip.within_offer {more : Bytes} (h : d.AfterTrip more d') :
    more <+: d.relay.offer?.getD [] := by
  unfold AfterTrip at h
  cases hphase : d.relay.phase with
  | sending line delivery =>
    simp only [hphase] at h
    rw [Outbound.offer?_of_sending hphase]
    exact h.1
  | waiting | holding line | failing fault | leaving exit | gone exit =>
    simp only [hphase] at h
    rw [h.1]
    exact List.nil_prefix

/-- A send that fails on a tripped signal ends the relay, and its fault counts as expected. -/
theorem reachesExit_of_failed {line : String} {delivery : Delivery} {fault : Fault}
    {after : List Move} {d₂ d₃ : OutboundSystem} (hphase : d₁.relay.phase = .sending line delivery)
    (hfeed : delivery.feed (d₁.stream.send delivery.remaining).1 = .error fault)
    (hsend : d₁.step .send = some d₂) (hsound : d₂.relay.Sound)
    (htripped : d₂.stream.tripped = true) (hafter : d₂.run after = some d₃) :
    d₃.ReachesExit .judge ⟨.outbound, .transport fault.kind .expected, d₁.relay.bytes⟩ := by
  have hrelay : d₂.relay = { d₁.relay with phase := .failing fault } := by
    simp only [step, Outbound.offer?_of_sending hphase] at hsend
    cases hsend
    simp only [Outbound.answer, hphase, hfeed]
  obtain ⟨more, -, -, hafterTrip⟩ := RunsTo.of_run hsound htripped hafter
  simp only [AfterTrip, hrelay] at hafterTrip
  exact hafterTrip.2.2

/-- Wherever the signal is tripped, in a move of its own or within a send call, and whatever the
relay is given first: from there on the wire grows by a part of the line being sent, at most, the
relay takes one event, at most, and what follows is given by its phase at the trip. It can always go
on until it has stopped, and a send that fails stops it. The state `d₁` may also lie anywhere past
the trip. The relay's own loop is one of the runs. -/
theorem run_after_trip (sentinel : String) (isOpen : Bool) (events : List InputEvent)
    (s : SendScript) :
    (∃ moves d, (start sentinel isOpen events s).run moves = some d ∧
      d.relay = (Outbound.run s { sentinel } isOpen events).2.1 ∧
      d.stream = (Outbound.run s { sentinel } isOpen events).1) ∧
    ∀ (before after : List Move) (move : Move) (d₁ d₂ d₃ : OutboundSystem),
      (start sentinel isOpen events s).run before = some d₁ → d₁.step move = some d₂ →
      d₂.stream.tripped = true → d₂.run after = some d₃ →
      (∃ more, d₃.stream.wire = d₁.stream.wire ++ more ∧ more <+: d₁.relay.offer?.getD [] ∧
        d₃.taken ≤ d₁.taken + 1 ∧
        (∀ exit, d₃.relay.exit? = some exit → exit.bytes = d₃.relay.bytes) ∧
        (∀ line delivery, d₁.relay.phase = .sending line delivery →
          delivery.data = Line.encode line) ∧
        d₁.AfterTrip more d₃) ∧
      (d₃.relay.exit? = none → ∃ next d₄, d₃.next? = some next ∧ d₃.step next = some d₄) ∧
      ∀ line delivery fault, move = .send → d₁.relay.phase = .sending line delivery →
        delivery.feed (d₁.stream.send delivery.remaining).1 = .error fault →
        d₃.ReachesExit .judge ⟨.outbound, .transport fault.kind .expected, d₁.relay.bytes⟩ := by
  constructor
  · obtain ⟨d, ⟨moves, hrun⟩, hd⟩ := reaches_run (start sentinel isOpen events s)
    exact ⟨moves, d, hrun, hd⟩
  · intro before after move d₁ d₂ d₃ hbefore hmove htripped hafter
    have hsound₁ : d₁.relay.Sound :=
      run_keeps (P := fun d => d.relay.Sound) sound_step hbefore (.start sentinel)
    have hwhole : d₁.tripSignal.run (move :: after) = some d₃ := by
      rw [run, step_tripSignal hmove htripped]
      exact hafter
    have hsound₃ : d₃.relay.Sound :=
      run_keeps (P := fun d => d.relay.Sound) (d := d₁.tripSignal) sound_step hwhole hsound₁
    obtain ⟨more, hwire, htaken, hafterTrip⟩ :=
      RunsTo.of_run (d := d₁.tripSignal) hsound₁ rfl hwhole
    refine ⟨⟨more, hwire, hafterTrip.within_offer, ?_, ?_, ?_, hafterTrip⟩, ?_, ?_⟩
    · exact Nat.le_trans htaken (Nat.add_le_add_left (takesLeft_le_one d₁.tripSignal) d₁.taken)
    · intro exit hexit
      exact hsound₃.counted hexit
    · intro line delivery hphase
      exact (hsound₁.sending hphase).1
    · exact enabled_next (run_keeps (P := fun d => d.stream.tripped = true) tripped_step hafter
        htripped)
    · rintro line delivery fault rfl hphase hfeed
      exact reachesExit_of_failed hphase hfeed hmove (sound_step (of_step hmove) hsound₁)
        htripped hafter

/-- The signal is tripped within the second of three calls for a line. The line goes out and counts,
the sentinel is taken, and is not sent. If that call fails instead, the relay stops with what it has
counted before. -/
theorem run_after_trip_midway :
    (let system := start "bye" false [.line "hé", .line "bye"]
        { steps := [.accept 1, .trip, .accept 1] }
      ∃ d₁ d₂ d₃, system.run [.take, .check, .send] = some d₁ ∧ d₁.step .send = some d₂ ∧
        d₁.stream.tripped = false ∧ d₂.stream.tripped = true ∧
        d₂.run [.send, .take, .check] = some d₃ ∧
        d₃.taken = d₁.taken + 1 ∧ d₃.relay.exit? = some ⟨.outbound, .cancelled, 3⟩ ∧
        ∃ more, d₃.stream.wire = d₁.stream.wire ++ more ∧ more <+: d₁.relay.offer?.getD [] ∧
          d₁.AfterTrip more d₃) ∧
    let system := start "bye" false [.line "hé", .line "bye"]
      { steps := [.accept 1, .trip, .fail ⟨.connectionReset, "reset"⟩] }
    ∃ d₁ d₂ d₃, system.run [.take, .check, .send] = some d₁ ∧ d₁.step .send = some d₂ ∧
      d₁.stream.tripped = false ∧ d₂.stream.tripped = true ∧ d₂.relay.exit? = none ∧
      d₂.step .judge = some d₃ ∧
      d₃.relay.exit? = some ⟨.outbound, .transport .connectionReset .expected, 0⟩ := by
  constructor
  · let d₁ : OutboundSystem := ⟨⟨"bye", 0, .sending "hé" ⟨[104, 195, 169], 1⟩⟩,
      ⟨[.trip, .accept 1], false, [104], [3]⟩, [.line "bye"], false, 1⟩
    let d₂ : OutboundSystem := ⟨⟨"bye", 0, .sending "hé" ⟨[104, 195, 169], 2⟩⟩,
      ⟨[], true, [104, 195], [3, 2]⟩, [.line "bye"], false, 1⟩
    let d₃ : OutboundSystem := ⟨⟨"bye", 3, .leaving ⟨.outbound, .cancelled, 3⟩⟩,
      ⟨[], true, [104, 195, 169], [3, 2, 1]⟩, [], false, 2⟩
    have hbefore : (start "bye" false [.line "hé", .line "bye"]
        { steps := [.accept 1, .trip, .accept 1] }).run [.take, .check, .send] = some d₁ := by
      decide +kernel
    have hmove : d₁.step .send = some d₂ := by decide +kernel
    have hafter : d₂.run [.send, .take, .check] = some d₃ := by decide +kernel
    obtain ⟨⟨more, hwire, hmore, -, -, -, hafterTrip⟩, -⟩ :=
      (run_after_trip "bye" false [.line "hé", .line "bye"]
        { steps := [.accept 1, .trip, .accept 1] }).2 _ _ _ d₁ d₂ d₃ hbefore hmove rfl hafter
    exact ⟨d₁, d₂, d₃, hbefore, hmove, rfl, rfl, hafter, rfl, rfl, more, hwire, hmore, hafterTrip⟩
  · let d₁ : OutboundSystem := ⟨⟨"bye", 0, .sending "hé" ⟨[104, 195, 169], 1⟩⟩,
      ⟨[.trip, .fail ⟨.connectionReset, "reset"⟩], false, [104], [3]⟩, [.line "bye"], false, 1⟩
    let d₂ : OutboundSystem := ⟨⟨"bye", 0, .failing ⟨.connectionReset, "reset"⟩⟩,
      ⟨[], true, [104], [3, 2]⟩, [.line "bye"], false, 1⟩
    have hbefore : (start "bye" false [.line "hé", .line "bye"]
        { steps := [.accept 1, .trip, .fail ⟨.connectionReset, "reset"⟩] }).run
          [.take, .check, .send] = some d₁ := by
      decide +kernel
    have hmove : d₁.step .send = some d₂ := by decide +kernel
    obtain ⟨-, -, hfails⟩ :=
      (run_after_trip "bye" false [.line "hé", .line "bye"]
        { steps := [.accept 1, .trip, .fail ⟨.connectionReset, "reset"⟩] }).2 _ [] _ d₁ d₂ d₂
          hbefore hmove rfl rfl
    obtain ⟨d₃, hjudge, hexit⟩ := hfails "hé" _ ⟨.connectionReset, "reset"⟩ rfl rfl rfl
    exact ⟨d₁, d₂, d₃, hbefore, hmove, rfl, rfl, rfl, hjudge, hexit⟩

end OutboundSystem

end TextRelay
