import TextRelay.Proofs.Session.System

/-!
# The moves of the relays

What an event can make of the inbound relay and of the outbound one: nothing, unless it is a step of
that relay, and then one of a few moves, each from a phase of its own. All that is proved of the
relays in a system is proved move by move.
-/

namespace TextRelay

namespace Outbound

theorem phase_of_offer? {r : Outbound} {data : Bytes} (hoffer : r.offer? = some data) :
    ∃ line d, r.phase = .sending line d ∧ data = d.remaining := by
  unfold offer? at hoffer
  split at hoffer
  · next line d hphase =>
    cases hoffer
    exact ⟨line, d, hphase, rfl⟩
  · cases hoffer

end Outbound

namespace Session

def Action.relay? : Action → Option Direction
  | receive | handle | reportInbound => some .inbound
  | takeInput | cancelInput | checkSignal | send | judgeFault | reportOutbound => some .outbound
  | readInput | dropInput | takeFirst | trip | release | join => none

variable {κ : Type}

/-- Whether an event is a step of a relay. -/
def Event.isOf (dir : Direction) : Event κ → Bool
  | act action => action.relay? = some dir
  | crash direction => direction = dir
  | _ => false

/-- What can become of the inbound relay in an event. -/
inductive InboundMove [Medium κ] (s : Session) (w : κ) (event : Event κ) (s' : Session) (w' : κ) :
    Prop where
  | rests (hof : event.isOf .inbound = false) (h : s'.inbound = s.inbound)
  | receives {receipt : Except Fault Bytes} (hevent : event = .act .receive)
    (hphase : s.inbound.phase = .receiving)
    (hreceive : Medium.receive w s.reader s.inbound.bufferSize = some (receipt, w'))
    (h : s'.inbound = s.inbound.receive receipt)
  | handles {receipt : Except Fault Bytes} (hevent : event = .act .handle)
    (hphase : s.inbound.phase = .handling receipt)
    (h : s'.inbound = (s.inbound.handle s.signal.tripped).1)
  | reports {exit : Exit} (hevent : event = .act .reportInbound)
    (hphase : s.inbound.phase = .leaving exit)
    (h : s'.inbound = { s.inbound with phase := .gone exit })
  | crashes (hevent : event = .crash .inbound) (hphase : s.inbound.phase = .receiving)
    (h : s'.inbound = { s.inbound with phase := .leaving (.panicked .inbound) })

/-- What can become of the outbound relay in an event. -/
inductive OutboundMove [Medium κ] (s : Session) (w : κ) (event : Event κ) (s' : Session) (w' : κ) :
    Prop where
  | rests (hof : event.isOf .outbound = false) (h : s'.outbound = s.outbound)
  | takes {input : InputEvent} (hevent : event = .act .takeInput)
    (hphase : s.outbound.phase = .waiting) (h : s'.outbound = (s.outbound.take input).1)
  | cancels (hevent : event = .act .cancelInput) (hphase : s.outbound.phase = .waiting)
    (hcancelled : s.signal.isCancelled = true) (h : s'.outbound = s.outbound.cancel.1)
  | checks {line : String} (hevent : event = .act .checkSignal)
    (hphase : s.outbound.phase = .holding line)
    (h : s'.outbound = (s.outbound.check s.signal.tripped).1)
  | sends {line : String} {d : Delivery} {result : Except Fault Nat} (hevent : event = .act .send)
    (hphase : s.outbound.phase = .sending line d)
    (hsend : Medium.send w s.writer d.remaining = some (result, w'))
    (h : s'.outbound = (s.outbound.answer result).1)
  | judges {fault : Fault} (hevent : event = .act .judgeFault)
    (hphase : s.outbound.phase = .failing fault)
    (h : s'.outbound = (s.outbound.judge s.signal.tripped).1)
  | reports {exit : Exit} (hevent : event = .act .reportOutbound)
    (hphase : s.outbound.phase = .leaving exit)
    (h : s'.outbound = { s.outbound with phase := .gone exit })
  | crashes {line : String} {d : Delivery} (hevent : event = .crash .outbound)
    (hphase : s.outbound.phase = .sending line d)
    (h : s'.outbound = { s.outbound with phase := .leaving (.panicked .outbound) })

variable [Medium κ] {s s' : Session} {w w' : κ} {event : Event κ}

theorem inboundMove (h : s.undergo w event = some (s', w')) : InboundMove s w event s' w' := by
  cases event with
  | close =>
    obtain ⟨-, rfl⟩ := of_callClose (of_map h).1
    exact .rests rfl rfl
  | wait =>
    obtain ⟨-, rfl⟩ := of_callWait (of_map h).1
    exact .rests rfl rfl
  | drop =>
    obtain ⟨-, rfl⟩ := of_callDrop (of_map h).1
    exact .rests rfl rfl
  | act action =>
    obtain ⟨-, hothers, -⟩ := step_frame (show s.step w action = some (s', w') from h)
    cases action with
    | receive =>
      obtain ⟨receipt, hphase, hreceive, rfl⟩ := of_receive h
      exact .receives rfl hphase hreceive rfl
    | handle =>
      obtain ⟨receipt, log, hphase, rfl, -⟩ := of_handle h
      exact .handles rfl hphase rfl
    | reportInbound =>
      obtain ⟨exit, hphase, -, rfl⟩ := of_reportInbound h
      exact .reports rfl hphase rfl
    | readInput | dropInput | takeInput | cancelInput | checkSignal | send | judgeFault
    | reportOutbound | takeFirst | trip | release | join => exact .rests rfl (hothers (by decide))
  | crash direction =>
    obtain ⟨rfl, hphase, rfl⟩ | ⟨rfl, -, rfl⟩ := of_crash (of_map h).1
    · exact .crashes rfl hphase rfl
    · exact .rests rfl rfl
  | elsewhere | input =>
    cases h
    exact .rests rfl rfl

theorem outboundMove (h : s.undergo w event = some (s', w')) : OutboundMove s w event s' w' := by
  cases event with
  | close =>
    obtain ⟨-, rfl⟩ := of_callClose (of_map h).1
    exact .rests rfl rfl
  | wait =>
    obtain ⟨-, rfl⟩ := of_callWait (of_map h).1
    exact .rests rfl rfl
  | drop =>
    obtain ⟨-, rfl⟩ := of_callDrop (of_map h).1
    exact .rests rfl rfl
  | act action =>
    obtain ⟨hothers, -⟩ := step_frame (show s.step w action = some (s', w') from h)
    cases action with
    | readInput =>
      obtain ⟨pump, -, rfl⟩ := of_readInput (of_map h).1
      exact .rests rfl rfl
    | dropInput =>
      obtain ⟨exit, pump, -, -, rfl⟩ := of_dropInput (of_map h).1
      exact .rests rfl rfl
    | takeInput =>
      obtain ⟨input, pump, log, hphase, -, rfl⟩ := of_takeInput (of_map h).1
      exact .takes rfl hphase rfl
    | cancelInput =>
      obtain ⟨log, hphase, hcancelled, rfl⟩ := of_cancelInput (of_map h).1
      exact .cancels rfl hphase hcancelled rfl
    | checkSignal =>
      obtain ⟨line, log, hphase, rfl⟩ := of_checkSignal (of_map h).1
      exact .checks rfl hphase rfl
    | send =>
      obtain ⟨data, result, log, hoffer, hsend, rfl⟩ := of_send h
      obtain ⟨line, d, hphase, rfl⟩ := Outbound.phase_of_offer? hoffer
      exact .sends rfl hphase hsend rfl
    | judgeFault =>
      obtain ⟨fault, log, hphase, rfl⟩ := of_judgeFault (of_map h).1
      exact .judges rfl hphase rfl
    | reportOutbound =>
      obtain ⟨exit, hphase, -, rfl⟩ := of_reportOutbound h
      exact .reports rfl hphase rfl
    | receive | handle | reportInbound | takeFirst | trip | release | join =>
      exact .rests rfl (hothers (by decide)).2
  | crash direction =>
    obtain ⟨rfl, -, rfl⟩ | ⟨rfl, ⟨line, d, hphase⟩, rfl⟩ := of_crash (of_map h).1
    · exact .rests rfl rfl
    · exact .crashes rfl hphase rfl
  | elsewhere | input =>
    cases h
    exact .rests rfl rfl

end Session

end TextRelay
