import TextRelay.Proofs.Session.Relays
import TextRelay.Session.Schedule

/-!
# What the steps of a session do

One lemma for each thing that can happen in a session: the condition under which it happened, and
the session and the medium it has left behind. Whatever is preserved by sessions is proved from
these, and nothing else unfolds a step. They hold over every medium.

The log only grows, and no step reads it; the lemmas leave open what was added to it.
-/

namespace TextRelay

namespace Session

variable {κ : Type} [Medium κ] {s s' : Session} {w w' : κ}

theorem setInbound_eq (s : Session) (r : Inbound × List Log.Event) :
    s.setInbound r = { s with inbound := r.1, log := s.log ++ r.2 } := rfl

/-- A started session was given settings that are in order. It has a handle of its own for either
relay, and the inbound relay is about to receive. -/
theorem of_start {settings : Settings} {source : Source} {sink : Sink} {stream : Nat}
    (h : start settings source sink stream w = (.ok s, w')) :
    ∃ (reader writer : Nat) (w₁ w₂ : κ) (log : List Log.Event),
      settings.validate = .ok () ∧ Medium.clone w stream = (.ok reader, w₁) ∧
      Medium.clone w₁ stream = (.ok writer, w₂) ∧ w' = Medium.listen w₂ reader ∧
      s = {
        peer := Medium.peer w₂ stream
        closer := stream, reader, writer
        pump := { source }
        inbound := .start (Medium.peer w₂ stream) sink settings.chunkSize.toNat
        outbound := { sentinel := settings.sentinel }
        signal := { reporters := [some .inbound, some .outbound], isHeld := false }
        inboundReporter := 0, outboundReporter := 1
        log } := by
  unfold start at h
  split at h
  · cases h
  · next hvalid =>
    split at h
    · cases h
    · next reader w₁ hreader =>
      split at h
      · cases h
      · next writer w₂ hwriter =>
        cases h
        exact ⟨reader, writer, w₁, w₂, _, hvalid, hreader, hwriter, rfl, rfl⟩

/-! ## The pump -/

theorem of_readInput (h : s.readInput = some s') :
    ∃ pump, s.pump.read = some pump ∧ s' = { s with pump } := by
  obtain ⟨pump, hread, rfl⟩ := Option.map_eq_some_iff.1 h
  exact ⟨pump, hread, rfl⟩

theorem of_dropInput (h : s.dropInput = some s') :
    ∃ exit pump, s.outbound.exit? = some exit ∧ s.pump.giveUp = some pump ∧
      s' = { s with pump } := by
  unfold dropInput at h
  split at h
  · next exit hexit =>
    obtain ⟨pump, hgive, rfl⟩ := Option.map_eq_some_iff.1 h
    exact ⟨exit, pump, hexit, hgive, rfl⟩
  · cases h

/-! ## The inbound relay -/

theorem of_receive (h : s.receive w = some (s', w')) :
    ∃ receipt, s.inbound.phase = .receiving ∧
      Medium.receive w s.reader s.inbound.bufferSize = some (receipt, w') ∧
      s' = { s with inbound := s.inbound.receive receipt } := by
  unfold receive at h
  split at h
  · next hphase =>
    obtain ⟨⟨receipt, w₁⟩, hreceive, heq⟩ := Option.map_eq_some_iff.1 h
    cases heq
    exact ⟨receipt, hphase, hreceive, rfl⟩
  · cases h

theorem of_handle (h : s.handle w = some (s', w')) :
    ∃ receipt log, s.inbound.phase = .handling receipt ∧
      s' = { s with inbound := (s.inbound.handle s.signal.tripped).1, log } ∧
      (s'.inbound.phase = .receiving ∧ w' = Medium.listen w s.reader ∨
        s'.inbound.phase ≠ .receiving ∧ w' = w) := by
  unfold handle at h
  split at h
  · next receipt hphase =>
    rw [setInbound_eq] at h
    cases h
    refine ⟨receipt, _, hphase, rfl, ?_⟩
    dsimp only
    split
    · next hnext => exact .inl ⟨hnext, rfl⟩
    · next hnext => exact .inr ⟨hnext, rfl⟩
  · cases h

theorem of_reportInbound (h : s.reportInbound w = some (s', w')) :
    ∃ exit, s.inbound.phase = .leaving exit ∧ w' = Medium.drop w s.reader ∧
      s' = { s with
        inbound := { s.inbound with phase := .gone exit }
        signal := s.signal.report s.inboundReporter exit } := by
  unfold reportInbound at h
  split at h
  · next exit hphase =>
    cases h
    exact ⟨exit, hphase, rfl, rfl⟩
  · cases h

/-! ## The outbound relay -/

theorem of_takeInput (h : s.takeInput = some s') :
    ∃ event pump log, s.outbound.phase = .waiting ∧ s.pump.take = some (event, pump) ∧
      s' = { s with pump, outbound := (s.outbound.take (event.getD .ended)).1, log } := by
  unfold takeInput at h
  split at h
  · next hphase =>
    obtain ⟨⟨event, pump⟩, htake, rfl⟩ := Option.map_eq_some_iff.1 h
    exact ⟨event, pump, _, hphase, htake, rfl⟩
  · cases h

theorem of_cancelInput (h : s.cancelInput = some s') :
    ∃ log, s.outbound.phase = .waiting ∧ s.signal.isCancelled = true ∧
      s' = { s with outbound := s.outbound.cancel.1, log } := by
  unfold cancelInput at h
  split at h
  · next hphase =>
    split at h
    · next hcancelled =>
      cases h
      exact ⟨_, hphase, hcancelled, rfl⟩
    · cases h
  · cases h

theorem of_checkSignal (h : s.checkSignal = some s') :
    ∃ line log, s.outbound.phase = .holding line ∧
      s' = { s with outbound := (s.outbound.check s.signal.tripped).1, log } := by
  unfold checkSignal at h
  split at h
  · next line hphase =>
    cases h
    exact ⟨line, _, hphase, rfl⟩
  · cases h

theorem of_send (h : s.send w = some (s', w')) :
    ∃ data result log, s.outbound.offer? = some data ∧
      Medium.send w s.writer data = some (result, w') ∧
      s' = { s with outbound := (s.outbound.answer result).1, log } := by
  unfold send at h
  obtain ⟨data, hoffer, h⟩ := Option.bind_eq_some_iff.1 h
  obtain ⟨⟨result, w₁⟩, hsend, heq⟩ := Option.map_eq_some_iff.1 h
  cases heq
  exact ⟨data, result, _, hoffer, hsend, rfl⟩

theorem of_judgeFault (h : s.judgeFault = some s') :
    ∃ fault log, s.outbound.phase = .failing fault ∧
      s' = { s with outbound := (s.outbound.judge s.signal.tripped).1, log } := by
  unfold judgeFault at h
  split at h
  · next fault hphase =>
    cases h
    exact ⟨fault, _, hphase, rfl⟩
  · cases h

theorem of_reportOutbound (h : s.reportOutbound w = some (s', w')) :
    ∃ exit, s.outbound.phase = .leaving exit ∧ w' = Medium.drop w s.writer ∧
      s' = { s with
        outbound := { s.outbound with phase := .gone exit }
        signal := s.signal.report s.outboundReporter exit } := by
  unfold reportOutbound at h
  split at h
  · next exit hphase =>
    cases h
    exact ⟨exit, hphase, rfl, rfl⟩
  · cases h

/-! ## The coordinator -/

theorem of_callClose (h : s.callClose = some s') :
    s.coordinator = .idle ∧ s' = { s with coordinator := .tripping .idle } := by
  unfold callClose at h
  split at h
  · next hidle =>
    cases h
    exact ⟨hidle, rfl⟩
  · cases h

theorem of_callWait (h : s.callWait = some s') :
    s.coordinator = .idle ∧ s' = { s with coordinator := .awaiting } := by
  unfold callWait at h
  split at h
  · next hidle =>
    cases h
    exact ⟨hidle, rfl⟩
  · cases h

theorem of_callDrop (h : s.callDrop = some s') :
    s.coordinator = .idle ∧ s' = { s with coordinator := .tripping .dropped } := by
  unfold callDrop at h
  split at h
  · next hidle =>
    cases h
    exact ⟨hidle, rfl⟩
  · cases h

theorem of_takeFirst (h : s.takeFirst = some s') :
    ∃ exit signal log, s.coordinator = .awaiting ∧ s.signal.waitFirst = some (exit, signal) ∧
      s' = { s with
        signal, log
        history := (s.history.enter .shuttingDown).1
        coordinator := .tripping (.joining exit) } := by
  unfold takeFirst at h
  split at h
  · next hawaiting =>
    obtain ⟨⟨exit, signal⟩, hfirst, rfl⟩ := Option.map_eq_some_iff.1 h
    exact ⟨exit, signal, _, hawaiting, hfirst, rfl⟩
  · cases h

theorem of_trip (h : s.trip = some s') :
    ∃ after, s.coordinator = .tripping after ∧
      s' = { s with signal := s.signal.trip.2, coordinator := .releasing after } := by
  unfold trip at h
  split at h
  · next after hafter =>
    cases h
    exact ⟨after, hafter, rfl⟩
  · cases h

/-- The medium as the coordinator has shut it down, in this step or in an earlier one. -/
def shutDown (s : Session) (w : κ) : κ :=
  if s.isReleased then w else (Medium.shutdown w s.closer).2

theorem shut_eq (s : Session) (w : κ) :
    ∃ log, s.shut w = ({ s with isReleased := true, log }, s.shutDown w) := by
  unfold shut shutDown
  cases hreleased : s.isReleased with
  | true =>
    refine ⟨s.log, ?_⟩
    simp only [if_true, ← hreleased]
  | false => exact ⟨_, rfl⟩

theorem discard_eq (s : Session) (w : κ) :
    ∃ log, s.discard w =
      ({ s with signal := s.signal.trip.2.dropController, isReleased := true, log },
        Medium.drop (s.shutDown w) s.closer) := by
  obtain ⟨log, hshut⟩ := { s with signal := s.signal.trip.2 }.shut_eq w
  refine ⟨log, ?_⟩
  rw [discard, hshut]
  rfl

theorem of_release (h : s.release w = some (s', w')) :
    ∃ after log, s.coordinator = .releasing after ∧
      (after ≠ .dropped ∧ w' = s.shutDown w ∧
        s' = { s with isReleased := true, coordinator := after.coordinator, log } ∨
      after = .dropped ∧ w' = Medium.drop (s.shutDown w) s.closer ∧
        s' = { s with
          isReleased := true
          coordinator := .dropped
          signal := s.signal.dropController
          log }) := by
  unfold release at h
  split at h
  · next after hafter =>
    obtain ⟨log, hshut⟩ := s.shut_eq w
    simp only [hshut] at h
    refine ⟨after, log, hafter, ?_⟩
    cases after with
    | idle | joining =>
      cases h
      exact .inl ⟨by simp, rfl, rfl⟩
    | dropped =>
      cases h
      exact .inr ⟨rfl, rfl, rfl⟩
  · cases h

theorem of_join (h : s.join w = some (s', w')) :
    ∃ initiator inbound outbound log, s.coordinator = .joining initiator ∧
      s.inbound.phase = .gone inbound ∧ s.outbound.phase = .gone outbound ∧
      w' = Medium.drop (s.shutDown w) s.closer ∧
      s' = { s with
        history := (s.history.enter .closed).1
        coordinator := .finished {
          peer := s.peer, initiator, inbound, outbound
          stages := (s.history.enter .closed).1.visited }
        signal := s.signal.trip.2.dropController
        isReleased := true
        log } := by
  unfold join at h
  split at h
  · next initiator inbound outbound hjoining hin hout =>
    have hdiscard := Option.some.inj h
    obtain ⟨log, heq⟩ := discard_eq _ w
    cases heq.symm.trans hdiscard
    exact ⟨initiator, inbound, outbound, log, hjoining, hin, hout, rfl, rfl⟩
  · cases h

/-! ## Who takes a step -/

/-- The parties of a session: the pump and the outbound relay, the inbound relay, the coordinator.
-/
inductive Party where
  | sender
  | receiver
  | coordinator
  deriving DecidableEq

/-- The party that an action is of. -/
def Action.party : Action → Party
  | readInput | dropInput | takeInput | cancelInput | checkSignal | send | judgeFault
  | reportOutbound => .sender
  | receive | handle | reportInbound => .receiver
  | takeFirst | trip | release | join => .coordinator

omit [Medium κ] in
/-- A step that does not touch the medium. -/
theorem of_map {next : Option Session} (h : next.map (·, w) = some (s', w')) :
    next = some s' ∧ w' = w := by
  obtain ⟨s₁, hs₁, heq⟩ := Option.map_eq_some_iff.1 h
  cases heq
  exact ⟨hs₁, rfl⟩

/-- A step of one party leaves the others as they are. -/
theorem step_frame {action : Action} (h : s.step w action = some (s', w')) :
    (action.party ≠ .sender → s'.pump = s.pump ∧ s'.outbound = s.outbound) ∧
    (action.party ≠ .receiver → s'.inbound = s.inbound) ∧
    (action.party ≠ .coordinator → s'.coordinator = s.coordinator ∧
      s'.isReleased = s.isReleased ∧ s'.signal.tripped = s.signal.tripped) := by
  cases action with
  | readInput =>
    obtain ⟨pump, -, rfl⟩ := of_readInput (of_map h).1
    exact ⟨fun h => absurd rfl h, fun _ => rfl, fun _ => ⟨rfl, rfl, rfl⟩⟩
  | dropInput =>
    obtain ⟨exit, pump, -, -, rfl⟩ := of_dropInput (of_map h).1
    exact ⟨fun h => absurd rfl h, fun _ => rfl, fun _ => ⟨rfl, rfl, rfl⟩⟩
  | receive =>
    obtain ⟨receipt, -, -, rfl⟩ := of_receive h
    exact ⟨fun _ => ⟨rfl, rfl⟩, fun h => absurd rfl h, fun _ => ⟨rfl, rfl, rfl⟩⟩
  | handle =>
    obtain ⟨receipt, log, -, rfl, -⟩ := of_handle h
    exact ⟨fun _ => ⟨rfl, rfl⟩, fun h => absurd rfl h, fun _ => ⟨rfl, rfl, rfl⟩⟩
  | reportInbound =>
    obtain ⟨exit, -, -, rfl⟩ := of_reportInbound h
    exact ⟨fun _ => ⟨rfl, rfl⟩, fun h => absurd rfl h, fun _ => ⟨rfl, rfl, rfl⟩⟩
  | takeInput =>
    obtain ⟨event, pump, log, -, -, rfl⟩ := of_takeInput (of_map h).1
    exact ⟨fun h => absurd rfl h, fun _ => rfl, fun _ => ⟨rfl, rfl, rfl⟩⟩
  | cancelInput =>
    obtain ⟨log, -, -, rfl⟩ := of_cancelInput (of_map h).1
    exact ⟨fun h => absurd rfl h, fun _ => rfl, fun _ => ⟨rfl, rfl, rfl⟩⟩
  | checkSignal =>
    obtain ⟨line, log, -, rfl⟩ := of_checkSignal (of_map h).1
    exact ⟨fun h => absurd rfl h, fun _ => rfl, fun _ => ⟨rfl, rfl, rfl⟩⟩
  | send =>
    obtain ⟨data, result, log, -, -, rfl⟩ := of_send h
    exact ⟨fun h => absurd rfl h, fun _ => rfl, fun _ => ⟨rfl, rfl, rfl⟩⟩
  | judgeFault =>
    obtain ⟨fault, log, -, rfl⟩ := of_judgeFault (of_map h).1
    exact ⟨fun h => absurd rfl h, fun _ => rfl, fun _ => ⟨rfl, rfl, rfl⟩⟩
  | reportOutbound =>
    obtain ⟨exit, -, -, rfl⟩ := of_reportOutbound h
    exact ⟨fun h => absurd rfl h, fun _ => rfl, fun _ => ⟨rfl, rfl, rfl⟩⟩
  | takeFirst =>
    obtain ⟨exit, signal, log, -, -, rfl⟩ := of_takeFirst (of_map h).1
    exact ⟨fun _ => ⟨rfl, rfl⟩, fun _ => rfl, fun h => absurd rfl h⟩
  | trip =>
    obtain ⟨after, -, rfl⟩ := of_trip (of_map h).1
    exact ⟨fun _ => ⟨rfl, rfl⟩, fun _ => rfl, fun h => absurd rfl h⟩
  | release =>
    obtain ⟨after, log, -, ⟨-, -, rfl⟩ | ⟨-, -, rfl⟩⟩ := of_release h
    · exact ⟨fun _ => ⟨rfl, rfl⟩, fun _ => rfl, fun h => absurd rfl h⟩
    · exact ⟨fun _ => ⟨rfl, rfl⟩, fun _ => rfl, fun h => absurd rfl h⟩
  | join =>
    obtain ⟨initiator, inbound, outbound, log, -, -, -, -, rfl⟩ := of_join h
    exact ⟨fun _ => ⟨rfl, rfl⟩, fun _ => rfl, fun h => absurd rfl h⟩

theorem bufferSize_step {action : Action} (h : s.step w action = some (s', w')) :
    s'.inbound.bufferSize = s.inbound.bufferSize := by
  by_cases hparty : action.party = .receiver
  · cases action with
    | receive =>
      obtain ⟨receipt, -, -, rfl⟩ := of_receive h
      rfl
    | handle =>
      obtain ⟨receipt, log, -, rfl, -⟩ := of_handle h
      exact Inbound.handle_bufferSize _ _
    | reportInbound =>
      obtain ⟨exit, -, -, rfl⟩ := of_reportInbound h
      rfl
    | readInput | dropInput | takeInput | cancelInput | checkSignal | send | judgeFault
    | reportOutbound | takeFirst | trip | release | join => cases hparty
  · rw [(step_frame h).2.1 hparty]

end Session

end TextRelay
