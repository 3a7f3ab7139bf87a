import TextRelay.History
import TextRelay.Inbound
import TextRelay.Input.Pump
import TextRelay.Medium
import TextRelay.Outbound
import TextRelay.Session.Report
import TextRelay.Settings
import TextRelay.Signal

/-!
# Sessions

A session runs two relays over one stream, with a pump in front of the outbound one, and a
coordinator that ends them together: the first relay that ends makes the coordinator trip the signal
and shut the stream down, which brings the other relay back from wherever it waits.

The four run side by side. A session is therefore a state with one function for each thing that one
of them can do next; such a function has no result while its step is not enabled. Every order of
enabled steps is a run of the session.
-/

namespace TextRelay

/-- What the coordinator goes on with after a close. -/
inductive Session.After where
  | idle
  | joining (initiator : Exit)
  | dropped
  deriving DecidableEq, Repr

inductive Session.Coordinator where
  | idle
  | tripping (after : Session.After)
  | releasing (after : Session.After)
  | awaiting
  | joining (initiator : Exit)
  | finished (report : Report)
  | dropped
  deriving DecidableEq, Repr

structure Session where
  peer : String
  /-- The handle that the coordinator closes the stream with. -/
  closer : Nat
  reader : Nat
  writer : Nat
  pump : Pump
  inbound : Inbound
  outbound : Outbound
  signal : Signal
  inboundReporter : Nat
  outboundReporter : Nat
  history : History := .start .connected
  /-- Whether the stream was shut down by this session. -/
  isReleased : Bool := false
  coordinator : Session.Coordinator := .idle
  log : List Log.Event := []

namespace Session

variable {κ : Type} [Medium κ]

/-! ## Starting -/

/-- Starts a session on a stream. The settings are checked first, then the stream is cloned for
either relay. If any of this fails, the stream's handles are given up. -/
def start (settings : Settings) (source : Source) (sink : Sink) (stream : Nat) (w : κ) :
    Except RelayError Session × κ :=
  match settings.validate with
  | .error e => (.error e, Medium.drop w stream)
  | .ok () =>
    match Medium.clone w stream with
    | (.error fault, w) => (.error (.transport fault), Medium.drop w stream)
    | (.ok reader, w) =>
      match Medium.clone w stream with
      | (.error fault, w) =>
        (.error (.transport fault), Medium.drop (Medium.drop w reader) stream)
      | (.ok writer, w) =>
        let peer := Medium.peer w stream
        let (inboundReporter, signal) := ({} : Signal).reporter .inbound
        let (outboundReporter, signal) := signal.reporter .outbound
        (.ok {
          peer, closer := stream, reader, writer
          pump := { source }
          inbound := .start peer sink settings.chunkSize.toNat
          outbound := { sentinel := settings.sentinel }
          signal := signal.release
          inboundReporter, outboundReporter
          log := [⟨.info, "relays started", [("peer", peer)]⟩] }, Medium.listen w reader)

def stage (s : Session) : Stage := s.history.current

def logging (s : Session) (events : List Log.Event) : Session :=
  { s with log := s.log ++ events }

def setInbound (s : Session) : Inbound × List Log.Event → Session
  | (inbound, events) => { s with inbound }.logging events

def setOutbound (s : Session) : Outbound × List Log.Event → Session
  | (outbound, events) => { s with outbound }.logging events

/-! ## The pump -/

def readInput (s : Session) : Option Session :=
  s.pump.read.map fun pump => { s with pump }

/-- The outbound relay is gone, and the pump stops. -/
def dropInput (s : Session) : Option Session :=
  match s.outbound.exit? with
  | some _ => s.pump.giveUp.map fun pump => { s with pump }
  | none => none

/-! ## The inbound relay -/

def receive (s : Session) (w : κ) : Option (Session × κ) :=
  match s.inbound.phase with
  | .receiving => (Medium.receive w s.reader s.inbound.bufferSize).map fun (receipt, w) =>
      ({ s with inbound := s.inbound.receive receipt }, w)
  | _ => none

def handle (s : Session) (w : κ) : Option (Session × κ) :=
  match s.inbound.phase with
  | .handling _ =>
    let s := s.setInbound (s.inbound.handle s.signal.tripped)
    -- Announced here and not by the next receive call: a stream without a buffer of its own takes
    -- bytes only for a handle that waits already.
    some (s, match s.inbound.phase with
      | .receiving => Medium.listen w s.reader
      | _ => w)
  | _ => none

def reportInbound (s : Session) (w : κ) : Option (Session × κ) :=
  match s.inbound.phase with
  | .leaving exit => some ({ s with
      inbound := { s.inbound with phase := .gone exit }
      signal := s.signal.report s.inboundReporter exit }, Medium.drop w s.reader)
  | _ => none

/-! ## The outbound relay -/

/-- The outbound relay takes what the pump holds; a pump that is finished counts as the end of the
input. -/
def takeInput (s : Session) : Option Session :=
  match s.outbound.phase with
  | .waiting => s.pump.take.map fun (event, pump) =>
      { s with pump }.setOutbound (s.outbound.take (event.getD .ended))
  | _ => none

/-- The outbound relay sees the cancellation while it waits. -/
def cancelInput (s : Session) : Option Session :=
  match s.outbound.phase with
  | .waiting => if s.signal.isCancelled then some (s.setOutbound s.outbound.cancel) else none
  | _ => none

def checkSignal (s : Session) : Option Session :=
  match s.outbound.phase with
  | .holding _ => some (s.setOutbound (s.outbound.check s.signal.tripped))
  | _ => none

def send (s : Session) (w : κ) : Option (Session × κ) :=
  s.outbound.offer?.bind fun data =>
    (Medium.send w s.writer data).map fun (result, w) =>
      (s.setOutbound (s.outbound.answer result), w)

/-- The outbound relay reads the signal after a send failed. -/
def judgeFault (s : Session) : Option Session :=
  match s.outbound.phase with
  | .failing _ => some (s.setOutbound (s.outbound.judge s.signal.tripped))
  | _ => none

def reportOutbound (s : Session) (w : κ) : Option (Session × κ) :=
  match s.outbound.phase with
  | .leaving exit => some ({ s with
      outbound := { s.outbound with phase := .gone exit }
      signal := s.signal.report s.outboundReporter exit }, Medium.drop w s.writer)
  | _ => none

/-! ## The coordinator -/

def callClose (s : Session) : Option Session :=
  match s.coordinator with
  | .idle => some { s with coordinator := .tripping .idle }
  | _ => none

def callWait (s : Session) : Option Session :=
  match s.coordinator with
  | .idle => some { s with coordinator := .awaiting }
  | _ => none

def callDrop (s : Session) : Option Session :=
  match s.coordinator with
  | .idle => some { s with coordinator := .tripping .dropped }
  | _ => none

def takeFirst (s : Session) : Option Session :=
  match s.coordinator with
  | .awaiting => s.signal.waitFirst.map fun (exit, signal) =>
      let (history, events) := s.history.enter .shuttingDown
      let received : Log.Event := ⟨.debug, "termination signal received",
        [("direction", exit.direction.describe), ("cause", exit.cause.describe)]⟩
      { s with signal, history, coordinator := .tripping (.joining exit) }.logging
        (events ++ [received])
  | _ => none

def trip (s : Session) : Option Session :=
  match s.coordinator with
  | .tripping after => some { s with signal := s.signal.trip.2, coordinator := .releasing after }
  | _ => none

def After.coordinator : After → Coordinator
  | idle => .idle
  | joining initiator => .joining initiator
  | dropped => .dropped

/-- Shuts the stream down, unless that was done before. -/
def shut (s : Session) (w : κ) : Session × κ :=
  if s.isReleased then (s, w)
  else
    let (result, w) := Medium.shutdown w s.closer
    let events : List Log.Event := match result with
      | .ok () => []
      | .error fault => [⟨.debug, "stream handle close reported an error",
          [("peer", s.peer), ("error", fault.text)]⟩]
    ({ s with isReleased := true }.logging events, w)

def dropHandles (s : Session) (w : κ) : Session × κ :=
  ({ s with signal := s.signal.dropController }, Medium.drop w s.closer)

def release (s : Session) (w : κ) : Option (Session × κ) :=
  match s.coordinator with
  | .releasing after =>
    let (s, w) := s.shut w
    let s := { s with coordinator := after.coordinator }
    match after with
    | .dropped => some (s.dropHandles w)
    | _ => some (s, w)
  | _ => none

/-- A session whose relays are gone is given up, which closes it once more. Nobody is left who could
see the halves of that close apart. -/
def discard (s : Session) (w : κ) : Session × κ :=
  let (s, w) := { s with signal := s.signal.trip.2 }.shut w
  s.dropHandles w

def join (s : Session) (w : κ) : Option (Session × κ) :=
  match s.coordinator, s.inbound.phase, s.outbound.phase with
  | .joining initiator, .gone inbound, .gone outbound =>
    let (history, events) := s.history.enter .closed
    let report : Report :=
      { peer := s.peer, initiator, inbound, outbound, stages := history.visited }
    let closed : Log.Event := ⟨.info, "session closed",
      [("peer", s.peer), ("received", toString inbound.bytes), ("sent", toString outbound.bytes)]⟩
    some (({ s with history, coordinator := .finished report }.logging
      (events ++ [closed])).discard w)
  | _, _, _ => none

/-- The report of a session that was waited for to its end. -/
def report? (s : Session) : Option Report :=
  match s.coordinator with
  | .finished report => some report
  | _ => none

end Session

end TextRelay
