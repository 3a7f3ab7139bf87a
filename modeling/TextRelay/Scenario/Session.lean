import TextRelay.Faulty
import TextRelay.Pipe
import TextRelay.Session.Schedule

/-!
# Scenarios for a session

One session on end `a` of a pipe, whose handles may be told to fail, against a peer at end `b` that
does as the steps say. After each step the relays go on until they wait. When the steps are over,
the session is waited for.
-/

namespace TextRelay.Scenario

inductive SessionStep where
  | peerSend (data : Bytes)
  /-- A line is typed, and the peer reads as many bytes. -/
  | type (line : String)
  /-- A line is typed that the stream does not take. -/
  | typeBlocked (line : String)
  | typeFault (line : String) (fault : Fault)
  | peerRead (n : Nat)
  | inputEnds
  | inputFails (fault : Fault)
  | inputBreaks
  /-- The peer closes, and the relay's receive at the end of the stream fails. -/
  | receiveFault (fault : Fault)
  | peerClose
  | close
  | drop
  deriving DecidableEq, Repr

inductive SessionReply where
  | done
  | sent (accepted : Bool) (units : List String)
  | got (pieces : List Bytes)
  | closed (stage : Stage) (shutdowns : Nat) (peerClosed : Bool)
  | dropped (shutdowns : Nat) (peerClosed : Bool)
  deriving DecidableEq, Repr

structure SessionPlan where
  settings : Settings := {}
  sink : Sink := {}
  source : Source := .queue [] true
  capacity : Option Nat := none
  writeLimit : Option Nat := none
  /-- What the peer sends before the session starts. -/
  early : List Bytes := []
  closedEarly : Bool := false
  cloneFault : Option (Nat × Fault) := none
  shutdownFault : Option Fault := none
  peerBuffer : Nat := 64

structure SessionState where
  session : Session
  stream : Faulty Pipe
  peerBuffer : Nat

structure SessionResult where
  stage : Stage
  peer : String
  replies : List SessionReply
  report : Option Report
  /-- Whether the steps themselves closed the session. -/
  wasClosed : Bool
  sink : Sink
  shutdowns : Nat
  clones : Nat
  peerClosed : Bool
  /-- What the peer can still read. -/
  rest : List Bytes

namespace SessionState

def peerHandle : Nat := 1

def onPipe (st : SessionState) (f : Pipe → Pipe) : SessionState :=
  { st with stream := { st.stream with base := f st.stream.base } }

def settle (st : SessionState) : SessionState :=
  match Session.settle [st.session] st.stream with
  | (session :: _, stream) => { st with session, stream }
  | ([], stream) => { st with stream }

def run (st : SessionState) : SessionState :=
  match Session.run [st.session] st.stream with
  | (session :: _, stream) => { st with session, stream }
  | ([], stream) => { st with stream }

def onSource (st : SessionState) (f : Source → Source) : SessionState :=
  let s := st.session
  { st with session := { s with pump := { s.pump with source := f s.pump.source } } }.settle

def feed (st : SessionState) (reading : Reading) : SessionState := st.onSource (·.push reading)

def feedLine (st : SessionState) (line : String) : SessionState := st.feed (.event (.line line))

/-- The peer fills its buffer until it has so many bytes or more, or up to the end of the stream.
Each read waits for the relays. At most so many reads are made. -/
def peerReadFor : Nat → Nat → SessionState → List Bytes × SessionState
  | 0, _, st => ([], st)
  | fuel + 1, wanted, st =>
    if wanted = 0 then ([], st)
    else
      let st := (st.onPipe (·.listen peerHandle)).settle
      match st.stream.base.receive peerHandle st.peerBuffer with
      | some (.ok (b :: bs), p) =>
        let piece := b :: bs
        let (pieces, st) := peerReadFor fuel (wanted - piece.length) (st.onPipe fun _ => p).settle
        (piece :: pieces, st)
      | some (_, p) => ([], st.onPipe fun _ => p)
      | none => ([], st)

def peerRead (n : Nat) (st : SessionState) : List Bytes × SessionState := peerReadFor n n st

/-- The peer sends what is left of a delivery, as the relays make room for it. At most so many
rounds are made. -/
def peerSendFor : Nat → Delivery → SessionState → Bool × SessionState
  | 0, _, st => (false, st)
  | fuel + 1, d, st =>
    match Medium.sendAll peerHandle (d.data.length + 1) st.stream.base d with
    | .ended (.ok ()) p => (true, (st.onPipe fun _ => p).settle)
    | .ended (.error _) p => (false, (st.onPipe fun _ => p).settle)
    | .blocked left p => peerSendFor fuel left (st.onPipe fun _ => p).settle

def perform (st : SessionState) : SessionStep → SessionReply × SessionState
  | .peerSend data =>
    let (accepted, st) := peerSendFor (data.length + 1) { data } st
    (.sent accepted st.session.inbound.sink.units, st)
  | .type line =>
    let (pieces, st) := (st.feedLine line).peerRead (Line.encode line).length
    (.got pieces, st)
  | .typeBlocked line => (.done, st.feedLine line)
  | .typeFault line fault =>
    (.done, { st with stream := { st.stream with sendFault := some fault } }.feedLine line)
  | .peerRead n =>
    let (pieces, st) := st.peerRead n
    (.got pieces, st)
  | .inputEnds => (.done, st.onSource Source.close)
  | .inputFails fault => (.done, st.feed (.event (.failed fault)))
  | .inputBreaks => (.done, st.feed .broke)
  | .receiveFault fault =>
    let st := { st with stream := { st.stream with endFault := some fault } }
    (.done, (st.onPipe Pipe.close).settle)
  | .peerClose => (.done, (st.onPipe Pipe.close).settle)
  | .close =>
    let st := { st with session := st.session.callClose.getD st.session }.run
    (.closed st.session.stage st.stream.shutdowns st.stream.base.isClosed, st)
  | .drop =>
    let st := { st with session := st.session.callDrop.getD st.session }.run
    (.dropped st.stream.shutdowns st.stream.base.isClosed, st)

def performAll (st : SessionState) : List SessionStep → List SessionReply × SessionState
  | [] => ([], st)
  | step :: rest =>
    let (reply, st) := st.perform step
    let (replies, st) := performAll st rest
    (reply :: replies, st)

end SessionState

def SessionPlan.stream (plan : SessionPlan) : Faulty Pipe :=
  let p : Pipe := { capacity := plan.capacity }
  let p := match plan.writeLimit with
    | some most => p.limit 0 most
    | none => p
  let p := plan.early.foldl (fun p data =>
    match Medium.sendAll SessionState.peerHandle (data.length + 1) p { data } with
    | .ended _ p => p
    | .blocked _ p => p) p
  { base := if plan.closedEarly then p.close else p
    cloneFault := plan.cloneFault
    shutdownFault := plan.shutdownFault }

/-- Starts a session, performs the steps, and waits for the session unless it was given up. A
session that does not start is answered by its error, and by whether the pipe is closed. -/
def SessionPlan.runScenario (plan : SessionPlan) (steps : List SessionStep) :
    Except (RelayError × Bool) SessionResult :=
  match Session.start plan.settings plan.source plan.sink 0 plan.stream with
  | (.error e, stream) => .error (e, stream.base.isClosed)
  | (.ok session, stream) =>
    let st : SessionState := { session, stream, peerBuffer := plan.peerBuffer }
    let (replies, st) := st.settle.performAll steps
    let st := { st with session := st.session.callWait.getD st.session }.run
    let (rest, p) := Medium.drain SessionState.peerHandle plan.peerBuffer
      (st.stream.base.inTransit + 1) st.stream.base
    .ok {
      stage := session.stage
      peer := session.peer
      replies
      report := st.session.report?
      wasClosed := steps.contains .close
      sink := st.session.inbound.sink
      shutdowns := st.stream.shutdowns
      clones := st.stream.clones
      peerClosed := p.isClosed
      rest }

end TextRelay.Scenario
