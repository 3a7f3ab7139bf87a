import TextRelay.Session.Basic

/-!
# Running sessions

One order of steps among the many: the pumps and relays of all sessions go as far as they can before
any coordinator moves. Where the outcome does not depend on the order, this is the outcome.
-/

namespace TextRelay

/-- The things that can happen in a session, its owner's calls apart. -/
inductive Session.Action where
  | readInput
  | dropInput
  | receive
  | handle
  | reportInbound
  | takeInput
  | cancelInput
  | checkSignal
  | send
  | judgeFault
  | reportOutbound
  | takeFirst
  | trip
  | release
  | join
  deriving DecidableEq, Repr

namespace Session

variable {κ : Type} [Medium κ]

def step (s : Session) (w : κ) : Action → Option (Session × κ)
  | .readInput => s.readInput.map (·, w)
  | .dropInput => s.dropInput.map (·, w)
  | .receive => s.receive w
  | .handle => s.handle w
  | .reportInbound => s.reportInbound w
  | .takeInput => s.takeInput.map (·, w)
  | .cancelInput => s.cancelInput.map (·, w)
  | .checkSignal => s.checkSignal.map (·, w)
  | .send => s.send w
  | .judgeFault => s.judgeFault.map (·, w)
  | .reportOutbound => s.reportOutbound w
  | .takeFirst => s.takeFirst.map (·, w)
  | .trip => s.trip.map (·, w)
  | .release => s.release w
  | .join => s.join w

/-- What pumps and relays do, in the order in which it is tried. -/
def relayActions : List Action :=
  [.dropInput, .handle, .reportInbound, .checkSignal, .judgeFault, .reportOutbound, .receive, .send,
    .cancelInput, .takeInput, .readInput]

def coordinatorActions : List Action := [.takeFirst, .trip, .release, .join]

def stepAny (s : Session) (w : κ) (actions : List Action) : Option (Session × κ) :=
  actions.findSome? fun action => s.step w action

/-- The first thing that is enabled in a session, with what comes of it. -/
def next? (s : Session) (w : κ) : Option (Action × Session × κ) :=
  (relayActions ++ coordinatorActions).findSome? fun action => (s.step w action).map (action, ·)

def advance (actions : List Action) : List Session → κ → Option (List Session × κ)
  | [], _ => none
  | s :: rest, w =>
    match s.stepAny w actions with
    | some (s, w) => some (s :: rest, w)
    | none => (advance actions rest w).map fun (rest, w) => (s :: rest, w)

def settleFor : Nat → List Session → κ → List Session × κ
  | 0, ss, w => (ss, w)
  | fuel + 1, ss, w =>
    match advance relayActions ss w with
    | some (ss, w) => settleFor fuel ss w
    | none => (ss, w)

def runFor : Nat → List Session → κ → List Session × κ
  | 0, ss, w => (ss, w)
  | fuel + 1, ss, w =>
    match (advance relayActions ss w).or (advance coordinatorActions ss w) with
    | some (ss, w) => runFor fuel ss w
    | none => (ss, w)

/-- How much a source has to say: its bytes, and some for each line. Of one that never runs out, a
run takes no more than it takes of others. -/
def inputWeight : Source → Nat
  | .queue readings _ =>
    let bytes : Reading → Bytes
      | .event (.line text) => Line.encode text
      | _ => []
    (readings.flatMap bytes).length + 4 * readings.length
  | .reader r => 4 * (r.buffer.length + LineReader.weight r.arrivals)
  | .endless .. => 0

def weight (s : Session) : Nat :=
  let held := match s.pump.phase with
    | .offering (.line text) => (Line.encode text).length
    | _ => 0
  let sending := match s.outbound.phase with
    | .holding line => (Line.encode line).length
    | .sending _ d => d.remaining.length
    | _ => 0
  inputWeight s.pump.source + held + sending

/-- More steps than some sessions can do before they wait for somebody else: every byte is sent once
and received once at most, and each relay and coordinator comes to its end. -/
def stepBound (ss : List Session) (w : κ) : Nat :=
  4 * ss.foldl (· + weight ·) (Medium.inTransit w) + 32 * ss.length

/-- Lets the pumps and relays of some sessions go on until all of them wait or are done. -/
def settle (ss : List Session) (w : κ) : List Session × κ := settleFor (stepBound ss w) ss w

/-- Lets some sessions run, coordinators included, until all of them wait or are done. -/
def run (ss : List Session) (w : κ) : List Session × κ := runFor (stepBound ss w) ss w

end Session

end TextRelay
