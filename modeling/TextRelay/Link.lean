import TextRelay.Listener
import TextRelay.Session.Schedule

/-!
# Links

The medium of a program that really runs: one connection, whose calls are made by the outermost
layer while the session goes on. A link keeps the answers until the relays take them, and a call
that is not answered yet blocks. What holds of sessions on every medium holds of the ones that run
on links.

Shutting a link down ends the calls that block: a receive is at the end of the stream, and a send
has failed, whatever the network answers later.
-/

namespace TextRelay

inductive Link.Call where
  | receive (size : Nat)
  | send (data : Bytes)
  | read
  deriving DecidableEq, Repr, Inhabited

inductive Link.Answer where
  | received (receipt : Except Fault Bytes)
  | sent (result : Except Fault Nat)
  | read (arrival : Arrival)
  deriving Inhabited

/-- A connection to the outside, with the answers that nobody has taken yet. -/
structure Link where
  peer : String := ""
  bound : Except Fault String := .error notBound
  accepted : Option (Except Fault Unit) := none
  received : Option (Except Fault Bytes) := none
  sent : Option (Except Fault Nat) := none
  isShut : Bool := false
  /-- The calls that are not answered yet. -/
  calls : List Link.Call := []

namespace Link

/-- A receive call returns what has arrived; what it has no room for stays. -/
def receive (w : Link) (size : Nat) : Option (Except Fault Bytes × Link) :=
  match w.received with
  | some (.ok data) =>
    let rest := data.drop size
    some (.ok (data.take size),
      { w with received := if rest.isEmpty then none else some (.ok rest) })
  | some (.error fault) => some (.error fault, { w with received := none })
  | none => if w.isShut then some (.ok [], w) else none

def send (w : Link) : Option (Except Fault Nat × Link) :=
  match w.sent with
  | some result => some (result, { w with sent := none })
  | none => if w.isShut then some (.error (.ofErrno 32), w) else none

instance : Medium Link where
  send w _ _ := w.send
  listen w _ := w
  receive w _ size := w.receive size
  clone w h := (.ok h, w)
  shutdown w _ := (.ok (), { w with isShut := true })
  drop w _ := w
  peer w _ := w.peer
  inTransit w := match w.received with
    | some (.ok data) => data.length
    | _ => 0

/-- The calls that a session waits for once it cannot go on. -/
def awaited (s : Session) : List Call :=
  let receive := match s.inbound.phase with
    | .receiving => [.receive s.inbound.bufferSize]
    | _ => []
  let send := s.outbound.offer?.toList.map .send
  let read := match s.pump.phase with
    | .reading => [.read]
    | _ => []
  receive ++ send ++ read

/-- The awaited calls that have to be made; from here on they are being made. -/
def issue (w : Link) (s : Session) : List Call × Link :=
  let calls := (awaited s).filter fun call => !w.calls.contains call
  (calls, { w with calls := w.calls ++ calls })

def resolve (w : Link) (s : Session) (call : Call) (answer : Answer) : Session × Link :=
  let w := { w with calls := w.calls.erase call }
  match answer with
  | .received receipt => (s, { w with received := some receipt })
  | .sent result => (s, { w with sent := some result })
  | .read arrival => ({ s with pump.source := s.pump.source.arrive arrival }, w)

end Link

/-- A listener whose socket is bound and accepts outside. -/
structure LinkListener where
  address : String
  deriving DecidableEq, Repr

instance : Listener LinkListener Link where
  bind l w := (w.bound.map fun _ => (), l, w)
  accept l w := w.accepted.map fun result => (result.map fun _ => 0, l, { w with accepted := none })
  close l w := (l, w)
  describe l w := match w.bound with
    | .ok address => address
    | .error _ => l.address

end TextRelay
