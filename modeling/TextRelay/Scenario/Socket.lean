import TextRelay.Client
import TextRelay.Host.AnyListener

/-!
# Scenarios for sockets

A list of steps on the listeners, connections and files of one host. Listeners and connections are
numbered in order of creation, each on their own.
-/

namespace TextRelay.Scenario

inductive SocketStep where
  | newPort (address : String)
  /-- A listener on the address that another one is bound to. -/
  | newPortLike (l : Nat)
  | newLocal (path : String)
  | bind (l : Nat)
  | close (l : Nat)
  | dropListener (l : Nat)
  | describe (l : Nat)
  | connect (l : Nat)
  | connectPort (address : String)
  | connectLocal (path : String)
  | accept (l : Nat)
  | clone (c : Nat)
  | client (path : String)
  | send (c : Nat) (data : Bytes)
  | sendAll (c : Nat) (data : Bytes)
  | receive (c size : Nat)
  | shutdown (c : Nat)
  | peer (c : Nat)
  | setBuffer (c n : Nat)
  | drop (c : Nat)
  | putText (path text : String)
  | makeDirectory (path : String)
  | leaveStale (path : String)
  | textAt (path : String)
  | exists (path : String)
  deriving DecidableEq, Repr

inductive SocketReply where
  | done
  | listener (l : Nat)
  | connection (c : Nat)
  | failed (fault : Fault)
  | refused (e : RelayError)
  | port (description : String) (address : Except Fault String)
  | path (description path : String)
  | sent (n : Nat)
  | received (data : Bytes)
  | named (peer : String)
  | text (text : String)
  | node (node : Option Node)
  | gone
  | blocked

/-- A host, with the listeners and connections made on it; those that were given up are kept as
gaps. -/
structure SocketState where
  host : Host
  listeners : List (Option AnyListener) := []
  connections : List (Option Nat) := []

namespace SocketState

def addListener (st : SocketState) (l : AnyListener) : SocketReply × SocketState :=
  (.listener st.listeners.length, { st with listeners := st.listeners ++ [some l] })

/-- Adds the connection that a call on the host returned, if it did. -/
def addConnection (st : SocketState) : Except Fault Nat × Host → SocketReply × SocketState
  | (.error fault, host) => (.failed fault, { st with host })
  | (.ok h, host) => (.connection st.connections.length,
      { st with host, connections := st.connections ++ [some h] })

def onListener (st : SocketState) (l : Nat)
    (f : AnyListener → SocketReply × SocketState) : SocketReply × SocketState :=
  match (st.listeners[l]?).join with
  | some listener => f listener
  | none => (.gone, st)

def onConnection (st : SocketState) (c : Nat)
    (f : Nat → SocketReply × SocketState) : SocketReply × SocketState :=
  match (st.connections[c]?).join with
  | some h => f h
  | none => (.gone, st)

def outcome (st : SocketState) : Except Fault Unit × Host → SocketReply × SocketState
  | (.ok (), host) => (.done, { st with host })
  | (.error fault, host) => (.failed fault, { st with host })

def filed (st : SocketState) : Except Fault Files → SocketReply × SocketState
  | .ok files => (.done, { st with host := { st.host with files } })
  | .error fault => (.failed fault, st)

def perform (st : SocketState) : SocketStep → SocketReply × SocketState
  | .newPort address => st.addListener (.port { address })
  | .newPortLike l => st.onListener l fun
    | .port other => st.addListener (.port { address := other.describe st.host })
    | .path other => st.addListener (.path { path := other.path })
  | .newLocal path => st.addListener (.path { path })
  | .bind l => st.onListener l fun listener =>
    let (result, listener, host) := listener.bind st.host
    { st with listeners := st.listeners.set l (some listener) }.outcome (result, host)
  | .close l => st.onListener l fun listener =>
    let (listener, host) := listener.close st.host
    (.done, { st with host, listeners := st.listeners.set l (some listener) })
  | .dropListener l => match (st.listeners[l]?).join with
    | some listener =>
      let (_, host) := listener.close st.host
      (.done, { st with host, listeners := st.listeners.set l none })
    | none => (.done, st)
  | .describe l => st.onListener l fun
    | .port listener =>
      (.port (listener.describe st.host) (listener.localAddress st.host), st)
    | .path listener => (.path listener.describe listener.path, st)
  | .connect l => st.onListener l fun
    | .port listener => st.addConnection (st.host.dialPort (listener.describe st.host))
    | .path listener => st.addConnection (st.host.dialLocal listener.path)
  | .connectPort address => st.addConnection (st.host.dialPort address)
  | .connectLocal path => st.addConnection (st.host.dialLocal path)
  | .accept l => st.onListener l fun listener => match listener.accept st.host with
    | some (result, _, host) => st.addConnection (result, host)
    | none => (.blocked, st)
  | .clone c => st.onConnection c fun h => st.addConnection (st.host.clone h)
  | .client path =>
    match Client.dialLocal path st.host with
    | (.ok client, host) => (.named (client.peer host), { st with host := client.drop host })
    | (.error e, host) => (.refused e, { st with host })
  | .send c data => st.onConnection c fun h => match st.host.send h data with
    | some (.ok n, host) => (.sent n, { st with host })
    | some (.error fault, host) => (.failed fault, { st with host })
    | none => (.blocked, st)
  | .sendAll c data => st.onConnection c fun h =>
    match Medium.sendAll h (data.length + 1) st.host { data } with
    | .ended result host => st.outcome (result, host)
    | .blocked _ host => (.blocked, { st with host })
  | .receive c size => st.onConnection c fun h => match st.host.receive h size with
    | some (.ok data, host) => (.received data, { st with host })
    | some (.error fault, host) => (.failed fault, { st with host })
    | none => (.blocked, st)
  | .shutdown c => st.onConnection c fun h => st.outcome (st.host.shutdown h)
  | .peer c => st.onConnection c fun h => (.named (st.host.peer h), st)
  | .setBuffer c _ => st.onConnection c fun _ => (.done, st)
  | .drop c => match (st.connections[c]?).join with
    | some h =>
      (.done, { st with host := st.host.drop h, connections := st.connections.set c none })
    | none => (.done, st)
  | .putText path text => st.filed (st.host.files.write path text)
  | .makeDirectory path => st.filed (st.host.files.makeDirectory path)
  | .leaveStale path => st.outcome (st.host.leaveStale path)
  | .textAt path => match st.host.files.read path with
    | .ok text => (.text text, st)
    | .error fault => (.failed fault, st)
  | .exists path => (.node (st.host.files.follow path).toOption, st)

def performAll (st : SocketState) : List SocketStep → List SocketReply
  | [] => []
  | step :: rest =>
    let (reply, st) := st.perform step
    reply :: performAll st rest

end SocketState

end TextRelay.Scenario
