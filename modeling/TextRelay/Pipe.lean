import TextRelay.Medium

/-!
# Pipes

A pipe joins two ends inside one process. Each direction is a queue of chunks: one chunk for every
send, never merged with its neighbours, and cut only where the receiver's buffer is too small; what
did not fit stays with the handle that took the chunk.

A pipe may be unbounded, may hold a fixed number of chunks in each direction, or may hold none: then
a chunk passes straight to a handle that is waiting for it. Closing the pipe wakes everyone. Chunks
that were sent before can still be received, and nothing can be sent any more.
-/

namespace TextRelay

inductive Pipe.Side where
  | a
  | b
  deriving DecidableEq, Repr

def Pipe.Side.other : Pipe.Side → Pipe.Side
  | a => b
  | b => a

def Pipe.Side.name : Pipe.Side → String
  | a => "memory:a"
  | b => "memory:b"

structure Pipe.Handle where
  side : Pipe.Side
  /-- The most bytes that one send takes. -/
  limit : Option Nat := none
  /-- What is left of the chunk taken last. -/
  pending : Bytes := []
  listening : Bool := false
  isLive : Bool := true
  deriving DecidableEq, Repr

/-- A pipe and all handles that were ever made onto it, by number. -/
structure Pipe where
  /-- How many chunks a direction holds, if that is limited. -/
  capacity : Option Nat := none
  handles : List Pipe.Handle := [{ side := .a }, { side := .b }]
  toA : List Bytes := []
  toB : List Bytes := []
  isClosed : Bool := false
  deriving DecidableEq, Repr

namespace Pipe

/-- The fault of sending into a pipe that is closed or has nobody at its far end. -/
def broken : Fault := ⟨.brokenPipe, "memory transport closed"⟩

def lane (p : Pipe) : Side → List Bytes
  | .a => p.toA
  | .b => p.toB

def setLane (p : Pipe) (chunks : List Bytes) : Side → Pipe
  | .a => { p with toA := chunks }
  | .b => { p with toB := chunks }

def setHandle (p : Pipe) (h : Nat) (handle : Handle) : Pipe :=
  { p with handles := p.handles.set h handle }

def isHeld (p : Pipe) (side : Side) : Bool :=
  p.handles.any fun handle => handle.isLive && handle.side = side

/-- The first handle of an end that waits for a chunk, having none. -/
def listener? (p : Pipe) (side : Side) : Option Nat :=
  p.handles.findIdx? fun handle =>
    handle.isLive && handle.listening && handle.side = side && handle.pending.isEmpty

/-- Puts a chunk on its way to an end, if there is room for it. -/
def push (p : Pipe) (side : Side) (chunk : Bytes) : Option Pipe :=
  match p.capacity with
  | none => some (p.setLane (p.lane side ++ [chunk]) side)
  | some 0 =>
    -- Without room a chunk passes straight to a handle that waits for it.
    match p.listener? side with
    | none => none
    | some h => match p.handles[h]? with
      | none => none
      | some handle => some (p.setHandle h { handle with pending := chunk, listening := false })
  | some room =>
    if (p.lane side).length < room then some (p.setLane (p.lane side ++ [chunk]) side) else none

/-- Offers bytes to the pipe. One chunk is made of as many of them as the handle's limit allows. -/
def send (p : Pipe) (h : Nat) (data : Bytes) : Option (Except Fault Nat × Pipe) :=
  match p.handles[h]? with
  | none => some (.error broken, p)
  | some handle =>
    if p.isClosed then some (.error broken, p)
    else if data.isEmpty then some (.ok 0, p)
    else if !p.isHeld handle.side.other then some (.error broken, p)
    else
      let chunk := match handle.limit with
        | some limit => data.take limit
        | none => data
      (p.push handle.side.other chunk).map fun p => (.ok chunk.length, p)

/-- Hands out as much of a chunk as fits the buffer, and keeps the rest. -/
def deliver (p : Pipe) (h : Nat) (handle : Handle) (chunk : Bytes) (size : Nat) :
    Except Fault Bytes × Pipe :=
  (.ok (chunk.take size),
    p.setHandle h { handle with pending := chunk.drop size, listening := false })

def receive (p : Pipe) (h size : Nat) : Option (Except Fault Bytes × Pipe) :=
  match p.handles[h]? with
  | none => some (.ok [], p)
  | some handle =>
    if size = 0 then some (.ok [], p.setHandle h { handle with listening := false })
    else if !handle.pending.isEmpty then some (p.deliver h handle handle.pending size)
    else match p.lane handle.side with
      | chunk :: rest => some ((p.setLane rest handle.side).deliver h handle chunk size)
      | [] =>
        if p.isClosed || !p.isHeld handle.side.other then
          some (.ok [], p.setHandle h { handle with listening := false })
        else none

def listen (p : Pipe) (h : Nat) : Pipe :=
  match p.handles[h]? with
  | none => p
  | some handle => p.setHandle h { handle with listening := true }

/-- Makes another handle onto the same end, with the same limit. What is left of a chunk stays with
the handle that took it. -/
def clone (p : Pipe) (h : Nat) : Nat × Pipe :=
  match p.handles[h]? with
  | none => (h, p)
  | some handle =>
    (p.handles.length,
      { p with handles := p.handles ++ [{ side := handle.side, limit := handle.limit }] })

def close (p : Pipe) : Pipe := { p with isClosed := true }

/-- Gives up a handle. With the last one of an end, the chunks on their way there are lost. -/
def drop (p : Pipe) (h : Nat) : Pipe :=
  match p.handles[h]? with
  | none => p
  | some handle =>
    let p := p.setHandle h { handle with isLive := false, pending := [], listening := false }
    if p.isHeld handle.side then p else p.setLane [] handle.side

def limit (p : Pipe) (h most : Nat) : Pipe :=
  match p.handles[h]? with
  | none => p
  | some handle => p.setHandle h { handle with limit := some (max most 1) }

def peer (p : Pipe) (h : Nat) : String :=
  match p.handles[h]? with
  | none => ""
  | some handle => handle.side.name

/-- How many bytes were sent and not yet received. -/
def inTransit (p : Pipe) : Nat :=
  (p.toA ++ p.toB ++ p.handles.map (·.pending)).flatten.length

instance : Medium Pipe where
  send := send
  listen := listen
  receive := receive
  clone p h := let (h', p) := p.clone h; (.ok h', p)
  shutdown p _ := (.ok (), p.close)
  drop := drop
  peer := peer
  inTransit := inTransit

end Pipe

end TextRelay
