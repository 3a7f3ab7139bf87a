import TextRelay.Host.Address
import TextRelay.Host.Files
import TextRelay.Medium

/-!
# Hosts

A machine with its files and sockets. A connection has two ends, and each end the bytes that it has
not read yet; bytes sent one after the other are not kept apart. An end may be held by several
handles and is closed with the last of them.

An end is shut down for both directions, and for both ends at once. Bytes that arrived before can
still be read. An end that is closed with bytes unread, or before it was accepted, resets the far
end: that is one fault at the far end, after its own bytes and before its end of stream.
-/

namespace TextRelay

structure Host.Stream where
  far : Nat
  /-- What has arrived and was not read yet. -/
  inbox : Bytes := []
  isShut : Bool := false
  /-- Whether a reset is still to be told. -/
  isReset : Bool := false
  deriving DecidableEq, Repr

structure Host.Handle where
  stream : Nat
  peer : String
  isLive : Bool := true
  deriving DecidableEq, Repr

structure Host.Socket where
  /-- The network address; a local socket has none. -/
  address : Option Address := none
  /-- The ends of connections that wait to be accepted. -/
  backlog : List Nat := []
  isOpen : Bool := true
  deriving DecidableEq, Repr

/-- The calls that the system may refuse for reasons of its own. -/
inductive Host.Call where
  | bind
  | accept
  deriving DecidableEq, Repr

structure Host where
  files : Files := {}
  streams : List Host.Stream := []
  handles : List Host.Handle := []
  sockets : List Host.Socket := []
  isOnline : Bool := false
  /-- What the system is going to refuse: the next call of a kind meets the first fault that is in
  store for it. -/
  refusals : List (Host.Call × Fault) := []
  deriving DecidableEq, Repr

namespace Host

def onStream (w : Host) (n : Nat) (f : Stream → Stream) : Host :=
  { w with streams := w.streams.modify n f }

def streamOf? (w : Host) (h : Nat) : Option (Nat × Stream) :=
  match w.handles[h]? with
  | some handle =>
    if handle.isLive then (w.streams[handle.stream]?).map (handle.stream, ·) else none
  | none => none

def badHandle : Fault := .ofErrno 9

/-! ## Connections -/

def send (w : Host) (h : Nat) (data : Bytes) : Option (Except Fault Nat × Host) :=
  match w.streamOf? h with
  | none => some (.error badHandle, w)
  | some (_, s) =>
    if s.isShut then some (.error (.ofErrno 32), w)
    else some (.ok data.length, w.onStream s.far fun far => { far with inbox := far.inbox ++ data })

/-- Receives what has arrived, then tells a reset, then the end of the stream. This order holds for
an empty buffer too: it waits until there is something to tell. -/
def receive (w : Host) (h size : Nat) : Option (Except Fault Bytes × Host) :=
  match w.streamOf? h with
  | none => some (.error badHandle, w)
  | some (n, s) =>
    if !s.inbox.isEmpty then
      some (.ok (s.inbox.take size), w.onStream n fun s => { s with inbox := s.inbox.drop size })
    else if s.isReset then
      some (.error (.ofErrno 104), w.onStream n fun s => { s with isReset := false })
    else if s.isShut then some (.ok [], w)
    else none

def clone (w : Host) (h : Nat) : Except Fault Nat × Host :=
  match w.handles[h]? with
  | none => (.error badHandle, w)
  | some handle => (.ok w.handles.length, { w with handles := w.handles ++ [handle] })

def shutdown (w : Host) (h : Nat) : Except Fault Unit × Host :=
  match w.streamOf? h with
  | none => (.error badHandle, w)
  | some (n, s) =>
    let shut (s : Stream) : Stream := { s with isShut := true }
    (.ok (), (w.onStream n shut).onStream s.far shut)

/-- Closes an end: the far end is shut down, and reset if bytes were left unread or the end was
never accepted. -/
def closeStream (w : Host) (n : Nat) (wasAccepted : Bool) : Host :=
  match w.streams[n]? with
  | none => w
  | some s =>
    let reset := !wasAccepted || !s.inbox.isEmpty
    (w.onStream s.far fun far =>
      { far with isShut := true, isReset := far.isReset || reset }).onStream n fun s =>
        { s with inbox := [], isShut := true, isReset := false }

/-- Gives up a handle; with the last one the end is closed. -/
def drop (w : Host) (h : Nat) : Host :=
  match w.streamOf? h with
  | none => w
  | some (n, _) =>
    let w := { w with handles := w.handles.modify h fun handle => { handle with isLive := false } }
    if w.handles.any fun handle => handle.isLive && handle.stream = n then w
    else w.closeStream n true

def peer (w : Host) (h : Nat) : String :=
  match w.handles[h]? with
  | some handle => handle.peer
  | none => ""

def inTransit (w : Host) : Nat := (w.streams.flatMap (·.inbox)).length

instance : Medium Host where
  send := send
  listen w _ := w
  receive := receive
  clone := clone
  shutdown := shutdown
  drop := drop
  peer := peer
  inTransit := inTransit

/-! ## Listening and dialing -/

/-- The fault that a call meets if the system refuses it. A refusal is used up. -/
def refusal? (w : Host) (call : Call) : Option (Fault × Host) :=
  (w.refusals.find? (·.1 = call)).map fun r => (r.2, { w with refusals := w.refusals.erase r })

def openSocket (w : Host) (address : Option Address) : Nat × Host :=
  (w.sockets.length, { w with sockets := w.sockets ++ [{ address }] })

/-- Closes a socket; connections that were not accepted are reset. -/
def closeSocket (w : Host) (id : Nat) : Host :=
  match w.sockets[id]? with
  | none => w
  | some socket =>
    let w := { w with
      sockets := w.sockets.set id { socket with isOpen := false, backlog := [] } }
    socket.backlog.foldl (fun w n => w.closeStream n false) w

def hold (w : Host) (stream : Nat) (peer : String) : Nat × Host :=
  (w.handles.length, { w with handles := w.handles ++ [{ stream, peer }] })

/-- Dials a socket that listens: its backlog gets the far end of a new connection. -/
def dial (w : Host) (id : Nat) (peer : String) : Except Fault Nat × Host :=
  match w.sockets[id]? with
  | none => (.error (.ofErrno 111), w)
  | some socket =>
    if socket.isOpen then
      let near := w.streams.length
      let ends : List Stream := [{ far := near + 1 }, { far := near }]
      let w := { w with
        streams := w.streams ++ ends
        sockets := w.sockets.set id { socket with backlog := socket.backlog ++ [near + 1] } }
      let (h, w) := w.hold near peer
      (.ok h, w)
    else (.error (.ofErrno 111), w)

def acceptFrom (w : Host) (id : Nat) (peer : String) : Option (Except Fault Nat × Host) :=
  match w.refusal? .accept with
  | some (fault, w) => some (.error fault, w)
  | none => match w.sockets[id]? with
    | none => none
    | some socket => match socket.backlog with
      | [] => none
      | stream :: rest =>
        let (h, w) :=
          { w with sockets := w.sockets.set id { socket with backlog := rest } }.hold stream peer
        some (.ok h, w)

def maxSocketPath : Nat := 108

def checkSocketPath (path : String) : Except Fault Unit :=
  if Files.hasNul path then
    .error ⟨.invalidInput, "paths must not contain interior null bytes"⟩
  else if maxSocketPath ≤ path.utf8ByteSize then
    .error ⟨.invalidInput, "path must be shorter than SUN_LEN"⟩
  else .ok ()

def localName (path : String) : String := s!"unix:{path}"

def dialLocal (w : Host) (path : String) : Except Fault Nat × Host :=
  match checkSocketPath path with
  | .error fault => (.error fault, w)
  | .ok () =>
    if path.isEmpty then (.error (.ofErrno 22), w)
    else match w.files.follow path with
      | .error fault => (.error fault, w)
      | .ok (.socket id) => w.dial id (localName path)
      | .ok _ => (.error (.ofErrno 111), w)

def dialPort (w : Host) (text : String) : Except Fault Nat × Host :=
  match Address.parse text with
  | .error fault => (.error fault, w)
  | .ok address =>
    if !w.isOnline then (.error address.unreachable, w)
    else match w.sockets.findIdx? fun s => s.isOpen && s.address.any address.clashes with
      | some id => w.dial id address.text
      | none => (.error (.ofErrno 111), w)

/-- Opens a local socket under a path that is not taken. The empty path gives it no name. -/
def openLocal (w : Host) (path : String) : Except Fault Nat × Host :=
  match checkSocketPath path with
  | .error fault => (.error fault, w)
  | .ok () => match w.refusal? .bind with
    | some (fault, w) => (.error fault, w)
    | none =>
      let (id, opened) := w.openSocket none
      if path.isEmpty then (.ok id, opened)
      else match w.files.vacant path 98 false with
        | .error fault => (.error fault, w)
        | .ok place => (.ok id, { opened with files := opened.files.put place (.socket id) })

/-- Leaves the name of a local socket behind that nobody listens on. -/
def leaveStale (w : Host) (path : String) : Except Fault Unit × Host :=
  match w.openLocal path with
  | (.error fault, w) => (.error fault, w)
  | (.ok id, w) => (.ok (), w.closeSocket id)

def firstFreePort : Nat := 32768

/-- Opens a network socket. Port 0 asks for any port that is free. -/
def openPort (w : Host) (text : String) : Except Fault Nat × Host :=
  match Address.parse text with
  | .error fault => (.error fault, w)
  | .ok address => match address.bindFault?, w.refusal? .bind with
    | some fault, _ => (.error fault, w)
    | none, some (fault, w) => (.error fault, w)
    | none, none =>
      let address := if address.port = 0 then
        { address with port := firstFreePort + w.sockets.length } else address
      if w.sockets.any fun s => s.isOpen && s.address.any address.clashes then
        (.error (.ofErrno 98), w)
      else
        let (id, w) := w.openSocket (some address)
        (.ok id, w)

def addressOf? (w : Host) (id : Nat) : Option Address :=
  (w.sockets[id]?).bind fun s => s.address

end Host

end TextRelay
