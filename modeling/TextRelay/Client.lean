import TextRelay.Host.Basic
import TextRelay.Session.Basic

/-!
# Clients

The dialing side of a relay: it dials once, and starts a session on the stream it gets.
-/

namespace TextRelay

/-- A client that has reached its peer. -/
structure Client where
  stream : Nat
  deriving DecidableEq, Repr

namespace Client

/-- A client of a connection, or the error of failing to reach an address. -/
def ofDial (address : String) : Except Fault Nat × Host → Except RelayError Client × Host
  | (.ok stream, w) => (.ok ⟨stream⟩, w)
  | (.error fault, w) => (.error (.connect address fault), w)

def dialPort (endpoint : Endpoint) (w : Host) : Except RelayError Client × Host :=
  ofDial endpoint.address (w.dialPort endpoint.address)

def dialLocal (path : String) (w : Host) : Except RelayError Client × Host :=
  ofDial (Host.localName path) (w.dialLocal path)

def peer (c : Client) (w : Host) : String := w.peer c.stream

def start (c : Client) (settings : Settings) (source : Source) (sink : Sink) (w : Host) :
    Except RelayError Session × Host :=
  Session.start settings source sink c.stream w

def drop (c : Client) (w : Host) : Host := w.drop c.stream

end Client

end TextRelay
