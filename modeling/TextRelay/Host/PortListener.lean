import TextRelay.Host.Basic
import TextRelay.Listener

/-!
# Listeners on network ports

A listener on a network address. While it is bound it describes itself by the address that it got,
and else by the one it was asked for.
-/

namespace TextRelay

structure PortListener where
  address : String
  /-- The socket, while the listener is bound. -/
  socket : Option Nat := none
  deriving DecidableEq, Repr

namespace PortListener

/-- Binds the listener. If it was bound before, its old socket is closed. -/
def bind (l : PortListener) (w : Host) : Except Fault Unit × PortListener × Host :=
  match w.openPort l.address with
  | (.error fault, w) => (.error fault, l, w)
  | (.ok id, w) =>
    let w := match l.socket with
      | some old => w.closeSocket old
      | none => w
    (.ok (), { l with socket := some id }, w)

def localAddress (l : PortListener) (w : Host) : Except Fault String :=
  match l.socket with
  | none => .error notBound
  | some id => match w.addressOf? id with
    | some address => .ok address.text
    | none => .error notBound

def accept (l : PortListener) (w : Host) : Option (Except Fault Nat × PortListener × Host) :=
  match l.socket with
  | none => some (.error notBound, l, w)
  | some id => (w.acceptFrom id l.address).map fun (result, w) => (result, l, w)

def close (l : PortListener) (w : Host) : PortListener × Host :=
  match l.socket with
  | none => (l, w)
  | some id => ({ l with socket := none }, w.closeSocket id)

def describe (l : PortListener) (w : Host) : String :=
  match l.localAddress w with
  | .ok text => text
  | .error _ => l.address

instance : Listener PortListener Host where
  bind := bind
  accept := accept
  close := close
  describe := describe

end PortListener

end TextRelay
