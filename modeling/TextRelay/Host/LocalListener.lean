import TextRelay.Host.Basic
import TextRelay.Listener

/-!
# Listeners on local sockets

A local listener owns the name that it is bound to: a socket that was left behind there is replaced,
any other file is kept, and closing the listener removes the name again.
-/

namespace TextRelay

structure LocalListener where
  path : String
  /-- The socket, while the listener is bound. -/
  socket : Option Nat := none
  deriving DecidableEq, Repr

namespace LocalListener

/-- Removes a socket that was left behind at a path. Nothing else may stand there. -/
def clear (path : String) (w : Host) : Except Fault Host :=
  match w.files.lookup path with
  | .ok (.socket _) => (w.files.remove path).map fun files => { w with files }
  | .ok _ => .error ⟨.alreadyExists, s!"{path} exists and is not a socket"⟩
  | .error fault => if fault.kind = .notFound then .ok w else .error fault

/-- Binds the listener. If it was bound before, its old socket is closed. -/
def bind (l : LocalListener) (w : Host) : Except Fault Unit × LocalListener × Host :=
  match clear l.path w with
  | .error fault => (.error fault, l, w)
  | .ok w => match w.openLocal l.path with
    | (.error fault, w) => (.error fault, l, w)
    | (.ok id, w) =>
      let w := match l.socket with
        | some old => w.closeSocket old
        | none => w
      (.ok (), { l with socket := some id }, w)

def accept (l : LocalListener) (w : Host) : Option (Except Fault Nat × LocalListener × Host) :=
  match l.socket with
  | none => some (.error notBound, l, w)
  | some id => (w.acceptFrom id (Host.localName l.path)).map fun (result, w) => (result, l, w)

/-- Closes the listener if it is bound, and removes the file at its path. -/
def close (l : LocalListener) (w : Host) : LocalListener × Host :=
  match l.socket with
  | none => (l, w)
  | some id =>
    let w := w.closeSocket id
    let w := match w.files.remove l.path with
      | .ok files => { w with files }
      | .error _ => w
    ({ l with socket := none }, w)

def describe (l : LocalListener) : String := Host.localName l.path

instance : Listener LocalListener Host where
  bind := bind
  accept := accept
  close := close
  describe l _ := l.describe

end LocalListener

end TextRelay
