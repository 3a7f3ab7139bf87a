import TextRelay.Host.LocalListener
import TextRelay.Host.PortListener

/-!
# Listeners of either kind

A listener on a network address or on a local socket.
-/

namespace TextRelay

/-- A listener of either kind. -/
inductive AnyListener where
  | port (l : PortListener)
  | path (l : LocalListener)
  deriving DecidableEq, Repr

namespace AnyListener

def bind (w : Host) : AnyListener → Except Fault Unit × AnyListener × Host
  | .port l => let (result, l, w) := l.bind w; (result, .port l, w)
  | .path l => let (result, l, w) := l.bind w; (result, .path l, w)

def accept (w : Host) : AnyListener → Option (Except Fault Nat × AnyListener × Host)
  | .port l => (l.accept w).map fun (result, l, w) => (result, .port l, w)
  | .path l => (l.accept w).map fun (result, l, w) => (result, .path l, w)

def close (w : Host) : AnyListener → AnyListener × Host
  | .port l => let (l, w) := l.close w; (.port l, w)
  | .path l => let (l, w) := l.close w; (.path l, w)

def describe (w : Host) : AnyListener → String
  | .port l => l.describe w
  | .path l => l.describe

instance : Listener AnyListener Host where
  bind l w := l.bind w
  accept l w := l.accept w
  close l w := l.close w
  describe l w := l.describe w

end AnyListener

end TextRelay
