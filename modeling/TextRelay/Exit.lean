import TextRelay.Fault
import TextRelay.Log

/-!
# Exits

Each direction of a session is carried by a relay, and each relay leaves one exit behind: its
direction, why it stopped, and how many bytes it moved.
-/

namespace TextRelay

inductive Direction where
  | inbound
  | outbound
  deriving DecidableEq, Repr, Inhabited

def Direction.describe : Direction → String
  | inbound => "inbound"
  | outbound => "outbound"

/-- Whether a failed stream is the normal way for a connection to go away. -/
inductive Closure where
  | expected
  | unexpected
  deriving DecidableEq, Repr, Inhabited

/-- Once shutdown was asked for, every fault is the forced close doing its work. Before that, the
ordinary ways in which a peer disappears are expected and all else is not. -/
def Closure.classify (kind : FaultKind) (shuttingDown : Bool) : Closure :=
  if shuttingDown then expected
  else match kind with
    | .connectionReset | .connectionAborted | .brokenPipe | .notConnected | .unexpectedEnd =>
      expected
    | _ => unexpected

inductive Cause where
  /-- The peer ended its stream. -/
  | peerClosed
  | localSentinel
  | inputClosed
  /-- The coordinator was shutting down already. -/
  | cancelled
  | transport (kind : FaultKind) (closure : Closure)
  | inputFailed (text : String)
  | panicked
  deriving DecidableEq, Repr, Inhabited

namespace Cause

def isLocal : Cause → Bool
  | localSentinel | inputClosed => true
  | _ => false

/-- Whether the end is worth a warning. -/
def isUnexpected : Cause → Bool
  | transport _ .unexpected | inputFailed _ | panicked => true
  | _ => false

def describe : Cause → String
  | peerClosed => "peer closed the connection"
  | localSentinel => "local sentinel"
  | inputClosed => "local input closed"
  | cancelled => "cancelled by coordinator"
  | transport kind .expected => s!"connection closed ({kind.describe})"
  | transport kind .unexpected => s!"transport error ({kind.describe})"
  | inputFailed text => s!"input error: {text}"
  | panicked => "relay panicked"

end Cause

structure Exit where
  direction : Direction
  cause : Cause
  bytes : Nat
  deriving DecidableEq, Repr, Inhabited

/-- The exit of a relay that broke down: whatever it had moved is not counted. -/
def Exit.panicked (direction : Direction) : Exit :=
  ⟨direction, .panicked, 0⟩

def Exit.finishedEvent (e : Exit) : Log.Event :=
  ⟨.debug, "relay finished",
    [("direction", e.direction.describe), ("bytes", toString e.bytes), ("cause", e.cause.describe)]⟩

end TextRelay
