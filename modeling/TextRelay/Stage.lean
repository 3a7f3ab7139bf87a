/-!
# Stages

The life of a listener and of the one session it serves runs through five stages. Only the edges of
`Stage.canAdvance` are taken: a failure while binding or accepting jumps straight to the end.
-/

namespace TextRelay

/-- Where a listener or a session stands. -/
inductive Stage where
  | idle
  | listening
  | connected
  | shuttingDown
  | closed
  deriving DecidableEq, Repr, Inhabited

namespace Stage

/-- The number of a stage; it grows along every edge. -/
def code : Stage → Nat
  | idle => 0
  | listening => 1
  | connected => 2
  | shuttingDown => 3
  | closed => 4

def canAdvance : Stage → Stage → Bool
  | idle, listening => true
  | idle, closed => true
  | listening, connected => true
  | listening, closed => true
  | connected, shuttingDown => true
  | shuttingDown, closed => true
  | _, _ => false

def isTerminal (s : Stage) : Bool :=
  s == closed

def describe : Stage → String
  | idle => "idle"
  | listening => "listening"
  | connected => "connected"
  | shuttingDown => "shutting-down"
  | closed => "closed"

end Stage

end TextRelay
