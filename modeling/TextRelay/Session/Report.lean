import TextRelay.Exit
import TextRelay.Stage

/-!
# Reports

What is left of a session: the exit that began the shutdown, the exits of both relays, and the
stages the session passed through. From these follow the exit code and the one line that tells the
user how the session ended.
-/

namespace TextRelay

structure Report where
  peer : String
  /-- The exit that began the shutdown. -/
  initiator : Exit
  inbound : Exit
  outbound : Exit
  stages : List Stage
  deriving DecidableEq, Repr

namespace Report

/-- The last stage; a session that tells of none counts as closed. -/
def finalStage (r : Report) : Stage := r.stages.getLast?.getD .closed

def isClean (r : Report) : Bool :=
  r.inbound.cause != .panicked && r.outbound.cause != .panicked

def endedLocally (r : Report) : Bool := r.initiator.cause.isLocal

def exitCode (r : Report) : UInt8 := if r.isClean then 0 else 1

/-- The line that tells how the session ended: by the local user, by loss of the connection, or by
the peer. -/
def outcome (r : Report) : Log.Event :=
  let cause := r.initiator.cause
  if r.endedLocally then ⟨.info, "session ended locally", [("cause", cause.describe)]⟩
  else
    let fields := [("peer", r.peer), ("cause", cause.describe)]
    if cause.isUnexpected then ⟨.warn, "connection lost", fields⟩
    else ⟨.info, "peer disconnected", fields⟩

end Report

end TextRelay
