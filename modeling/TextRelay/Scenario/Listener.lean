import TextRelay.Faulty
import TextRelay.Listener
import TextRelay.Pipe

/-!
# A listener with known answers

A listener whose calls are answered as written down, on a medium that consists of one pipe. The
first peer to be accepted is at the far end of that pipe. Past the end of a list, calls succeed.
-/

namespace TextRelay.Scenario

/-- A listener with known answers. -/
structure ScriptedListener where
  name : String
  binds : List (Option Fault) := []
  accepts : List (Option Fault) := []
  closes : Nat := 0
  hasAccepted : Bool := false
  deriving DecidableEq, Repr

namespace ScriptedListener

/-- The next answer of a list, if it is a fault, and the rest. -/
def next (answers : List (Option Fault)) : Option Fault × List (Option Fault) :=
  (answers.head?.join, answers.tail)

instance : Listener ScriptedListener (Faulty Pipe) where
  bind l w :=
    let (fault, binds) := next l.binds
    let l := { l with binds }
    match fault with
    | some fault => (.error fault, l, w)
    | none => (.ok (), l, w)
  accept l w :=
    let (fault, accepts) := next l.accepts
    let l := { l with accepts }
    some <| match fault with
      | some fault => (.error fault, l, w)
      | none => (.ok 0, { l with hasAccepted := true }, w)
  close l w := ({ l with closes := l.closes + 1 }, w)
  describe l _ := l.name

end ScriptedListener

end TextRelay.Scenario
