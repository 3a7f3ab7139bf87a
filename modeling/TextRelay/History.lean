import TextRelay.Log
import TextRelay.RelayError

/-!
# Histories

The current stage of a listener or a session together with every stage it has passed through. A
history only grows along the legal edges; an illegal step is refused and changes nothing.
-/

namespace TextRelay

/-- The current stage and all stages visited, the first one first. -/
structure History where
  current : Stage
  visited : List Stage
  deriving DecidableEq, Repr

namespace History

def start (initial : Stage) : History := ⟨initial, [initial]⟩

def advance (h : History) (next : Stage) : Except RelayError History :=
  if h.current.canAdvance next then .ok ⟨next, h.visited ++ [next]⟩
  else .error (.wrongStage h.current)

def advanceEvent (h : History) (next : Stage) : Log.Event :=
  ⟨.debug, "session state", [("from", h.current.describe), ("to", next.describe)]⟩

/-- Advances if that is legal, and else stays; either is logged. -/
def enter (h : History) (next : Stage) : History × List Log.Event :=
  match h.advance next with
  | .ok h' => (h', [h.advanceEvent next])
  | .error e =>
    (h, [⟨.debug, "ignoring state transition", [("error", e.message), ("to", next.describe)]⟩])

end History

end TextRelay
