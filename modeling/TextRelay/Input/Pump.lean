import TextRelay.Input.Source

/-!
# Pumps

A source blocks whoever reads it. The pump reads it on behalf of the outbound relay and hands each
answer over; it never reads ahead by more than the one answer it holds. After the end of the input
or a fault it is finished, and so it is when the source breaks down or nobody listens any more.
-/

namespace TextRelay

inductive Pump.Phase where
  | reading
  /-- Holding an answer until it is taken. -/
  | offering (e : InputEvent)
  | finished
  deriving DecidableEq, Repr

structure Pump where
  source : Source
  phase : Pump.Phase := .reading

namespace Pump

def read (p : Pump) : Option Pump :=
  match p.phase with
  | .reading => p.source.read.map fun
      | (.event e, s) => ⟨s, .offering e⟩
      | (.broke, s) => ⟨s, .finished⟩
  | _ => none

/-- Hands over what the pump holds; a finished pump hands over nothing more. No answer means that
the pump has nothing to hand over yet. -/
def take (p : Pump) : Option (Option InputEvent × Pump) :=
  match p.phase with
  | .reading => none
  | .offering (.line text) => some (some (.line text), { p with phase := .reading })
  | .offering e => some (some e, { p with phase := .finished })
  | .finished => some (none, p)

def giveUp (p : Pump) : Option Pump :=
  match p.phase with
  | .offering _ => some { p with phase := .finished }
  | _ => none

/-- What a listener receives in at most so many turns; the last item is `none` if the pump hands
over nothing more. -/
def receives : Nat → Pump → List (Option InputEvent)
  | 0, _ => []
  | n + 1, p => match (p.read.getD p).take with
    | some (some e, p') => some e :: receives n p'
    | some (none, _) => [none]
    | none => []

end Pump

end TextRelay
