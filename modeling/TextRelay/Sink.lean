import TextRelay.Fault
import TextRelay.Text.Line

/-!
# Sinks

Where received text is shown. A sink may refuse a text, and it may break down over one; neither is
recorded. What it has shown can be read back as the units it was given, as one text, and as the
lines a console would print.
-/

namespace TextRelay

inductive Verdict where
  | shown
  | refused (fault : Fault)
  | broke
  deriving DecidableEq, Repr

structure Sink where
  label : String := ""
  /-- The texts that were offered, one for each call. -/
  offered : List String := []
  /-- Those of them that were shown. -/
  units : List String := []
  /-- What the sink makes of a text, given how many calls came before. -/
  verdict : Nat → String → Verdict := fun _ _ => .shown

namespace Sink

def display (s : Sink) (text : String) : Verdict × Sink :=
  let verdict := s.verdict s.offered.length text
  let s := { s with offered := s.offered ++ [text] }
  match verdict with
  | .shown => (.shown, { s with units := s.units ++ [text] })
  | v => (v, s)

def text (s : Sink) : String := String.join s.units

def lines (s : Sink) : List String := s.units.map (Line.labelled s.label)

def picky (label : String) (refuses breaksOn : List String) : Sink where
  label := label
  verdict _ text :=
    if breaksOn.contains text then .broke
    else if refuses.contains text then .refused ⟨.other, "sink refused"⟩
    else .shown

end Sink

/-- A text as the console prints it: stamped with the time, if there is a clock to read. -/
def Console.line (clock : Option String) (label text : String) : String :=
  let line := Line.labelled label text
  match clock with
  | some time => s!"[{time}] {line}"
  | none => line

def Console.print (clock : Option String) (label : String) (texts : List String) : String :=
  String.join (texts.map fun text => Console.line clock label text ++ "\n")

end TextRelay
