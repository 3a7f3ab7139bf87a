import TextRelay.Text.Utf8

/-!
# Lines

A line is what the user types, without its ending. It travels as its bytes and nothing else: no
ending, no length, no frame.
-/

namespace TextRelay.Line

/-- The bytes put on the wire for a line. -/
def encode (line : String) : Bytes :=
  Utf8.encode line

def dropLast? (c : Char) (cs : List Char) : List Char :=
  if cs.getLast? = some c then cs.dropLast else cs

/-- Strips the ending that a line source leaves behind: a line feed, then a carriage return. The two
are looked for one after the other, so a carriage return goes also where no line feed follows it. -/
def trimEnding (line : String) : String :=
  String.ofList (dropLast? '\r' (dropLast? '\n' line.toList))

def isSentinel (line sentinel : String) : Bool :=
  line == sentinel

def labelled (label text : String) : String :=
  s!"{label}: {text}"

end TextRelay.Line
