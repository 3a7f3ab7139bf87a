import TextRelay.Text.Utf8

/-!
# Control characters

Text from outside may hold control characters, and with them the sequences that make a terminal
change its colours, move its cursor or set its title. Where the text is quoted in a complaint, they
are taken out of it (`Control.strip`, `Control.stripPrinted`). Where it is logged, the characters
that a terminal would obey are spelled out (`Control.spell`).

A sequence begins with the escape character, which also cuts off a sequence that was not over. The
characters up to its end are not shown, except for a line break or tab inside a short sequence. In a
text that is looked at as a whole, such a break ends the sequence. In one that is on its way to a
terminal it only interrupts it: the characters behind it are shown, and at the next control
character the sequence goes on.
-/

namespace TextRelay.Control

inductive State where
  | ground
  | escape
  /-- In a short sequence, which ends with a letter, a digit or a like sign. -/
  | short
  /-- In a control sequence, which ends with a letter or a like sign. -/
  | sequence
  /-- In a title, which ends with a bell. -/
  | title
  | command
  /-- Among the numbers that a command for the device begins with. -/
  | numbers
  /-- Among the signs that stand before the letter of a command for the device. -/
  | signs
  /-- In a string for the device, which ends with a terminator byte. -/
  | device
  deriving DecidableEq, Repr

def isBreak (c : Char) : Bool :=
  c == '\t' || c == '\n' || c == '\x0c' || c == '\r'

def isShown (c : Char) : Bool := isBreak c || (' ' ≤ c && c ≠ '\x7f')

/-- Whether one of the bytes of a character is the one that ends a string for the device. -/
def hasTerminator (c : Char) : Bool := (Utf8.encode c.toString).contains 0x9C

def afterEscape (c : Char) : State :=
  if c == '[' then .sequence
  else if c == ']' then .title
  else if c == 'P' then .command
  else if c == 'X' || c == '^' || c == '_' then .device
  else if ' ' ≤ c ∧ c ≤ '/' then .short
  else if '0' ≤ c ∧ c ≤ '~' then .ground
  else .escape

/-- A character in the head of a command for the device. The string begins behind the first
character from `least` to `~`. -/
def inHead (s : State) (least c : Char) : State :=
  if least ≤ c ∧ c ≤ '~' then .device
  else if ' ' ≤ c ∧ c ≤ '/' then .signs
  else if '0' ≤ c ∧ c ≤ '?' then .numbers
  else s

def within (s : State) (least c : Char) : State × Bool :=
  if least ≤ c ∧ c ≤ '~' then (.ground, false) else (s, isBreak c)

/-- One character: where the next one stands, unless a break changes that, and whether this one is
shown. -/
def step (s : State) (c : Char) : State × Bool :=
  if c == '\x1b' then (.escape, false)
  else if c == '\x18' || c == '\x1a' then (.ground, false)
  else match s with
    | .ground => (.ground, isShown c)
    | .escape => (afterEscape c, isBreak c)
    | .short => within .short '0' c
    | .sequence => within .sequence '@' c
    | .title => (if c == '\x07' then .ground else .title, false)
    | .command => (inHead .command '@' c, false)
    | .numbers => (inHead .numbers '<' c, false)
    | .signs => (inHead .signs '0' c, false)
    | .device => (if hasTerminator c then .ground else .device, false)

def stripFrom : State → List Char → List Char
  | _, [] => []
  | s, c :: cs =>
    match step s c with
    | (_, true) => c :: stripFrom .ground cs
    | (s, false) => stripFrom s cs

def strip (text : String) : String := String.ofList (stripFrom .ground text.toList)

/-- One character of a printed text. While characters are shown, the state is the one of the
sequence that they interrupt; a character outside of ASCII makes an end of it. -/
def stepPrinted (isShowing : Bool) (s : State) (c : Char) : State × Bool :=
  if isShowing && isShown c then (if c.toNat < 128 then s else .ground, true) else step s c

def stripPrintedFrom : Bool → State → List Char → List Char
  | _, _, [] => []
  | isShowing, s, c :: cs =>
    match stepPrinted isShowing s c with
    | (s, true) => c :: stripPrintedFrom true s cs
    | (s, false) => stripPrintedFrom false s cs

def stripPrinted (text : String) : String :=
  String.ofList (stripPrintedFrom false .ground text.toList)

def hexadecimal (n : Nat) : String :=
  String.ofList (if n < 16 then '0' :: Nat.toDigits 16 n else Nat.toDigits 16 n)

/-- A character as the log shows it: those that a terminal would obey are spelled out by number. -/
def spellChar (c : Char) : String :=
  if c == '\x1b' || c == '\x07' || c == '\x08' || c == '\x0c' || c == '\x7f' then
    "\\x" ++ hexadecimal c.toNat
  else if 0x80 ≤ c.toNat ∧ c.toNat ≤ 0x9F then "\\u\x7b" ++ hexadecimal c.toNat ++ "\x7d"
  else c.toString

def spell (text : String) : String := String.join (text.toList.map spellChar)

end TextRelay.Control
