import TextRelay.Text.Property

/-!
# Patterns

A filter may ask for the value of a field by a pattern: a regular expression in the usual notation.
No event of this program is ever matched against one, but a filter with a pattern that is not well
formed is no filter, so this module decides which patterns are.

A pattern is read from left to right (`Pattern.readFrom`). What a piece of it may be depends on the
switches that are on: without tables of the characters' cases and classes, letters cannot be
compared regardless of case, nor can `\d`, `\s` and `\w` stand for more than ASCII. A pattern may
not match half a character either, which `.` and negated classes would, were they to stand for
single bytes. Repetition counts and named classes of characters do not occur, because a brace ends
the pattern.

Patterns nest, and only so deep (`Pattern.maxDepth`). The text is not made into a tree for that: of
each part that is complete, its depth is kept, and of each that is open, the depths of its parts.
-/

namespace TextRelay.Log.Pattern

/-- The switches that matter for a pattern being well formed. -/
structure Switches where
  unicode : Bool := true
  caseless : Bool := false
  extended : Bool := false
  deriving DecidableEq, Repr

inductive Sign where
  | literal (code : Nat)
  /-- A byte given by its number, which may be no character. -/
  | byte (code : Nat)
  /-- One of the classes `\d`, `\s` and `\w`, or what is not in it. -/
  | family (negated : Bool)
  /-- A place between two characters; whether it is the edge of a word. -/
  | place (ofWord : Bool)
  deriving DecidableEq, Repr

/-! ## Depth -/

def maxDepth : Nat := 250

/-- How deep a row of parts nests, given how deep these do. A single part is no row. -/
def rowDepth : List Nat → Nat
  | [] => 0
  | [depth] => depth
  | depths => depths.foldr max 0 + 1

/-! ## Blanks -/

/-- Leaves out blanks and comments; `inComment` says whether a comment has begun. -/
def skipFrom (inComment : Bool) : List Char → List Char
  | [] => []
  | c :: cs =>
    if inComment then skipFrom (c ≠ '\n') cs
    else if Property.isBlank c then skipFrom false cs
    else if c == '#' then skipFrom true cs
    else c :: cs

def skip (s : Switches) (cs : List Char) : List Char :=
  if s.extended then skipFrom false cs else cs

/-! ## Signs -/

def digit? (c : Char) : Option Nat :=
  if c.isDigit then some (c.toNat - '0'.toNat)
  else if 'a' ≤ c ∧ c ≤ 'f' then some (c.toNat - 'a'.toNat + 10)
  else if 'A' ≤ c ∧ c ≤ 'F' then some (c.toNat - 'A'.toNat + 10)
  else none

/-- Reads so many hexadecimal digits, leaving out what does not count before each. -/
def readHex (s : Switches) : Nat → Nat → List Char → Option (Nat × List Char)
  | 0, value, cs => some (value, cs)
  | n + 1, value, cs => match skip s cs with
    | [] => none
    | c :: cs => (digit? c).bind fun d => readHex s n (value * 16 + d) cs

def readCode (s : Switches) (digits : Nat) (cs : List Char) : Option (Sign × List Char) :=
  (readHex s digits 0 cs).bind fun (code, rest) =>
    if code.isValidChar then some (.literal code, rest) else none

def readEscape (s : Switches) : List Char → Option (Sign × List Char)
  | [] => none
  | c :: cs =>
    if c == 'x' then (readHex s 2 0 cs).map fun (code, rest) => (.byte code, rest)
    else if c == 'u' then readCode s 4 cs
    else if c == 'U' then readCode s 8 cs
    else if "dsw".toList.contains c then some (.family false, cs)
    else if "DSW".toList.contains c then some (.family true, cs)
    else if "bB<>".toList.contains c then some (.place true, cs)
    else if "Az".toList.contains c then some (.place false, cs)
    else if "aftnrv".toList.contains c then some (.literal c.toNat, cs)
    else if c.toNat < 128 && !c.isAlphanum then some (.literal c.toNat, cs)
    else none

/-- Whether letters would have to be compared regardless of case beyond ASCII. -/
def Switches.foldsCase (s : Switches) : Bool := s.caseless && s.unicode

namespace Sign

def isAllowed (s : Switches) : Sign → Bool
  | literal _ => !s.foldsCase
  | byte code => !s.foldsCase && (s.unicode || code < 128)
  | family negated => !s.unicode && !negated
  | place ofWord => !(ofWord && s.unicode)

def isAllowedInClass (s : Switches) : Sign → Bool
  | literal code | byte code => !s.foldsCase && (s.unicode || code < 128)
  | family negated => !s.unicode && !negated
  | place _ => false

def code? : Sign → Option Nat
  | literal code | byte code => some code
  | _ => none

end Sign

/-! ## Classes of characters -/

def classNames : List String :=
  ["alnum", "alpha", "ascii", "blank", "cntrl", "digit", "graph", "lower", "print", "punct",
   "space", "upper", "word", "xdigit"]

/-- Reads a class by name, as `[:alpha:]`, from behind its bracket: whether it is negated. -/
def readNamedClass? : List Char → Option (Bool × List Char)
  | ':' :: cs =>
    let (negated, cs) := match cs with
      | '^' :: cs => (true, cs)
      | cs => (false, cs)
    match cs.dropWhile (· ≠ ':') with
    | ':' :: ']' :: rest =>
      if classNames.contains (String.ofList (cs.takeWhile (· ≠ ':'))) then some (negated, rest)
      else none
    | _ => none
  | _ => none

def readMember (s : Switches) : List Char → Option (Sign × List Char)
  | [] => none
  | '\\' :: cs => readEscape s cs
  | c :: cs => some (.literal c.toNat, cs)

/-- The character that seems to follow: where blanks do not count, the first that is none, or the
first of a comment. -/
def ahead? (s : Switches) (cs : List Char) : Option Char :=
  if s.extended then match cs.dropWhile Property.isBlank with
    | '#' :: cs => (cs.dropWhile Property.isBlank).head?
    | cs => cs.head?
  else cs.head?

/-- Reads a sign in a class, or a range of two. A dash makes a range unless a closing bracket or
another dash seems to follow. -/
def readRange (s : Switches) (cs : List Char) : Option (List Char) :=
  (readMember s cs).bind fun (first, rest) =>
    let alone := if first.isAllowedInClass s then some (skip s rest) else none
    match skip s rest with
    | '-' :: behind =>
      if ahead? s behind = some ']' ∨ ahead? s behind = some '-' then alone
      else (readMember s (skip s behind)).bind fun (last, rest) =>
        match first.code?, last.code? with
        | some low, some high =>
          if low ≤ high && first.isAllowedInClass s && last.isAllowedInClass s then some rest
          else none
        | _, _ => none
    | _ => alone

structure OpenClass where
  /-- How deep the part before the last operator nests, if there is an operator. -/
  before : Option Nat := none
  /-- How deep each member since then nests. -/
  members : List Nat := []
  deriving DecidableEq, Repr

namespace OpenClass

def depth (c : OpenClass) : Nat :=
  match c.before with
  | some depth => max depth (rowDepth c.members) + 1
  | none => rowDepth c.members

def add (c : OpenClass) (depth : Nat) : OpenClass := { c with members := depth :: c.members }

def operate (c : OpenClass) : OpenClass := { before := some c.depth }

end OpenClass

def readDashes (s : Switches) (inComment : Bool) : List Char → Nat × List Char
  | [] => (0, [])
  | c :: cs =>
    if inComment then readDashes s (c ≠ '\n') cs
    else if c == '-' then
      let (n, rest) := readDashes s false cs
      (n + 1, rest)
    else if s.extended && Property.isBlank c then readDashes s false cs
    else if s.extended && c == '#' then readDashes s true cs
    else (0, c :: cs)

/-- The members that a class begins with, behind its bracket and its sign of negation: dashes, or
else a closing bracket. -/
def readOpening (s : Switches) (cs : List Char) : List Nat × List Char :=
  match readDashes s false cs with
  | (0, ']' :: cs) => ([0], cs)
  | (n, cs) => (List.replicate n 0, cs)

/-- Opens a class, behind its bracket. Where characters are taken byte by byte it cannot be negated,
because bytes outside of ASCII are no characters. -/
def openClass (s : Switches) (cs : List Char) : Option (OpenClass × List Char) :=
  let (negated, cs) := match skip s cs with
    | '^' :: cs => (true, cs)
    | cs => (false, cs)
  let (members, rest) := readOpening s cs
  if (negated && !s.unicode) || (!members.isEmpty && s.foldsCase) then none
  else some ({ members }, rest)

/-- Reads the rest of a class that stands in some others, in at most so many steps: how deep the
outermost of them nests. -/
def readClass (s : Switches) : Nat → OpenClass → List OpenClass → List Char →
    Option (Nat × List Char)
  | 0, _, _, _ => none
  | fuel + 1, inner, outer, cs =>
    match skip s cs with
    | [] => none
    | '[' :: cs => match readNamedClass? cs with
      | some (negated, rest) =>
        if (negated && !s.unicode) || s.foldsCase then none
        else readClass s fuel (inner.add 0) outer rest
      | none => (openClass s cs).bind fun (opened, rest) =>
        readClass s fuel opened (inner :: outer) rest
    | ']' :: cs => match outer with
      | [] => some (inner.depth + 1, cs)
      | next :: outer => readClass s fuel (next.add (inner.depth + 1)) outer cs
    | '&' :: '&' :: cs | '-' :: '-' :: cs | '~' :: '~' :: cs =>
      readClass s fuel inner.operate outer cs
    | cs => (readRange s cs).bind fun rest => readClass s fuel (inner.add 0) outer rest

/-! ## Groups -/

def isNameChar (c : Char) : Bool :=
  Property.isAlphanumeric c || c == '_' || c == '.' || c == '[' || c == ']'

def isGroupName : List Char → Bool
  | [] => false
  | c :: cs => (c == '_' || Property.isLetter c) && cs.all isNameChar

/-- Reads switches up to `:` or `)`: how they are set, which of these signs ends them, and whether
there were any. No switch stands twice; one dash turns off those behind it. -/
def readSwitches (s : Switches) (seen : List Char) :
    List Char → Option (Switches × Bool × List Char)
  | [] => none
  | c :: cs =>
    if c == ':' || c == ')' then
      if seen.head? = some '-' || (c == ')' && seen.isEmpty) then none
      else some (s, c == ':', cs)
    else if seen.contains c || !"imsUuRx-".toList.contains c then none
    else
      let on := !seen.contains '-'
      let s := match c with
        | 'i' => { s with caseless := on }
        | 'u' => { s with unicode := on }
        | 'x' => { s with extended := on }
        | _ => s
      readSwitches s (c :: seen) cs

/-! ## Whole patterns -/

structure Piece where
  depth : Nat := 0
  isRepeatable : Bool := true
  deriving DecidableEq, Repr

structure OpenGroup where
  switches : Switches := {}
  /-- How deep each alternative nests that is over. -/
  alternatives : List Nat := []
  /-- The pieces of the alternative that is not, the last one first. -/
  pieces : List Piece := []
  deriving DecidableEq, Repr

namespace OpenGroup

def rowDepth (g : OpenGroup) : Nat := Pattern.rowDepth (g.pieces.map Piece.depth)

def depth (g : OpenGroup) : Nat := Pattern.rowDepth (g.rowDepth :: g.alternatives)

def add (g : OpenGroup) (piece : Piece) : OpenGroup := { g with pieces := piece :: g.pieces }

def branch (g : OpenGroup) : OpenGroup :=
  { g with alternatives := g.rowDepth :: g.alternatives, pieces := [] }

/-- Repeats the last piece. Switches cannot be repeated, nor can nothing. -/
def repeatLast (g : OpenGroup) : Option OpenGroup :=
  match g.pieces with
  | piece :: pieces =>
    if piece.isRepeatable then some { g with pieces := { depth := piece.depth + 1 } :: pieces }
    else none
  | [] => none

end OpenGroup

structure Progress where
  group : OpenGroup := {}
  outer : List OpenGroup := []
  names : List (List Char) := []
  deriving DecidableEq, Repr

namespace Progress

def switches (p : Progress) : Switches := p.group.switches

def pass (p : Progress) (piece : Piece) : Progress := { p with group := p.group.add piece }

def enter (p : Progress) (switches : Switches) : Progress :=
  { p with group := { switches }, outer := p.group :: p.outer }

def leave (p : Progress) : Option Progress :=
  match p.outer with
  | [] => none
  | group :: outer => some { p with group := group.add { depth := p.group.depth + 1 }, outer }

def enterNamed (p : Progress) (cs : List Char) : Option (Progress × List Char) :=
  let name := cs.takeWhile (· ≠ '>')
  match cs.dropWhile (· ≠ '>') with
  | _ :: rest =>
    if isGroupName name && !p.names.contains name then
      some ({ p.enter p.switches with names := name :: p.names }, rest)
    else none
  | [] => none

def switchTo (p : Progress) (switches : Switches) : Progress :=
  { p with group := { p.group with switches } }.pass { isRepeatable := false }

/-- Reads what follows an opening parenthesis. Looking ahead or behind is not possible. -/
def readGroup (p : Progress) (cs : List Char) : Option (Progress × List Char) :=
  match skip p.switches cs with
  | '?' :: '!' :: _ | '?' :: '<' :: '!' :: _ => none
  | '?' :: 'P' :: '<' :: cs | '?' :: '<' :: cs => p.enterNamed cs
  | '?' :: cs => (readSwitches p.switches [] cs).map fun (switches, opens, rest) =>
      (if opens then p.enter switches else p.switchTo switches, rest)
  | cs => some (p.enter p.switches, cs)

def readSign (p : Progress) (sign : Sign) (rest : List Char) : Option (Progress × List Char) :=
  if sign.isAllowed p.switches then some (p.pass {}, rest) else none

def read (p : Progress) : List Char → Option (Progress × List Char)
  | [] => none
  | c :: cs =>
    let s := p.switches
    if c == '(' then p.readGroup cs
    else if c == ')' then p.leave.map fun p => (p, cs)
    else if c == '|' then some ({ p with group := p.group.branch }, cs)
    else if c == '[' then (openClass s cs).bind fun (opened, rest) =>
      (readClass s (cs.length + 1) opened [] rest).map fun (depth, rest) => (p.pass { depth }, rest)
    else if c == '*' || c == '+' || c == '?' then p.group.repeatLast.map fun group =>
      ({ p with group }, match cs with
        | '?' :: cs => cs
        | cs => cs)
    else if c == '\x7b' then none
    else if c == '\\' then (readEscape s cs).bind fun (sign, rest) => p.readSign sign rest
    else if c == '.' then if s.unicode then some (p.pass {}, cs) else none
    else if c == '^' || c == '$' then some (p.pass {}, cs)
    else p.readSign (.literal c.toNat) cs

end Progress

/-- Whether the rest of a pattern is well formed, read in at most so many steps. -/
def readFrom : Nat → Progress → List Char → Bool
  | 0, _, _ => false
  | fuel + 1, p, cs =>
    match skip p.switches cs with
    | [] => p.outer.isEmpty && p.group.depth ≤ maxDepth
    | cs => match p.read cs with
      | some (p, rest) => readFrom fuel p rest
      | none => false

def isWellFormed (text : List Char) : Bool := readFrom (text.length + 1) {} text

/-! ## Numbers -/

def isExponent : List Char → Bool
  | [] => true
  | c :: cs =>
    let digits := match cs with
      | '+' :: cs | '-' :: cs => cs
      | cs => cs
    (c == 'e' || c == 'E') && !digits.isEmpty && digits.all Char.isDigit

/-- Whether a text is a number with or without a fraction and an exponent, or a word for one. -/
def isNumber (text : List Char) : Bool :=
  let whole := text.takeWhile Char.isDigit
  let (fraction, rest) := match text.dropWhile Char.isDigit with
    | '.' :: cs => (cs.takeWhile Char.isDigit, cs.dropWhile Char.isDigit)
    | cs => ([], cs)
  ["inf", "infinity", "nan"].contains (String.ofList (text.map Char.toLower))
    || ((!whole.isEmpty || !fraction.isEmpty) && isExponent rest)

/-- Whether a text can be asked for as a value. Numbers are not read as patterns; of them, only
those with a plus sign would not be patterns too. -/
def isValue (text : List Char) : Bool :=
  match text with
  | '+' :: cs => isNumber cs
  | cs => isWellFormed cs

end TextRelay.Log.Pattern
