import TextRelay.Log
import TextRelay.Log.Pattern
import TextRelay.Text.Decimal

/-!
# Log filters

Which events are written: a list of directives, separated by commas. A directive is a level, or the
beginning of a target's name with or without a level. Brackets behind the name narrow it down to a
span, or in braces to events that have some field. Of the directives that fit an event, the one with
the longest name decides, then one that asks for a field before one that does not, then the one
whose field has the later name in alphabetical order; where it stands twice, the later one.

This program opens no spans, so a directive for a span, or for the value that a field has in one,
holds for none of its events.

A directive is read without the blanks around it. Its parts are cut from the text with the blanks,
though, at the places that were counted without them: blanks in front push the parts out of place,
and so change what the directive says. A cut inside a character breaks the program down.
-/

namespace TextRelay.Log

/-- How loud an event has to be to be written: at least so loud, or no event is. -/
inductive Threshold where
  | atLeast (level : Level)
  | off
  deriving DecidableEq, Repr

structure FieldDemand where
  name : String
  hasValue : Bool
  deriving DecidableEq, Repr

structure Directive where
  /-- What the target has to begin with. -/
  target : Option String := none
  /-- The span that the event has to be in. -/
  span : Option String := none
  field : Option FieldDemand := none
  threshold : Threshold := .atLeast .trace
  deriving DecidableEq, Repr

inductive DirectiveError where
  | malformed
  /-- A part of it would begin or end inside a character. -/
  | splitCharacter
  deriving DecidableEq, Repr

structure Filter where
  directives : List Directive
  deriving DecidableEq, Repr

namespace Threshold

def names : List (String × Threshold) :=
  [("error", .atLeast .error), ("warn", .atLeast .warn), ("info", .atLeast .info),
   ("debug", .atLeast .debug), ("trace", .atLeast .trace), ("off", .off)]

def ofNumber? : Nat → Option Threshold
  | 0 => some .off
  | 1 => some (.atLeast .error)
  | 2 => some (.atLeast .warn)
  | 3 => some (.atLeast .info)
  | 4 => some (.atLeast .debug)
  | 5 => some (.atLeast .trace)
  | _ => none

/-- Reads a threshold: a number of 64 bits, or a name in any case. -/
def parse? (text : String) : Option Threshold :=
  match Decimal.readNat 0xFFFFFFFFFFFFFFFF text with
  | .ok n => ofNumber? n
  | .error _ => names.lookup text.toLower

def passes (level : Level) : Threshold → Bool
  | .atLeast least => least.rank ≤ level.rank
  | .off => false

end Threshold

namespace Directive

/-! ## Reading -/

/-- Where the reading of a directive stands. Places are counted in bytes. -/
inductive Place where
  | start
  | name
  | span (first : Nat)
  | field (first : Nat)
  | braced
  | bracketed
  | level (first : Nat)
  deriving DecidableEq, Repr

def isBoundary (text : Bytes) (place : Nat) : Bool :=
  match text[place]? with
  | some b => b < 0x80 || 0xC0 ≤ b
  | none => true

def cut (text : Bytes) (first last : Nat) : Except DirectiveError String :=
  if isBoundary text first && isBoundary text last then
    .ok (Utf8.lossy ((text.take last).drop first))
  else .error .splitCharacter

def isStart (c : Char) : Bool :=
  Property.isAlphanumeric c || c == '-' || c == ':' || c == '_'

def readField (text : String) : Except DirectiveError FieldDemand :=
  match text.splitOn "=" with
  | name :: value :: _ =>
    if Pattern.isValue value.toList then .ok ⟨name, true⟩ else .error .malformed
  | _ => if text.isEmpty then .error .malformed else .ok ⟨text, false⟩

/-- Reads the level of a directive, which is the loudest one if it is left out. -/
def readLevel (text : String) : Except DirectiveError Threshold :=
  if text.isEmpty then .ok (.atLeast .trace)
  else match Threshold.parse? text with
    | some threshold => .ok threshold
    | none => .error .malformed

def step (text : Bytes) (d : Directive) (place : Place) (i : Nat) (c : Char) :
    Except DirectiveError (Directive × Place) :=
  match place with
  | .start =>
    if c == '[' then .ok (d, .span (i + 1))
    else if isStart c then .ok (d, .name)
    else .error .malformed
  | .name =>
    if c == '=' then (cut text 0 i).map fun target => ({ d with target }, .level (i + 1))
    else if c == '[' then (cut text 0 i).map fun target => ({ d with target }, .span (i + 1))
    else .ok (d, .name)
  | .span first =>
    if c == ']' then (cut text first i).map fun span => ({ d with span }, .bracketed)
    else if c == '\x7b' then (cut text first i).map fun span =>
      ({ d with span := if span.isEmpty then none else some span }, .field (i + 1))
    else .ok (d, .span first)
  | .field first =>
    if c == '\x7d' then
      ((cut text first i).bind readField).map fun field => ({ d with field }, .braced)
    else .ok (d, .field first)
  | .braced => if c == ']' then .ok (d, .bracketed) else .error .malformed
  | .bracketed => if c == '=' then .ok (d, .level (i + 1)) else .error .malformed
  | .level first => .ok (d, .level first)

def scan (text : Bytes) : Directive → Place → Nat → List Char →
    Except DirectiveError (Directive × Place)
  | d, place, _, [] => .ok (d, place)
  | d, place, i, c :: cs =>
    match step text d place i c with
    | .ok (d, place) => scan text d place (i + c.utf8Size) cs
    | .error e => .error e

/-- Completes a directive at the end of the text. A text that is a threshold holds for every
target. -/
def finish (text : Bytes) (d : Directive) : Place → Except DirectiveError Directive
  | .name => (cut text 0 text.length).map fun whole =>
      match Threshold.parse? whole with
      | some threshold => { d with threshold }
      | none => { d with target := whole }
  | .level first => ((cut text first text.length).bind readLevel).map fun threshold =>
      { d with threshold }
  | .bracketed => .ok d
  | _ => .error .malformed

def trim (text : String) : List Char :=
  ((text.toList.dropWhile Property.isBlank).reverse.dropWhile Property.isBlank).reverse

def parse (text : String) : Except DirectiveError Directive :=
  let bytes := Utf8.encode text
  match scan bytes {} .start 0 (trim text) with
  | .ok (d, place) => d.finish bytes place
  | .error e => .error e

/-! ## Deciding -/

def holdsOutside (d : Directive) : Bool :=
  d.span.isNone && !d.field.any (·.hasValue)

/-- Whether a directive fits an event of a target. Every event has a message, and that is a field
like its others. -/
def fits (d : Directive) (target : String) (event : Event) : Bool :=
  d.holdsOutside && d.target.all (fun name => target.startsWith name)
    && d.field.all fun f => f.name == "message" || event.fields.any (·.1 == f.name)

/-- How close a directive looks: by the length of its target's name, then by its field. -/
def closeness (d : Directive) : Nat × Nat :=
  ((d.target.map (·.utf8ByteSize + 1)).getD 0, if d.field.isSome then 1 else 0)

def fieldName (d : Directive) : String := (d.field.map (·.name)).getD ""

/-- Whether a directive decides before another one that stands behind it. -/
def precedes (d later : Directive) : Bool :=
  let (target, field) := d.closeness
  let (target', field') := later.closeness
  target' < target || (target' = target && (field' < field
    || (field' = field && later.fieldName < d.fieldName)))

end Directive

namespace Filter

def parts (text : String) : List String := (text.splitOn ",").filter fun s => !s.isEmpty

/-- Reads a filter, all of whose directives have to be right. Without any, nothing is written. -/
def parse (text : String) : Except DirectiveError Filter :=
  ((parts text).mapM Directive.parse).map Filter.mk

def readLossy : List String → Except DirectiveError (List Directive)
  | [] => .ok []
  | text :: rest =>
    match Directive.parse text with
    | .error .splitCharacter => .error .splitCharacter
    | .error .malformed => readLossy rest
    | .ok d => (readLossy rest).map (d :: ·)

/-- Reads a filter, and leaves out directives that are not right. Without any, errors are written.
-/
def parseLossy (text : String) : Except DirectiveError Filter :=
  (readLossy (parts text)).map fun
    | [] => ⟨[{ threshold := .atLeast .error }]⟩
    | directives => ⟨directives⟩

/-- The filter that a program uses: the one of the environment if there is one that is well formed,
and else the one that the arguments ask for. -/
def choose (environment : Option String) (fallback : String) : Except DirectiveError Filter :=
  match environment.map parse with
  | some (.ok f) => .ok f
  | some (.error .splitCharacter) => .error .splitCharacter
  | some (.error .malformed) | none => parseLossy fallback

def deciding? (f : Filter) (target : String) (event : Event) : Option Directive :=
  (f.directives.filter fun d => d.fits target event).foldl (fun best d =>
    match best with
    | some b => if b.precedes d then some b else some d
    | none => some d) none

def passes (f : Filter) (target : String) (event : Event) : Bool :=
  match f.deciding? target event with
  | some d => d.threshold.passes event.level
  | none => false

end Filter

end TextRelay.Log
