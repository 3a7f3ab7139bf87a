import TextRelay.CommandLine.Grammar
import TextRelay.Text.Control

/-!
# Reading arguments

Arguments are read from left to right, and the first trouble decides. An option may carry its value
(`--port=80`, `-p80`, `-p=80`) or take it from the next argument, unless that looks like an option
itself. A value that was taken from the next argument is looked at only when a further option is met
or the arguments are over; if something follows that is no option at all, that is the trouble.
-/

namespace TextRelay

/-- Why the arguments do not call for a run of the program. -/
inductive UsageError where
  | help
  | version
  | unknown (argument : String)
  | missingValue (flag : Flag)
  | badValue (flag : Flag) (value why : String)
  | repeated (flag : Flag)
  /-- A switch was given a value. -/
  | needlessValue (flag : Flag) (value : String)
  deriving DecidableEq, Repr

structure Choices where
  host : Option String := none
  port : Option UInt16 := none
  socket : Option String := none
  chunkSize : Option UInt64 := none
  sentinel : Option String := none
  label : Option String := none
  timestamps : Bool := false
  logLevel : Option String := none
  deriving DecidableEq, Repr

namespace UsageError

/-- What there is to say about an error: the whole text for help and version, and else one sentence,
in which arguments are quoted. -/
def wording (g : Grammar) (quote : String → String) : UsageError → String
  | help => g.helpPage
  | version => g.versionText
  | unknown argument => s!"error: unexpected argument '{quote argument}' found"
  | missingValue f => s!"error: a value is required for '{f.usage}' but none was supplied"
  | badValue f value why => s!"error: invalid value '{quote value}' for '{f.usage}': {why}"
  | repeated f => s!"error: the argument '{f.usage}' cannot be used multiple times"
  | needlessValue f value =>
    s!"error: unexpected value '{quote value}' for '{f.usage}' found; no more were expected"

/-- The text of an error, which quotes arguments without what a terminal would obey. -/
def message (g : Grammar) (e : UsageError) : String := e.wording g Control.strip

def printed (g : Grammar) (e : UsageError) : String := e.wording g Control.stripPrinted

/-- Whether an answer was asked for, and nothing is wrong. -/
def isAnswer : UsageError → Bool
  | help | version => true
  | _ => false

def exitCode (e : UsageError) : UInt8 := if e.isAnswer then 0 else 2

end UsageError

namespace Choices

def has (c : Choices) : Topic → Bool
  | .host => c.host.isSome
  | .port => c.port.isSome
  | .socket => c.socket.isSome
  | .chunkSize => c.chunkSize.isSome
  | .sentinel => c.sentinel.isSome
  | .label => c.label.isSome
  | .timestamps => c.timestamps
  | .logLevel => c.logLevel.isSome
  | .help | .version => false

/-- Reads a port: first as a number of 64 bits, which then has to be in range. -/
def readPort (text : String) : Except String Nat :=
  match Decimal.readInt64 text with
  | .error e => .error e.message
  | .ok n => if 0 ≤ n ∧ n ≤ 65535 then .ok n.toNat else .error s!"{n} is not in 0..=65535"

def readSize (text : String) : Except String Nat :=
  match Decimal.readNat (0xFFFFFFFFFFFFFFFF) text with
  | .error e => .error e.message
  | .ok n => .ok n

def setText (c : Choices) (value : String) : Topic → Choices
  | .host => { c with host := some value }
  | .socket => { c with socket := some value }
  | .sentinel => { c with sentinel := some value }
  | .label => { c with label := some value }
  | .logLevel => { c with logLevel := some value }
  | _ => c

def set (c : Choices) (f : Flag) (value : String) : Except UsageError Choices :=
  match f.kind with
  | .switch => .ok { c with timestamps := true }
  | .text => .ok (c.setText value f.topic)
  | .path => if value.isEmpty then .error (.missingValue f) else .ok (c.setText value f.topic)
  | .port => match readPort value with
    | .ok n => .ok { c with port := some (UInt16.ofNat n) }
    | .error why => .error (.badValue f value why)
  | .size => match readSize value with
    | .ok n => .ok { c with chunkSize := some (UInt64.ofNat n) }
    | .error why => .error (.badValue f value why)

/-- Takes an option that was given: its value has to be there, the option has to be new, and the
value has to be of its kind. -/
def accept (c : Choices) (f : Flag) (value : Option String) : Except UsageError Choices :=
  match f.topic, f.takesValue, value with
  | .help, _, _ => .error .help
  | .version, _, _ => .error .version
  | _, true, none => .error (.missingValue f)
  | topic, _, _ => if c.has topic then .error (.repeated f) else c.set f (value.getD "")

end Choices

structure ArgumentReader where
  choices : Choices := {}
  /-- The option whose value was not looked at yet, with that value if there is one by now. -/
  pending : Option (Flag × Option String) := none
  deriving DecidableEq, Repr

namespace ArgumentReader

/-- Looks at the value that was put off. -/
def resolve (r : ArgumentReader) : Except UsageError ArgumentReader :=
  match r.pending with
  | none => .ok r
  | some (f, value) => (r.choices.accept f value).map fun choices => { choices }

def complete (r : ArgumentReader) (f : Flag) (value : Option String) :
    Except UsageError ArgumentReader :=
  r.resolve.bind fun r => (r.choices.accept f value).map fun choices => { choices }

def await (r : ArgumentReader) (f : Flag) : Except UsageError ArgumentReader :=
  r.resolve.map fun r => { r with pending := some (f, none) }

def isAwaiting (r : ArgumentReader) : Bool :=
  match r.pending with
  | some (_, none) => true
  | _ => false

def fill (r : ArgumentReader) (value : String) : ArgumentReader :=
  { r with pending := r.pending.map fun (f, _) => (f, some value) }

def readLong (g : Grammar) (r : ArgumentReader) (body : List Char) :
    Except UsageError ArgumentReader :=
  let name := String.ofList (body.takeWhile (· ≠ '='))
  let value := match body.dropWhile (· ≠ '=') with
    | _ :: rest => some (String.ofList rest)
    | [] => none
  match g.long? name with
  | none => .error (.unknown s!"--{name}")
  | some f =>
    match f.takesValue, value with
    | true, none => r.await f
    | false, some value => .error (.needlessValue f value)
    | _, _ => r.complete f value

/-- Reads a cluster of short options, without its dash. The first that takes a value takes all that
is left as its value. -/
def readShort (g : Grammar) (r : ArgumentReader) : List Char → Except UsageError ArgumentReader
  | [] => .ok r
  | c :: rest =>
    match g.short? c with
    | none => .error (.unknown s!"-{c}")
    | some f =>
      if f.takesValue then
        match rest with
        | [] => r.await f
        | '=' :: value => r.complete f (some (String.ofList value))
        | value => r.complete f (some (String.ofList value))
      else match r.complete f none with
        | .ok r => readShort g r rest
        | .error e => .error e

/-- Reads all arguments. After `--` there are no options any more, and nothing else is expected. -/
def readAll (g : Grammar) : ArgumentReader → List String → Except UsageError Choices
  | r, [] => r.resolve.map (·.choices)
  | r, argument :: rest =>
    match argument.toList with
    | ['-', '-'] => match rest with
      | [] => r.resolve.map (·.choices)
      | extra :: _ => .error (.unknown extra)
    | '-' :: '-' :: body => match r.readLong g body with
      | .ok r => readAll g r rest
      | .error e => .error e
    | '-' :: c :: cs => match r.readShort g (c :: cs) with
      | .ok r => readAll g r rest
      | .error e => .error e
    | _ => if r.isAwaiting then readAll g (r.fill argument) rest else .error (.unknown argument)

end ArgumentReader

def Choices.parse (g : Grammar) (arguments : List String) : Except UsageError Choices :=
  ArgumentReader.readAll g {} arguments

end TextRelay
