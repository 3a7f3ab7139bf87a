import TextRelay.Text.Decimal

/-!
# Options

The options of a program as data: how they are spelled, what kind of value they take, and what the
help says about them. The help text is laid out from the same data that the arguments are read by.
-/

namespace TextRelay

inductive Topic where
  | host
  | port
  | socket
  | chunkSize
  | sentinel
  | label
  | timestamps
  | logLevel
  | help
  | version
  deriving DecidableEq, Repr

inductive ValueKind where
  /-- Nothing: the option is a switch. -/
  | switch
  | text
  | path
  | port
  /-- A number of 64 bits. -/
  | size
  deriving DecidableEq, Repr

structure Flag where
  topic : Topic
  long : String
  short : Option Char := none
  kind : ValueKind := .switch
  /-- What the help calls the value. -/
  value : String := ""
  help : String
  default? : Option String := none
  deriving DecidableEq, Repr

/-- The options of a program, and what stands around them in the help. -/
structure Grammar where
  name : String
  version : String
  about : String
  flags : List Flag
  deriving DecidableEq, Repr

namespace Flag

def takesValue (f : Flag) : Bool := f.kind ≠ .switch

/-- How messages call the option. -/
def usage (f : Flag) : String :=
  if f.takesValue then s!"--{f.long} <{f.value}>" else s!"--{f.long}"

def helpKey (f : Flag) : String :=
  let short := match f.short with
    | some c => s!"-{c}, "
    | none => "    "
  "  " ++ short ++ f.usage

def helpText (f : Flag) : String :=
  match f.default? with
  | some value => s!"{f.help} [default: {value}]"
  | none => f.help

end Flag

namespace Grammar

def long? (g : Grammar) (name : String) : Option Flag := g.flags.find? (·.long == name)

def short? (g : Grammar) (c : Char) : Option Flag := g.flags.find? (·.short == some c)

def versionText (g : Grammar) : String := s!"{g.name} {g.version}\n"

/-- One line of the help, its left column filled up to a width. -/
def helpLine (width : Nat) (f : Flag) : String :=
  let padding := String.ofList (List.replicate (width - f.helpKey.length) ' ')
  s!"{f.helpKey}{padding}  {f.helpText}\n"

def helpPage (g : Grammar) : String :=
  let width := (g.flags.map fun f => f.helpKey.length).foldl max 0
  s!"{g.about}\n\nUsage: {g.name} [OPTIONS]\n\nOptions:\n"
    ++ String.join (g.flags.map (helpLine width))

end Grammar

end TextRelay
