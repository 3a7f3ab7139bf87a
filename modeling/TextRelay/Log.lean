import TextRelay.Text.Control

/-!
# Log events

What the relay tells about its work, as data: a level, a message, and named fields. Operations
return their events in order; the outermost layer decides which of them are written.
-/

namespace TextRelay.Log

/-- How loud an event is, from the quietest to the loudest. -/
inductive Level where
  | trace
  | debug
  | info
  | warn
  | error
  deriving DecidableEq, Repr, Inhabited

def Level.describe : Level → String
  | trace => "trace"
  | debug => "debug"
  | info => "info"
  | warn => "warn"
  | error => "error"

def Level.rank : Level → Nat
  | trace => 1
  | debug => 2
  | info => 3
  | warn => 4
  | error => 5

structure Event where
  level : Level
  message : String
  fields : List (String × String) := []
  deriving DecidableEq, Repr

/-- An event on one line: the message, with the characters spelled out that a terminal would obey,
then each field as `name=value`. -/
def Event.line (e : Event) : String :=
  e.fields.foldl (fun text (name, value) => text ++ " " ++ name ++ "=" ++ value)
    (Control.spell e.message)

end TextRelay.Log
