import TextRelay.Fault
import TextRelay.Stage
import TextRelay.Text.Chunk

/-!
# Errors

What the operations of listeners and sessions can fail with. The text of an error names what was
attempted; the fault behind it, where there is one, is its source and is not repeated in the text
unless the text has nothing else to say.
-/

namespace TextRelay

inductive RelayError where
  | bind (endpoint : String) (source : Fault)
  | accept (endpoint : String) (source : Fault)
  | connect (endpoint : String) (source : Fault)
  | decode (error : DecodeError)
  | transport (source : Fault)
  /-- Fewer bytes went out than were offered. -/
  | partialWrite (written total : Nat)
  | spawn (name : String) (source : Fault)
  | settings (reason : String)
  /-- The operation does not fit the stage. -/
  | wrongStage (stage : Stage)
  deriving DecidableEq, Repr

namespace RelayError

def message : RelayError → String
  | bind endpoint _ => s!"failed to bind {endpoint}"
  | accept endpoint _ => s!"failed to accept peer on {endpoint}"
  | connect endpoint _ => s!"failed to connect to {endpoint}"
  | decode error => error.message
  | transport source => s!"transport error: {source.text}"
  | partialWrite written total => s!"partial write: {written} of {total} bytes"
  | spawn name source => s!"failed to start {name} relay thread: {source.text}"
  | settings reason => s!"invalid configuration: {reason}"
  | wrongStage stage => s!"operation not valid while session is {stage.describe}"

def source? : RelayError → Option Fault
  | bind _ source | accept _ source | connect _ source | transport source | spawn _ source =>
    some source
  | _ => none

/-- Whether an error ends the program and not only a relay. -/
def isFatal : RelayError → Bool
  | bind .. | accept .. | connect .. | spawn .. | settings _ | wrongStage _ => true
  | _ => false

/-- The text of an error and of the fault behind it, from the outside in. -/
def fullMessage (e : RelayError) : String :=
  match e.source? with
  | some fault => s!"{e.message}: {fault.text}"
  | none => e.message

end RelayError

end TextRelay
