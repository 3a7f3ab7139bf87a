import TextRelay.Signal

/-!
# Scenarios for a signal

A list of steps on one signal, with reporters known by name. A name that is used again gives its old
reporter up. What is gone can be given up again, and does nothing else.
-/

namespace TextRelay.Scenario

inductive SignalStep where
  | reporter (name : String) (direction : Direction)
  | report (name : String) (exit : Exit)
  | drop (name : String)
  /-- The relay that holds a reporter breaks down. -/
  | breakDown (name : String)
  | release
  | dropController
  | trip
  | isTripped
  | isShuttingDown
  | isCancelled
  | waitFirst
  deriving DecidableEq, Repr

inductive SignalReply where
  | done
  /-- What the step acts on does not exist any more. -/
  | gone
  | brokeDown
  | exit (e : Exit)
  | first (isFirst : Bool)
  | flag (value : Bool)
  | cancelled (value : Bool)
  | blocked
  deriving DecidableEq, Repr

/-- A signal and the reporters that are held, by name. -/
structure SignalState where
  signal : Signal := {}
  names : List (String × Nat) := []
  deriving DecidableEq, Repr

namespace SignalState

def abandon (st : SignalState) (name : String) : Option SignalState :=
  (st.names.lookup name).map fun n =>
    { signal := st.signal.abandon n, names := st.names.filter (·.1 ≠ name) }

/-- An answer that only the coordinator's side can give. -/
def controlled (st : SignalState) (reply : SignalReply × SignalState) : SignalReply × SignalState :=
  if st.signal.isControlled then reply else (.gone, st)

def held (st : SignalState) (reply : SignalReply × SignalState) : SignalReply × SignalState :=
  if st.signal.isHeld then reply else (.gone, st)

def perform (st : SignalState) : SignalStep → SignalReply × SignalState
  | .reporter name direction => st.held <|
    let (n, signal) := st.signal.reporter direction
    let st := ({ st with signal }.abandon name).getD { st with signal }
    (.done, { st with names := (name, n) :: st.names })
  | .report name exit =>
    match st.names.lookup name with
    | some n => (.exit exit,
        { signal := st.signal.report n exit, names := st.names.filter (·.1 ≠ name) })
    | none => (.gone, st)
  | .drop name => (.done, (st.abandon name).getD st)
  | .breakDown name => match st.abandon name with
    | some st => (.brokeDown, st)
    | none => (.gone, st)
  | .release => (.done, if st.signal.isHeld then { st with signal := st.signal.release } else st)
  | .dropController =>
    (.done, if st.signal.isControlled then { st with signal := st.signal.dropController } else st)
  | .trip => st.controlled (.first st.signal.trip.1, { st with signal := st.signal.trip.2 })
  | .isTripped => st.controlled (.flag st.signal.tripped, st)
  | .isShuttingDown => st.held (.flag st.signal.tripped, st)
  | .isCancelled => st.held (.cancelled st.signal.isCancelled, st)
  | .waitFirst => st.controlled <|
    match st.signal.waitFirst with
    | some (exit, signal) => (.exit exit, { st with signal })
    | none => (.blocked, st)

def performAll (st : SignalState) : List SignalStep → List SignalReply
  | [] => []
  | step :: rest =>
    let (reply, st) := st.perform step
    reply :: performAll st rest

end SignalState

end TextRelay.Scenario
