import TextRelay.Input.LineReader

/-!
# Line sources

Where typed lines come from: a queue of answers, a reader over bytes, or answers that never run out.
A source blocks while it is open and has nothing to answer; a closed one answers the end of the
input for ever.
-/

namespace TextRelay

inductive Reading where
  | event (e : InputEvent)
  | broke
  deriving DecidableEq, Repr

inductive Source where
  /-- Answers that are known beforehand; `isOpen` while more may follow. -/
  | queue (readings : List Reading) (isOpen : Bool)
  | reader (r : LineReader)
  /-- An answer for each number, and the number of the next one. -/
  | endless (answer : Nat → Reading) (next : Nat)

namespace Source

def ofLines (lines : List String) : Source :=
  queue (lines.map fun text => .event (.line text)) false

/-- Reads a source once. There is no answer while the source blocks. -/
def read : Source → Option (Reading × Source)
  | queue (reading :: rest) isOpen => some (reading, queue rest isOpen)
  | queue [] true => none
  | queue [] false => some (.event .ended, queue [] false)
  | reader r => r.read.map fun (e, r') => (.event e, reader r')
  | endless answer next => some (answer next, endless answer (next + 1))

def reads : Nat → Source → List Reading
  | 0, _ => []
  | n + 1, s => match s.read with
    | some (reading, s') => reading :: reads n s'
    | none => []

/-- Adds an answer to an open source; a reader takes none. -/
def push (reading : Reading) : Source → Source
  | queue readings true => queue (readings ++ [reading]) true
  | s => s

def pushBytes (data : Bytes) : Source → Source
  | reader r =>
    if r.isOpen ∧ data ≠ [] then reader { r with arrivals := r.arrivals ++ [.bytes data] }
    else reader r
  | s => s

def arrive (arrival : Arrival) : Source → Source
  | reader r => reader { r with arrivals := r.arrivals ++ [arrival] }
  | s => s

/-- Closes a source: what it holds can still be read. Answers that never run out go on. -/
def close : Source → Source
  | queue readings _ => queue readings false
  | reader r => reader { r with isOpen := false }
  | endless answer next => endless answer next

end Source

end TextRelay
