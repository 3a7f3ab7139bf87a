import TextRelay.Fault
import TextRelay.Text.Chunk
import TextRelay.Text.Line

/-!
# Reading lines

Lines are cut out of bytes that arrive in pieces of any size and pass through a buffer of fixed
capacity. A line ends with a line feed, which belongs to it until its ending is trimmed, or at the
end of the input. Only whole lines are looked at as text, so neither pieces nor buffer can damage a
character; a line that is not text is consumed and answered by a fault.
-/

namespace TextRelay

/-- What a line source answers when it is read. -/
inductive InputEvent where
  | line (text : String)
  | ended
  | failed (fault : Fault)
  deriving DecidableEq, Repr

/-- What the input underneath yields: bytes, of which none are an end-of-file read, or a fault. -/
inductive Arrival where
  | bytes (data : Bytes)
  | fault (fault : Fault)
  deriving DecidableEq, Repr

def Arrival.data : Arrival → Bytes
  | bytes data => data
  | fault _ => []

structure LineReader where
  capacity : Nat := 8192
  buffer : Bytes := []
  arrivals : List Arrival := []
  /-- Whether more may arrive later; if not, the input is at its end after the last arrival. -/
  isOpen : Bool := false
  deriving DecidableEq, Repr

namespace LineReader

/-- How much is still to arrive. Even an empty piece takes a read. -/
def weight (arrivals : List Arrival) : Nat :=
  (arrivals.flatMap Arrival.data).length + arrivals.length

def lineFeed : UInt8 := 0x0A

/-- Cuts bytes behind their first line feed, if they have one. -/
def cutLine (bytes : Bytes) : Option (Bytes × Bytes) :=
  match bytes.idxOf? lineFeed with
  | some i => some (bytes.take (i + 1), bytes.drop (i + 1))
  | none => none

/-- What is left of a piece after a buffer was filled from it. -/
def leftover (rest : Bytes) (arrivals : List Arrival) : List Arrival :=
  match rest with
  | [] => arrivals
  | _ => .bytes rest :: arrivals

/-- The bytes up to and including the next line feed, or up to the end of the input, behind those
gathered already. Interruptions are passed over; any other fault loses what was gathered. There is
no answer while the input is open and its line is not complete. -/
def gather (r : LineReader) (sofar : Bytes) : Option (Except Fault Bytes × LineReader) :=
  match cutLine r.buffer with
  | some (line, rest) => some (.ok (sofar ++ line), { r with buffer := rest })
  | none =>
    let sofar := sofar ++ r.buffer
    match _h : r.arrivals with
    | [] => if r.isOpen then none else some (.ok sofar, { r with buffer := [] })
    | .fault fault :: rest =>
      if fault.kind = .interrupted then
        gather { r with buffer := [], arrivals := rest } sofar
      else some (.error fault, { r with buffer := [], arrivals := rest })
    | .bytes [] :: rest => some (.ok sofar, { r with buffer := [], arrivals := rest })
    | .bytes (b :: bs) :: rest =>
      match r.capacity with
      | 0 => some (.ok sofar, { r with buffer := [] })
      | room + 1 =>
        gather { r with
          buffer := b :: bs.take room
          arrivals := leftover (bs.drop room) rest } sofar
termination_by weight r.arrivals
decreasing_by
  · simp [_h, weight, Arrival.data]
  · simp only [_h, weight, leftover, List.flatMap_cons, Arrival.data, List.length_append,
      List.length_cons]
    have := @List.length_drop _ room bs
    split
    · omega
    · simp only [List.flatMap_cons, Arrival.data, List.length_append, List.length_cons]
      omega

def notText : Fault := ⟨.invalidData, "stream did not contain valid UTF-8"⟩

def eventOf (line : Bytes) : InputEvent :=
  if line.isEmpty then .ended
  else match Chunk.decode line with
    | .ok text => .line (Line.trimEnding text)
    | .error _ => .failed notText

/-- Reads the next line. There is no answer while the input is open and its line is not complete. -/
def read (r : LineReader) : Option (InputEvent × LineReader) :=
  (r.gather []).map fun
    | (.ok line, r') => (eventOf line, r')
    | (.error fault, r') => (.failed fault, r')

end LineReader

end TextRelay
