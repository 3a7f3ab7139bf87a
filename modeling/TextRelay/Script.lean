import TextRelay.Delivery

/-!
# Scripted streams

A stream whose answers are written down beforehand. Both halves can also trip the session's signal
in the middle of a call, which makes every moment of a trip reachable. Past the end of its script
the sending half takes all it is offered and the receiving half is at the end of its stream.
-/

namespace TextRelay

inductive SendStep where
  /-- Take at most so many bytes. -/
  | accept (n : Nat)
  | fail (fault : Fault)
  /-- Trip the signal and go on with the next step, inside the same call. -/
  | trip
  deriving DecidableEq, Repr

structure SendScript where
  steps : List SendStep
  tripped : Bool := false
  /-- The bytes taken so far. -/
  wire : Bytes := []
  /-- How many bytes each call offered. -/
  offered : List Nat := []
  deriving DecidableEq, Repr

namespace SendScript

/-- The answer to an offer of `size` bytes, the steps left after it, and the signal. -/
def answer (size : Nat) : List SendStep → Bool → Except Fault Nat × List SendStep × Bool
  | [], tripped => (.ok size, [], tripped)
  | .accept n :: rest, tripped => (.ok (min n size), rest, tripped)
  | .fail fault :: rest, tripped => (.error fault, rest, tripped)
  | .trip :: rest, _ => answer size rest true

def send (s : SendScript) (data : Bytes) : Except Fault Nat × SendScript :=
  let (result, steps, tripped) := answer data.length s.steps s.tripped
  let taken := match result with
    | .ok n => data.take n
    | .error _ => []
  (result, ⟨steps, tripped, s.wire ++ taken, s.offered ++ [data.length]⟩)

theorem answer_length_le (size : Nat) (steps : List SendStep) (tripped : Bool) :
    (answer size steps tripped).2.1.length ≤ steps.length - 1 := by
  induction steps generalizing tripped with
  | nil => simp [answer]
  | cons step rest ih =>
    cases step with
    | accept n => simp [answer]
    | fail fault => simp [answer]
    | trip =>
      have := ih true
      simp only [answer, List.length_cons]
      omega

/-- Every call uses up a step, as long as there is one. -/
theorem send_steps_lt (s : SendScript) (data : Bytes) (h : s.steps ≠ []) :
    (s.send data).2.steps.length < s.steps.length := by
  have hle := answer_length_le data.length s.steps s.tripped
  have hpos : 0 < s.steps.length := List.length_pos_iff.2 h
  exact Nat.lt_of_le_of_lt hle (by omega)

end SendScript

/-- Runs a delivery over a scripted stream to its end. Once the script is over, one call takes all
that is left. -/
def Delivery.over (s : SendScript) (d : Delivery) :
    Except Fault Unit × SendScript × List Log.Event :=
  if d.isDone then (.ok (), s, [])
  else
    let answer := (s.send d.remaining).1
    match d.feed answer with
    | .error fault => (.error fault, (s.send d.remaining).2, [])
    | .ok next =>
      if _h : s.steps = [] then (.ok (), (s.send d.remaining).2, d.events answer)
      else
        let (result, s', events) := Delivery.over (s.send d.remaining).2 next
        (result, s', d.events answer ++ events)
termination_by s.steps.length
decreasing_by exact s.send_steps_lt _ _h

inductive ReceiveStep where
  /-- Bytes arrive; no bytes are the end of the stream. -/
  | data (bytes : Bytes)
  | fail (fault : Fault)
  | trip
  deriving DecidableEq, Repr

def ReceiveStep.bytes : ReceiveStep → Bytes
  | data bytes => bytes
  | fail _ | trip => []

/-- The receiving half: what it will do, the bytes that did not fit the last buffer, the signal, and
the buffer sizes of the calls so far. -/
structure ReceiveScript where
  steps : List ReceiveStep
  kept : Bytes := []
  tripped : Bool := false
  buffers : List Nat := []
  deriving DecidableEq, Repr

namespace ReceiveScript

/-- The answer of the next step that is not a trip, the steps left after it, and the signal. -/
def answer : List ReceiveStep → Bool → Except Fault Bytes × List ReceiveStep × Bool
  | [], tripped => (.ok [], [], tripped)
  | .data bytes :: rest, tripped => (.ok bytes, rest, tripped)
  | .fail fault :: rest, tripped => (.error fault, rest, tripped)
  | .trip :: rest, _ => answer rest true

def receive (s : ReceiveScript) (size : Nat) : Except Fault Bytes × ReceiveScript :=
  let buffers := s.buffers ++ [size]
  if s.kept.isEmpty then
    match answer s.steps s.tripped with
    | (.ok bytes, steps, tripped) =>
      (.ok (bytes.take size), ⟨steps, bytes.drop size, tripped, buffers⟩)
    | (.error fault, steps, tripped) => (.error fault, ⟨steps, [], tripped, buffers⟩)
  else (.ok (s.kept.take size), { s with kept := s.kept.drop size, buffers })

end ReceiveScript

end TextRelay
