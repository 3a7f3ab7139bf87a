import TextRelay.Fault
import TextRelay.Log
import TextRelay.Text.Utf8

/-!
# Deliveries

A stream may take fewer bytes than it is offered. A delivery keeps offering what is left until all
of its data is taken. It is a state that is fed the answers of successive send calls, so that the
same rules serve a delivery that runs to its end and one that waits between two calls.
-/

namespace TextRelay

/-- Data on its way out, and how much of it the stream has taken. -/
structure Delivery where
  data : Bytes
  written : Nat := 0
  deriving DecidableEq, Repr

namespace Delivery

def remaining (d : Delivery) : Bytes := d.data.drop d.written

def isDone (d : Delivery) : Bool := d.data.length ≤ d.written

/-- The fault of a stream that takes nothing at all. -/
def stuck : Fault := ⟨.writeZero, "transport accepted no bytes"⟩

/-- Takes the answer of a send call: the bytes it accepted, or its fault. An interruption is no
answer, and the same bytes are offered again. -/
def feed (d : Delivery) : Except Fault Nat → Except Fault Delivery
  | .ok 0 => .error stuck
  | .ok n => .ok { d with written := d.written + n }
  | .error fault => if fault.kind = .interrupted then .ok d else .error fault

def events (d : Delivery) : Except Fault Nat → List Log.Event
  | .ok n =>
    if 0 < n ∧ d.written + n < d.data.length then
      [⟨.trace, "partial write, retrying remainder",
        [("written", toString (d.written + n)), ("total", toString d.data.length)]⟩]
    else []
  | .error _ => []

end Delivery

end TextRelay
