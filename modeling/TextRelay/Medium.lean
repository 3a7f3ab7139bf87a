import TextRelay.Delivery

/-!
# Media

A medium is the state of everything that carries streams: a pipe, or a whole machine with its
sockets. Streams are reached through numbered handles. An operation that would block has no result;
it is tried again when the medium has changed.
-/

namespace TextRelay

/-- The operations on the stream handles of a medium. -/
class Medium (κ : Type) where
  send : κ → Nat → Bytes → Option (Except Fault Nat × κ)
  /-- Announces that the handle is about to receive. A stream without a buffer of its own takes
  bytes only for a handle that is waiting for them. -/
  listen : κ → Nat → κ
  /-- Receives at most so many bytes; none are the end of the stream. -/
  receive : κ → Nat → Nat → Option (Except Fault Bytes × κ)
  clone : κ → Nat → Except Fault Nat × κ
  /-- Closes both directions of a stream, for every handle onto it. -/
  shutdown : κ → Nat → Except Fault Unit × κ
  drop : κ → Nat → κ
  peer : κ → Nat → String
  /-- How many bytes were sent and not yet received, on all streams together. -/
  inTransit : κ → Nat

namespace Medium

variable {κ : Type} [Medium κ]

inductive Sending (κ : Type) where
  | ended (result : Except Fault Unit) (after : κ)
  /-- The stream takes no more for now. -/
  | blocked (left : Delivery) (after : κ)

/-- Sends what is left of a delivery, in at most so many calls. -/
def sendAll (h : Nat) : Nat → κ → Delivery → Sending κ
  | 0, w, d => .blocked d w
  | fuel + 1, w, d =>
    if d.isDone then .ended (.ok ()) w
    else match send w h d.remaining with
      | none => .blocked d w
      | some (answer, w) =>
        match d.feed answer with
        | .error fault => .ended (.error fault) w
        | .ok next => sendAll h fuel w next

/-- What a handle can receive at once, in pieces of at most `size` bytes: up to the end of the
stream, a fault, or the point where it would block. At most so many calls are made. -/
def drain (h size : Nat) : Nat → κ → List Bytes × κ
  | 0, w => ([], w)
  | fuel + 1, w =>
    match receive w h size with
    | none => ([], w)
    | some (.ok [], w) => ([], w)
    | some (.error _, w) => ([], w)
    | some (.ok piece, w) =>
      let (pieces, w) := drain h size fuel w
      (piece :: pieces, w)

end Medium

end TextRelay
