import TextRelay.Exit

/-!
# Signals

The signal of a session has two sides. Relays report how they ended, each through a reporter of its
own, and can see whether the session is shutting down. The coordinator waits for the first report
and trips the signal.

Relays are told of a trip in two ways. A relay that runs reads the flag. A relay that waits for
input waits for the cancellation as well, on a channel through which nothing is ever sent: it ends
when the coordinator lets its sender go, in a trip or together with its side of the signal.

A reporter reports exactly once: what it is given, or, if it is given up without that, that its
relay broke down.
-/

namespace TextRelay

structure Signal where
  tripped : Bool := false
  /-- Whether the coordinator holds the sender of the cancellation channel. -/
  hasSender : Bool := true
  queue : List Exit := []
  /-- All reporters ever made, by number; one that is done has no direction any more. -/
  reporters : List (Option Direction) := []
  isHeld : Bool := true
  /-- Whether the coordinator's side still exists. -/
  isControlled : Bool := true
  deriving DecidableEq, Repr

namespace Signal

/-- Makes a reporter for a direction. -/
def reporter (s : Signal) (direction : Direction) : Nat × Signal :=
  (s.reporters.length, { s with reporters := s.reporters ++ [some direction] })

def direction? (s : Signal) (n : Nat) : Option Direction := (s.reporters[n]?).join

/-- Passes a report to the coordinator, if there is one, and ends the reporter. -/
def report (s : Signal) (n : Nat) (exit : Exit) : Signal :=
  { s with
    reporters := s.reporters.set n none
    queue := if s.isControlled then s.queue ++ [exit] else s.queue }

def abandon (s : Signal) (n : Nat) : Signal :=
  match s.direction? n with
  | some direction => s.report n (.panicked direction)
  | none => s

/-- Sets the flag and lets the sender go. The first component tells whether this call was the one
that set the flag. -/
def trip (s : Signal) : Bool × Signal :=
  (!s.tripped, { s with tripped := true, hasSender := false })

/-- Whether the cancellation channel is disconnected, so that waits for it end. -/
def isCancelled (s : Signal) : Bool := !s.hasSender

/-- Whether another report may still come. -/
def mayReport (s : Signal) : Bool := s.isHeld || s.reporters.any Option.isSome

/-- Takes the first report. Without one the call blocks, unless none can come any more. -/
def waitFirst (s : Signal) : Option (Exit × Signal) :=
  match s.queue with
  | exit :: rest => some (exit, { s with queue := rest })
  | [] => if s.mayReport then none else some (.panicked .inbound, s)

/-- The relays' side is given up; reporters that were made before live on. -/
def release (s : Signal) : Signal := { s with isHeld := false }

/-- The coordinator's side is given up, and its sender with it: reports go nowhere. -/
def dropController (s : Signal) : Signal :=
  { s with isControlled := false, hasSender := false, queue := [] }

end Signal

end TextRelay
