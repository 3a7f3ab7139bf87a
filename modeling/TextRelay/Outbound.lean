import TextRelay.Exit
import TextRelay.Input.LineReader
import TextRelay.Script
import TextRelay.Text.Line

/-!
# The outbound relay

Takes typed lines and sends each in full, until the sentinel was sent, the input ends or fails, the
stream fails, or the session shuts down. The relay is a small machine: it waits for input or for
the cancellation, whichever it is given (`take`, `cancel`); a line is only sent if the signal is
not tripped by the time it is looked at (`check`); a line is sent by one or more calls (`answer`);
and when one of them fails, the signal is read again to judge the fault (`judge`).

Lines are counted when they are out in full. An empty line needs no call at all.
-/

namespace TextRelay

inductive Outbound.Phase where
  /-- Waiting for input or for the cancellation. -/
  | waiting
  /-- A line was taken, and the signal not yet read. -/
  | holding (line : String)
  | sending (line : String) (delivery : Delivery)
  /-- A send call failed, and the signal is not yet read. -/
  | failing (fault : Fault)
  /-- Done, and not yet reported. -/
  | leaving (exit : Exit)
  | gone (exit : Exit)
  deriving DecidableEq, Repr

structure Outbound where
  sentinel : String
  bytes : Nat := 0
  phase : Outbound.Phase := .waiting
  deriving DecidableEq, Repr

namespace Outbound

def leave (r : Outbound) (cause : Cause) : Outbound × List Log.Event :=
  let exit : Exit := ⟨.outbound, cause, r.bytes⟩
  ({ r with phase := .leaving exit }, [exit.finishedEvent])

def take (r : Outbound) : InputEvent → Outbound × List Log.Event
  | .line text => ({ r with phase := .holding text }, [])
  | .ended =>
    let (r, events) := r.leave .inputClosed
    (r, ⟨.info, "local input closed", []⟩ :: events)
  | .failed fault =>
    let (r, events) := r.leave (.inputFailed fault.text)
    (r, ⟨.warn, "failed to read local input", [("error", fault.text)]⟩ :: events)

def cancel (r : Outbound) : Outbound × List Log.Event :=
  r.leave .cancelled

def complete (r : Outbound) (line : String) : Outbound × List Log.Event :=
  let r := { r with bytes := r.bytes + (Line.encode line).length, phase := .waiting }
  if Line.isSentinel line r.sentinel then
    let (r, events) := r.leave .localSentinel
    (r, ⟨.info, "sentinel sent, closing session", [("sentinel", r.sentinel)]⟩ :: events)
  else (r, [])

/-- Goes on with a line: sends what is left of it, if anything is. -/
def deliver (r : Outbound) (line : String) (d : Delivery) : Outbound × List Log.Event :=
  if d.isDone then r.complete line else ({ r with phase := .sending line d }, [])

def check (r : Outbound) (shuttingDown : Bool) : Outbound × List Log.Event :=
  match r.phase with
  | .holding line =>
    if shuttingDown then r.leave .cancelled
    else r.deliver line { data := Line.encode line }
  | _ => (r, [])

def answer (r : Outbound) (result : Except Fault Nat) : Outbound × List Log.Event :=
  match r.phase with
  | .sending line d =>
    match d.feed result with
    | .ok next =>
      let (r, events) := r.deliver line next
      (r, d.events result ++ events)
    -- Whether the fault is expected depends on the signal, which is read in a step of its own.
    | .error fault => ({ r with phase := .failing fault }, [])
  | _ => (r, [])

def judge (r : Outbound) (shuttingDown : Bool) : Outbound × List Log.Event :=
  match r.phase with
  | .failing fault =>
    let closure := Closure.classify fault.kind shuttingDown
    let event : Log.Event := match closure with
      | .expected => ⟨.debug, "outbound stream closed", [("error", fault.text)]⟩
      | .unexpected => ⟨.warn, "outbound stream failed", [("error", fault.text)]⟩
    let (r, events) := r.leave (.transport fault.kind closure)
    (r, event :: events)
  | _ => (r, [])

/-- What the next send call offers, while a line is being sent. -/
def offer? (r : Outbound) : Option Bytes :=
  match r.phase with
  | .sending _ d => some d.remaining
  | _ => none

def exit? (r : Outbound) : Option Exit :=
  match r.phase with
  | .leaving exit | .gone exit => some exit
  | _ => none

/-- Sends the line at hand over a scripted stream until it is out or has failed. Once the script is
over, one call takes all that is left. -/
def push (s : SendScript) (r : Outbound) : SendScript × Outbound × List Log.Event :=
  match r.offer? with
  | none => (s, r, [])
  | some data =>
    let (next, events) := r.answer (s.send data).1
    if _h : s.steps = [] then ((s.send data).2, next, events)
    else
      let (s', next, more) := push (s.send data).2 next
      (s', next, events ++ more)
termination_by s.steps.length
decreasing_by exact s.send_steps_lt _ _h

def runEvent (s : SendScript) (r : Outbound) (e : InputEvent) :
    SendScript × Outbound × List Log.Event :=
  let (r, taken) := r.take e
  let (r, checked) := r.check s.tripped
  let (s, r, pushed) := r.push s
  let (r, judged) := r.judge s.tripped
  (s, r, taken ++ checked ++ pushed ++ judged)

/-- Runs over a scripted stream with some input events at hand. When they are used up, the input is
at its end, or silent if it is still open. A tripped signal is seen before further input is. -/
def run (s : SendScript) (r : Outbound) (isOpen : Bool) :
    List InputEvent → SendScript × Outbound × List Log.Event
  | [] =>
    match r.phase with
    | .waiting =>
      if s.tripped then
        let (r, events) := r.cancel
        (s, r, events)
      else if isOpen then (s, r, [])
      else r.runEvent s .ended
    | _ => (s, r, [])
  | e :: rest =>
    match r.phase with
    | .waiting =>
      if s.tripped then
        let (r, events) := r.cancel
        (s, r, events)
      else
        let (s, r, events) := r.runEvent s e
        let (s, r, more) := run s r isOpen rest
        (s, r, events ++ more)
    | _ => (s, r, [])

end Outbound

end TextRelay
