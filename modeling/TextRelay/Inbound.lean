import TextRelay.Exit
import TextRelay.RelayError
import TextRelay.Script
import TextRelay.Sink
import TextRelay.Text.Chunk

/-!
# The inbound relay

Receives chunk after chunk and shows each as text, until the stream ends or fails. The relay is a
small machine: a receive call returns (`receive`), then what it returned is dealt with (`handle`).
The signal is read only in the second step, so it may be tripped between the two.

Nothing but the stream ends the relay: a chunk that is not text is shown lossily, a sink that
refuses a text is only complained about, and an interrupted call is made again. A sink that breaks
down takes the relay with it.
-/

namespace TextRelay

inductive Inbound.Phase where
  /-- About to receive, or blocked in it. -/
  | receiving
  /-- A receive call has returned. -/
  | handling (receipt : Except Fault Bytes)
  /-- Done, and not yet reported. -/
  | leaving (exit : Exit)
  | gone (exit : Exit)

structure Inbound where
  peer : String
  bufferSize : Nat
  sink : Sink
  bytes : Nat := 0
  phase : Inbound.Phase := .receiving

namespace Inbound

def maxBuffer : Nat := 0x7FFFFFFFFFFFFFFF

/-- A relay that asks for `chunkSize` bytes at a time, and for one where that is none. If no buffer
can be that large, the relay breaks down before it receives anything. -/
def start (peer : String) (sink : Sink) (chunkSize : Nat) : Inbound :=
  let bufferSize := max chunkSize 1
  let phase := if bufferSize ≤ maxBuffer then .receiving else .leaving (.panicked .inbound)
  { peer, bufferSize, sink, phase }

def leave (r : Inbound) (cause : Cause) : Inbound × List Log.Event :=
  let exit : Exit := ⟨.inbound, cause, r.bytes⟩
  ({ r with phase := .leaving exit }, [exit.finishedEvent])

def receive (r : Inbound) (receipt : Except Fault Bytes) : Inbound :=
  { r with phase := .handling receipt }

def showChunk (r : Inbound) (chunk : Bytes) : Inbound × List Log.Event :=
  let complaint := match Chunk.decode chunk with
    | .ok _ => []
    | .error e => [⟨.warn, "received chunk is not valid UTF-8, showing it lossily",
        [("error", e.message), ("truncated", toString e.truncated)]⟩]
  let r := { r with bytes := r.bytes + chunk.length }
  match r.sink.display (Chunk.shown chunk) with
  | (.shown, sink) => ({ r with sink, phase := .receiving }, complaint)
  | (.refused fault, sink) =>
    ({ r with sink, phase := .receiving },
      complaint ++ [⟨.warn, "failed to display received text", [("error", fault.text)]⟩])
  | (.broke, sink) => ({ r with sink, phase := .leaving (.panicked .inbound) }, complaint)

def endOfStream (r : Inbound) (shuttingDown : Bool) : Inbound × List Log.Event :=
  if shuttingDown then r.leave .cancelled
  else
    let (r, events) := r.leave .peerClosed
    (r, ⟨.info, "peer closed the connection", [("peer", r.peer)]⟩ :: events)

def failedStream (r : Inbound) (fault : Fault) (shuttingDown : Bool) : Inbound × List Log.Event :=
  let closure := Closure.classify fault.kind shuttingDown
  let fields := [("peer", r.peer), ("error", fault.text)]
  let event : Log.Event := match closure with
    | .expected => ⟨.debug, "inbound stream closed", fields⟩
    | .unexpected => ⟨.warn, "inbound stream failed", fields⟩
  let (r, events) := r.leave (.transport fault.kind closure)
  (r, event :: events)

def handle (r : Inbound) (shuttingDown : Bool) : Inbound × List Log.Event :=
  match r.phase with
  | .handling (.ok []) => r.endOfStream shuttingDown
  | .handling (.ok chunk) => r.showChunk chunk
  | .handling (.error fault) =>
    -- An interruption says nothing about the stream, and the call is made again.
    if fault.kind = .interrupted then ({ r with phase := .receiving }, [])
    else r.failedStream fault shuttingDown
  | _ => (r, [])

def exit? (r : Inbound) : Option Exit :=
  match r.phase with
  | .leaving exit | .gone exit => some exit
  | _ => none

def runFor : Nat → ReceiveScript → Inbound → ReceiveScript × Inbound × List Log.Event
  | 0, s, r => (s, r, [])
  | fuel + 1, s, r =>
    match r.phase with
    | .receiving =>
      let (receipt, s) := s.receive r.bufferSize
      let (r, events) := (r.receive receipt).handle s.tripped
      let (s, r, more) := runFor fuel s r
      (s, r, events ++ more)
    | _ => (s, r, [])

/-- How many receive calls a script can take: each step may be one, each byte may come alone, and
the end of the stream is one more. -/
def callBound (s : ReceiveScript) : Nat :=
  s.kept.length + (s.steps.flatMap ReceiveStep.bytes).length + s.steps.length + 1

def run (s : ReceiveScript) (r : Inbound) : ReceiveScript × Inbound × List Log.Event :=
  runFor (callBound s) s r

end Inbound

end TextRelay
