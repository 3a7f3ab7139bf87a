import TextRelay.Pipe

/-!
# Scenarios for a pipe

A list of steps on the handles of one pipe. One step may be put in the background: it goes as far as
it can, again after each of the steps in the foreground, until it is done.
-/

namespace TextRelay.Scenario

inductive PipeStep where
  | send (data : Bytes)
  | sendAll (delivery : Delivery)
  | receive (size : Nat)
  | shutdown
  | peer
  | clone
  | isClosed
  | limit (most : Nat)
  | drop
  deriving DecidableEq, Repr

inductive PipeReply where
  | done
  | sent (n : Nat)
  | received (data : Bytes)
  | named (peer : String)
  | handle (h : Nat)
  | closed (value : Bool)
  | failed (fault : Fault)
  /-- The handle was given up, or never made. -/
  | gone
  | blocked
  deriving DecidableEq, Repr

/-- How far a step got: it is done, or this is left of it. -/
inductive PipeProgress where
  | finished (reply : PipeReply) (p : Pipe)
  | stuck (left : PipeStep) (p : Pipe)

def PipeStep.proceed (h : Nat) (p : Pipe) : PipeStep → PipeProgress
  | .send data => match p.send h data with
    | some (.ok n, p) => .finished (.sent n) p
    | some (.error fault, p) => .finished (.failed fault) p
    | none => .stuck (.send data) p
  | .sendAll delivery => match Medium.sendAll h (delivery.data.length + 1) p delivery with
    | .ended (.ok ()) p => .finished .done p
    | .ended (.error fault) p => .finished (.failed fault) p
    | .blocked left p => .stuck (.sendAll left) p
  | .receive size => match (p.listen h).receive h size with
    | some (.ok data, p) => .finished (.received data) p
    | some (.error fault, p) => .finished (.failed fault) p
    | none => .stuck (.receive size) (p.listen h)
  | .shutdown => .finished .done p.close
  | .peer => .finished (.named (p.peer h)) p
  | .clone => .finished (.handle (p.clone h).1) (p.clone h).2
  | .isClosed => .finished (.closed p.isClosed) p
  | .limit most => .finished .done (p.limit h most)
  | .drop => .finished .done (p.drop h)

/-- Goes as far as possible with a step on a handle. A handle that is gone can be given up again,
and does nothing else. -/
def PipeStep.attempt (h : Nat) (p : Pipe) (step : PipeStep) : PipeProgress :=
  if (p.handles[h]?).any (·.isLive) || step = .drop then step.proceed h p else .finished .gone p

structure PipeBackground where
  handle : Nat
  state : PipeReply ⊕ PipeStep

def PipeBackground.resume (bg : PipeBackground) (p : Pipe) : PipeBackground × Pipe :=
  match bg.state with
  | .inl _ => (bg, p)
  | .inr step => match step.attempt bg.handle p with
    | .finished reply p => ({ bg with state := .inl reply }, p)
    | .stuck left p => ({ bg with state := .inr left }, p)

def PipeBackground.reply (bg : PipeBackground) : PipeReply :=
  match bg.state with
  | .inl reply => reply
  | .inr _ => .blocked

/-- Performs a step in front of the background: if it blocks, the background goes on first, and the
step is tried once more. -/
def PipeStep.perform (h : Nat) (bg : PipeBackground) (p : Pipe) (step : PipeStep) :
    PipeReply × PipeBackground × Pipe :=
  match step.attempt h p with
  | .finished reply p =>
    let (bg, p) := bg.resume p
    (reply, bg, p)
  | .stuck left p =>
    let (bg, p) := bg.resume p
    match left.attempt h p with
    | .finished reply p =>
      let (bg, p) := bg.resume p
      (reply, bg, p)
    | .stuck _ p => (.blocked, bg, p)

inductive PipeCommand where
  | step (h : Nat) (step : PipeStep)
  | parallel (background : Nat × PipeStep) (foreground : List (Nat × PipeStep))

inductive PipeOutcome where
  | step (reply : PipeReply)
  | parallel (background : PipeReply) (foreground : List PipeReply)

def foreground (bg : PipeBackground) (p : Pipe) :
    List (Nat × PipeStep) → List PipeReply × PipeBackground × Pipe
  | [] => ([], bg, p)
  | (h, step) :: rest =>
    let (reply, bg, p) := step.perform h bg p
    let (replies, bg, p) := foreground bg p rest
    (reply :: replies, bg, p)

def PipeCommand.perform (p : Pipe) : PipeCommand → PipeOutcome × Pipe
  | .step h one => match one.attempt h p with
    | .finished reply p => (.step reply, p)
    | .stuck _ p => (.step .blocked, p)
  | .parallel (h, one) fg =>
    let (bg, p) := PipeBackground.resume ⟨h, .inr one⟩ p
    let (replies, bg, p) := foreground bg p fg
    let (bg, p) := bg.resume p
    (.parallel bg.reply replies, p)

def PipeCommand.performAll (p : Pipe) : List PipeCommand → List PipeOutcome
  | [] => []
  | command :: rest =>
    let (outcome, p) := command.perform p
    outcome :: performAll p rest

end TextRelay.Scenario
