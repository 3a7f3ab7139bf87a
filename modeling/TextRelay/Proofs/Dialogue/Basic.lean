import TextRelay.Proofs.Pipe.Stream
import TextRelay.Session.Schedule

/-!
# Dialogues

Two sessions on the two ends of a pipe, in every order of events. A dialogue begins with the pipe
alone. From then on it takes one move at a time: at one of the ends the session is started, its
owner calls it, or one of its pump, relays and coordinator does what it can do next. A move that is
not enabled is not a move; a relay that is blocked waits until it is.

What passes is written down on the side: the bytes that send calls were told to be accepted, and the
bytes that receive calls returned.
-/

namespace TextRelay

open Pipe

/-- The number of the first handle of an end. -/
def Pipe.Side.stream : Side → Nat
  | a => 0
  | b => 1

/-- Limits the sends of an end, if that is asked for. -/
def Pipe.limitEnd (p : Pipe) (side : Side) : Option Nat → Pipe
  | some most => p.limit side.stream most
  | none => p

/-- A pipe that nothing was done to, except that the sends of an end may have been given a limit. -/
def Pipe.initial (capacity : Option Nat) (limits : Side → Option Nat) : Pipe :=
  (({ capacity } : Pipe).limitEnd .a (limits .a)).limitEnd .b (limits .b)

theorem Pipe.initial_eq (capacity : Option Nat) (limits : Side → Option Nat) :
    initial capacity limits = {
      capacity
      handles := [{ side := .a, limit := (limits .a).map (max · 1) },
        { side := .b, limit := (limits .b).map (max · 1) }] } := by
  unfold initial
  cases limits .a <;> cases limits .b <;> rfl

/-- What the session of an end is started with. -/
structure Dialogue.EndSpec where
  settings : Settings := {}
  source : Source
  sink : Sink := {}

/-- Starts the session of an end. -/
def Dialogue.EndSpec.enter (spec : EndSpec) (side : Side) (p : Pipe) :
    Except RelayError Session × Pipe :=
  Session.start spec.settings spec.source spec.sink side.stream p

/-- The things that can happen at an end. -/
inductive Dialogue.Move where
  /-- A session is started on the end. -/
  | start
  /-- Its owner closes it, waits for its end, or gives it up. -/
  | close
  | wait
  | drop
  /-- It goes on by itself. -/
  | act (action : Session.Action)
  deriving DecidableEq, Repr

/-- A pipe with the sessions on its ends. -/
structure Dialogue where
  pipe : Pipe
  session? : Side → Option Session := fun _ => none
  /-- The bytes that the sends of an end had accepted. -/
  accepted : Side → Bytes := fun _ => []
  /-- The bytes that the inbound relay of an end has received. -/
  received : Side → Bytes := fun _ => []

/-- What a session does in a move. -/
def Session.move (s : Session) (p : Pipe) : Dialogue.Move → Option (Session × Pipe)
  | .start => none
  | .close => s.callClose.map (·, p)
  | .wait => s.callWait.map (·, p)
  | .drop => s.callDrop.map (·, p)
  | .act action => s.step p action

/-- The bytes that a session gets rid of in a move. -/
def Session.sends (s : Session) (p : Pipe) : Dialogue.Move → Bytes
  | .act .send => match s.outbound.offer? with
    | some data => match p.send s.writer data with
      | some (answer, _) => taken data answer
      | none => []
    | none => []
  | _ => []

/-- The bytes that a session is given in a move. -/
def Session.receives (s : Session) (p : Pipe) : Dialogue.Move → Bytes
  | .act .receive => match p.receive s.reader s.inbound.bufferSize with
    | some (.ok data, _) => data
    | _ => []
  | _ => []

theorem Session.sends_eq_nil {action : Action} (haction : action ≠ .send) (s : Session) (p : Pipe) :
    s.sends p (.act action) = [] := by
  cases action with
  | send => exact absurd rfl haction
  | readInput | dropInput | receive | handle | reportInbound | takeInput | cancelInput
  | checkSignal | judgeFault | reportOutbound | takeFirst | trip | release | join => rfl

theorem Session.receives_eq_nil {action : Action} (haction : action ≠ .receive) (s : Session)
    (p : Pipe) : s.receives p (.act action) = [] := by
  cases action with
  | receive => exact absurd rfl haction
  | readInput | dropInput | send | handle | reportInbound | takeInput | cancelInput
  | checkSignal | judgeFault | reportOutbound | takeFirst | trip | release | join => rfl

namespace Dialogue

/-- Adds bytes to those of one end. -/
def append (bytes : Side → Bytes) (side : Side) (more : Bytes) : Side → Bytes :=
  fun x => if x = side then bytes x ++ more else bytes x

/-- The dialogue after a move at one end. -/
def update (d : Dialogue) (side : Side) (s : Session) (p : Pipe) (sent got : Bytes) : Dialogue where
  pipe := p
  session? x := if x = side then some s else d.session? x
  accepted := append d.accepted side sent
  received := append d.received side got

/-- Makes a move at one end, if it is enabled. -/
def step (specs : Side → EndSpec) (d : Dialogue) (side : Side) (move : Move) : Option Dialogue :=
  match d.session? side with
  | some s => (s.move d.pipe move).map fun (s', p) =>
      d.update side s' p (s.sends d.pipe move) (s.receives d.pipe move)
  | none => match move with
    | .start => match (specs side).enter side d.pipe with
      | (.ok s, p) => some (d.update side s p [] [])
      | (.error _, _) => none
    | _ => none

/-- Makes moves one after another, if each is enabled when its turn comes. -/
def run (specs : Side → EndSpec) : Dialogue → List (Side × Move) → Option Dialogue
  | d, [] => some d
  | d, (side, move) :: rest => (d.step specs side move).bind (run specs · rest)

/-! ## What a move is -/

variable {specs : Side → EndSpec} {d d' : Dialogue} {side : Side} {move : Move}

/-- A move starts a session where there is none, or is made by the session that is there. -/
theorem step_cases (h : d.step specs side move = some d') :
    (∃ s p, d.session? side = none ∧ move = .start ∧
      (specs side).enter side d.pipe = (.ok s, p) ∧ d' = d.update side s p [] []) ∨
    (∃ s s' p, d.session? side = some s ∧ s.move d.pipe move = some (s', p) ∧
      d' = d.update side s' p (s.sends d.pipe move) (s.receives d.pipe move)) := by
  unfold step at h
  split at h
  · next s hs =>
    obtain ⟨⟨s', p⟩, hmove, rfl⟩ := Option.map_eq_some_iff.1 h
    exact .inr ⟨s, s', p, hs, hmove, rfl⟩
  · next hs =>
    split at h
    · split at h
      · next s p hstart =>
        cases h
        exact .inl ⟨s, p, hs, rfl, hstart, rfl⟩
      · cases h
    · cases h

@[simp] theorem session?_update (d : Dialogue) (side : Side) (s : Session) (p : Pipe)
    (sent got : Bytes) : (d.update side s p sent got).session? side = some s :=
  if_pos rfl

theorem session?_update_of_ne (d : Dialogue) {x side : Side} (hx : x ≠ side) (s : Session)
    (p : Pipe) (sent got : Bytes) : (d.update side s p sent got).session? x = d.session? x :=
  if_neg hx

@[simp] theorem session?_update_other (d : Dialogue) (side : Side) (s : Session) (p : Pipe)
    (sent got : Bytes) :
    (d.update side s p sent got).session? side.other = d.session? side.other :=
  session?_update_of_ne d (Side.other_ne side) s p sent got

/-- What every move keeps, every run keeps. -/
theorem run_keeps {P : Dialogue → Prop}
    (hstep : ∀ {d d' side move}, P d → d.step specs side move = some d' → P d') :
    ∀ {moves d d'}, P d → run specs d moves = some d' → P d' := by
  intro moves
  induction moves with
  | nil =>
    intro d d' hd hrun
    cases hrun
    exact hd
  | cons first rest ih =>
    intro d d' hd hrun
    obtain ⟨d₁, hfirst, hrest⟩ := Option.bind_eq_some_iff.1 hrun
    exact ih (hstep hd hfirst) hrest

end Dialogue

end TextRelay
