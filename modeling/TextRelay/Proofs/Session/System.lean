import TextRelay.Proofs.Session.Coordination

/-!
# Sessions among others

A session is not alone: its owner calls it when it likes, others use the stream's medium and the
source of its input, and what it calls can break down. A system is a session with its medium, and a
run of it is any order of all these events, so that what holds of every run holds in every
interleaving and over every medium.

What the owner has called for and which relays have broken down is recorded on the side.
-/

namespace TextRelay

/-- Whether the sink breaks down over the chunk that the relay is about to show. -/
def Inbound.breaks (r : Inbound) : Bool :=
  match r.phase with
  | .handling (.ok (byte :: rest)) =>
    r.sink.verdict r.sink.offered.length (Chunk.shown (byte :: rest)) = .broke
  | _ => false

/-- The things that can happen to a session. -/
inductive Session.Event (κ : Type) where
  /-- Its owner closes it, waits for its end, or gives it up. -/
  | close
  | wait
  | drop
  /-- It goes on by itself. -/
  | act (action : Session.Action)
  /-- A call that a relay makes on its stream breaks down. -/
  | crash (direction : Direction)
  /-- Others use the medium. -/
  | elsewhere (change : κ → κ)
  /-- Others use the source of the input. -/
  | input (change : Source → Source)

namespace Session

variable {κ : Type}

/-- A relay breaks down in a call on its stream. -/
def crash (s : Session) : Direction → Option Session
  | .inbound => match s.inbound.phase with
    | .receiving =>
      some { s with inbound := { s.inbound with phase := .leaving (.panicked .inbound) } }
    | _ => none
  | .outbound => match s.outbound.phase with
    | .sending _ _ =>
      some { s with outbound := { s.outbound with phase := .leaving (.panicked .outbound) } }
    | _ => none

/-- The calls that the owner of a session can make. -/
inductive Call where
  | close
  | wait
  | drop
  deriving DecidableEq

def Event.call? : Event κ → Option Call
  | close => some .close
  | wait => some .wait
  | drop => some .drop
  | _ => none

def breakdowns (s : Session) : Event κ → List Direction
  | .crash direction => [direction]
  | .act .handle => if s.inbound.breaks then [.inbound] else []
  | _ => []

/-- What an event does to a session and its medium, if it is enabled. -/
def undergo [Medium κ] (s : Session) (w : κ) : Event κ → Option (Session × κ)
  | .close => s.callClose.map (·, w)
  | .wait => s.callWait.map (·, w)
  | .drop => s.callDrop.map (·, w)
  | .act action => s.step w action
  | .crash direction => (s.crash direction).map (·, w)
  | .elsewhere change => some (s, change w)
  | .input change => some ({ s with pump := { s.pump with source := change s.pump.source } }, w)

/-- A session, its medium, and what is recorded about them. -/
structure System (κ : Type) where
  session : Session
  medium : κ
  /-- Whether the owner has called for a close, has begun to wait, has given the session up. -/
  closed : Bool := false
  waited : Bool := false
  dropped : Bool := false
  /-- The relays that have broken down. -/
  broken : List Direction := []

namespace System

/-- The system of a session that has just started. A relay whose buffer cannot be had is broken from
the beginning. -/
def init (s : Session) (w : κ) : System κ where
  session := s
  medium := w
  broken := if s.inbound.bufferSize ≤ Inbound.maxBuffer then [] else [.inbound]

def step [Medium κ] (c : System κ) (event : Event κ) : Option (System κ) :=
  (c.session.undergo c.medium event).map fun (session, medium) =>
    { session, medium
      closed := c.closed || event.call? = some .close
      waited := c.waited || event.call? = some .wait
      dropped := c.dropped || event.call? = some .drop
      broken := c.session.breakdowns event ++ c.broken }

/-- Lets events happen one after another, if each is enabled when its turn comes. -/
def run [Medium κ] : System κ → List (Event κ) → Option (System κ)
  | c, [] => some c
  | c, event :: rest => (c.step event).bind (run · rest)

/-- Starts a session, and lets events happen to it. -/
def exec [Medium κ] (settings : Settings) (source : Source) (sink : Sink) (stream : Nat) (w : κ)
    (events : List (Event κ)) : Option (System κ) :=
  match Session.start settings source sink stream w with
  | (.ok s, w) => (init s w).run events
  | (.error _, _) => none

variable [Medium κ] {c c' : System κ} {event : Event κ}

theorem of_exec {settings : Settings} {source : Source} {sink : Sink} {stream : Nat} {w : κ}
    {events : List (Event κ)} (h : exec settings source sink stream w events = some c) :
    ∃ s w', Session.start settings source sink stream w = (.ok s, w') ∧
      (init s w').run events = some c := by
  unfold exec at h
  split at h
  · next s w' hstart => exact ⟨s, w', hstart, h⟩
  · cases h

theorem of_step (h : c.step event = some c') :
    c.session.undergo c.medium event = some (c'.session, c'.medium) ∧
      c'.closed = (c.closed || event.call? = some .close) ∧
      c'.broken = c.session.breakdowns event ++ c.broken := by
  obtain ⟨⟨session, medium⟩, hundergo, rfl⟩ := Option.map_eq_some_iff.1 h
  exact ⟨hundergo, rfl, rfl⟩

theorem calls_of_step (h : c.step event = some c') :
    c'.waited = (c.waited || event.call? = some .wait) ∧
      c'.dropped = (c.dropped || event.call? = some .drop) := by
  obtain ⟨⟨session, medium⟩, -, rfl⟩ := Option.map_eq_some_iff.1 h
  exact ⟨rfl, rfl⟩

/-- A step that the session can take happens in its system. -/
theorem step_act {action : Action} {s' : Session} {w' : κ}
    (h : c.session.step c.medium action = some (s', w')) :
    ∃ c', c.step (.act action) = some c' ∧ c'.session = s' := by
  have henabled : (c.step (.act action)).isSome := by simp [step, undergo, h]
  obtain ⟨c', hstep⟩ := Option.isSome_iff_exists.1 henabled
  have hsame := (of_step hstep).1.symm.trans h
  exact ⟨c', hstep, congrArg Prod.fst (Option.some.inj hsame)⟩

/-- What every event of a run keeps holds after the run. -/
theorem run_keeps {P : System κ → Prop} {events : List (Event κ)}
    (hstep : ∀ event ∈ events, ∀ c c', P c → c.step event = some c' → P c')
    (hc : P c) (hrun : c.run events = some c') : P c' := by
  induction events generalizing c with
  | nil =>
    cases hrun
    exact hc
  | cons event rest ih =>
    obtain ⟨c₁, hfirst, hrest⟩ := Option.bind_eq_some_iff.1 hrun
    exact ih (fun event hmem => hstep event (List.mem_cons_of_mem _ hmem))
      (hstep event List.mem_cons_self c c₁ hc hfirst) hrest

end System

theorem of_crash {s s' : Session} {direction : Direction} (h : s.crash direction = some s') :
    (direction = .inbound ∧ s.inbound.phase = .receiving ∧
      s' = { s with inbound := { s.inbound with phase := .leaving (.panicked .inbound) } }) ∨
    (direction = .outbound ∧ (∃ line d, s.outbound.phase = .sending line d) ∧
      s' = { s with outbound := { s.outbound with phase := .leaving (.panicked .outbound) } }) := by
  unfold crash at h
  split at h
  · split at h
    · next hphase =>
      cases h
      exact .inl ⟨rfl, hphase, rfl⟩
    · cases h
  · split at h
    · next line d hphase =>
      cases h
      exact .inr ⟨rfl, ⟨line, d, hphase⟩, rfl⟩
    · cases h

end Session

end TextRelay
