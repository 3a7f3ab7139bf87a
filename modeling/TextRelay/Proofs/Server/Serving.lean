import TextRelay.Proofs.Server.Listening

/-!
# Serving one peer

To serve one peer takes a server several moves, and between any two of them others use the host: the
peer has to dial, and the session runs. `Step` says once what a move can come to. The listener is
bound from the first move on, and the last one releases it, wherever the run breaks off.
-/

namespace TextRelay

namespace Serving

section step_cases

variable {ℓ κ : Type} [Listener ℓ κ] [Medium κ]

/-- What can happen next: a move, or a change of the medium by somebody else. -/
inductive Event (κ : Type) where
  | move (move : Move)
  | elsewhere (change : κ → κ)

/-- Lets events happen one after the other, if each move is enabled when its turn comes. -/
def run (start : Nat → κ → Except RelayError Session × κ) (v : Serving ℓ) (w : κ) :
    List (Event κ) → Option (Serving ℓ × κ)
  | [] => some (v, w)
  | .elsewhere change :: rest => run start v (change w) rest
  | .move move :: rest => (v.step start w move).bind fun (v, w) => run start v w rest

variable {start : Nat → κ → Except RelayError Session × κ}

/-- What a move can come to. -/
inductive Step (start : Nat → κ → Except RelayError Session × κ) :
    Serving ℓ → κ → Move → Serving ℓ → κ → Prop where
  | bound {s s' : Server ℓ} {w w' : κ} (h : s.bind w = (.ok (), s', w')) :
    Step start (.binding s) w .bind (.accepting s') w'
  | unbound {s s' : Server ℓ} {w w' : κ} {e : RelayError} (h : s.bind w = (.error e, s', w')) :
    Step start (.binding s) w .bind (.done (s'.drop w').1 (.error e)) (s'.drop w').2
  | began {s s' : Server ℓ} {w w' : κ} {session : Session}
    (h : s.acceptBy start w = some (.ok session, s', w')) :
    Step start (.accepting s) w .accept (.relaying s' session) w'
  | failed {s s' : Server ℓ} {w w' : κ} {e : RelayError}
    (h : s.acceptBy start w = some (.error e, s', w')) :
    Step start (.accepting s) w .accept (.done (s'.drop w').1 (.error e)) (s'.drop w').2
  | waits {s : Server ℓ} {w : κ} {session session' : Session}
    (h : session.callWait = some session') :
    Step start (.relaying s session) w .wait (.relaying s session') w
  | relays {s : Server ℓ} {w w' : κ} {session session' : Session} {action : Session.Action}
    (h : session.step w action = some (session', w')) :
    Step start (.relaying s session) w (.relay action) (.relaying s session') w'
  | finishes {s s' : Server ℓ} {w w' : κ} {session : Session} {report : Report}
    (hreport : session.report? = some report) (h : s.finish w = (s', w')) :
    Step start (.relaying s session) w .finish
      (.done (s'.drop w').1 (.ok (report, session.inbound.sink))) (s'.drop w').2

theorem of_step {v v' : Serving ℓ} {w w' : κ} {move : Move}
    (h : v.step start w move = some (v', w')) : Step start v w move v' w' := by
  cases move with
  | bind =>
    cases v with
    | binding s =>
      rcases hbind : s.bind w with ⟨result, s₁, w₁⟩
      cases result with
      | ok _ =>
        simp only [step, hbind] at h
        cases h
        exact .bound hbind
      | error e =>
        simp only [step, hbind] at h
        cases h
        exact .unbound hbind
    | accepting | relaying | done => cases h
  | accept =>
    cases v with
    | accepting s =>
      obtain ⟨⟨result, s₁, w₁⟩, haccept, h⟩ := Option.map_eq_some_iff.1 h
      cases result with
      | ok session =>
        cases h
        exact .began haccept
      | error e =>
        cases h
        exact .failed haccept
    | binding | relaying | done => cases h
  | wait =>
    cases v with
    | relaying s session =>
      obtain ⟨session', hwait, h⟩ := Option.map_eq_some_iff.1 h
      cases h
      exact .waits hwait
    | binding | accepting | done => cases h
  | relay action =>
    cases v with
    | relaying s session =>
      obtain ⟨⟨session', w₁⟩, haction, h⟩ := Option.map_eq_some_iff.1 h
      cases h
      exact .relays haction
    | binding | accepting | done => cases h
  | finish =>
    cases v with
    | relaying s session =>
      obtain ⟨report, hreport, h⟩ := Option.map_eq_some_iff.1 h
      cases h
      exact .finishes hreport rfl
    | binding | accepting | done => cases h

end step_cases

open Server (BoundInv Released Start Outcome)

variable {s s' : Server AnyListener} {v v' : Serving AnyListener} {w w' : Host} {start : Start Host}
  {move : Move}

/-- How the server stands while it serves a peer. Once that is over its listener is not bound, and
the server is closed, unless it was refused to begin with. -/
def Inv (s : Server AnyListener) : Serving AnyListener → Prop
  | binding s' => s' = s
  | accepting s' => BoundInv s' ∧ s'.stage = .listening ∧ s'.settings = s.settings
  | relaying s' _ => BoundInv s' ∧ s'.stage = .connected
  | done s' result => s'.listener.socket? = none ∧
      (s'.stage = .closed ∨ s'.stages = s.stages ∧ result = .error (.wrongStage s.stage))

/-- Nothing holds the server up but others: it can bind, it can accept once there is a peer, and the
session goes on as it can until it reports. -/
def Enabled (start : Nat → Host → Except RelayError Session × Host) (w : Host)
    (v : Serving AnyListener) : Prop :=
  match v with
  | binding _ => (v.step start w .bind).isSome = true
  | accepting s => (Listener.accept s.listener w).isSome = true →
      (v.step start w .accept).isSome = true
  | relaying _ session =>
    (session.coordinator = .idle → (v.step start w .wait).isSome = true) ∧
    (∀ action, (session.step w action).isSome = true →
      (v.step start w (.relay action)).isSome = true) ∧
    (session.report?.isSome = true → (v.step start w .finish).isSome = true)
  | done .. => True

theorem Inv.step (hheld : BoundInv s) (hv : v.Inv s)
    (h : Step (start.run s.settings) v w move v' w') : v'.Inv s := by
  cases h with
  | bound hbind =>
    cases hv
    have hout := Server.of_bind hbind
    refine ⟨hheld.step hout, ?_, hout.settings_eq⟩
    cases hout
    rfl
  | unbound hbind =>
    cases hv
    have hout := Server.of_bind hbind
    refine ⟨(hout.released_of_failed hheld).unbound, ?_⟩
    cases hout with
    | bindRefused => exact .inr ⟨rfl, rfl⟩
    | bindFailed => exact .inl rfl
  | began haccept =>
    obtain ⟨hheld', -, hsettings⟩ := hv
    rw [← hsettings] at haccept
    have hout := Server.of_acceptBy haccept
    exact ⟨hheld'.step hout, (hout.of_isSession rfl).2⟩
  | failed haccept =>
    obtain ⟨hheld', hstage, hsettings⟩ := hv
    rw [← hsettings] at haccept
    have hout := Server.of_acceptBy haccept
    refine ⟨(hout.released_of_failed hheld').unbound, .inl ?_⟩
    cases hout with
    | acceptRefused hother => exact absurd hstage hother
    | acceptFailed | startFailed => rfl
  | waits => exact hv
  | relays => exact hv
  | @finishes s₁ s₂ _ w₁ _ _ _ hfinish =>
    have hout : Outcome s₁ w .finish .done s₂ w₁ :=
      Server.of_perform (by rw [Server.perform, hfinish])
    exact ⟨hout.released_of_finish.drop.unbound, .inl hout.of_finish⟩

theorem Inv.run (hheld : BoundInv s) {events : List (Event Host)} (hv : v.Inv s)
    (h : v.run (start.run s.settings) w events = some (v', w')) : v'.Inv s := by
  induction events generalizing v w with
  | nil =>
    cases h
    exact hv
  | cons event rest ih =>
    cases event with
    | elsewhere change => exact ih hv h
    | move move =>
      obtain ⟨⟨v₁, w₁⟩, hstep, hrest⟩ := Option.bind_eq_some_iff.1 h
      exact ih (hv.step hheld (of_step hstep)) hrest

/-- Wherever serving a peer comes to its end, the socket that was bound then is closed. -/
theorem Inv.released (hheld : BoundInv s) (hv : v.Inv s)
    (h : Step (start.run s.settings) v w move v' w') (hdone : v'.isDone = true) :
    Released v.server v'.server w' := by
  cases h with
  | bound | began | waits | relays => cases hdone
  | unbound hbind =>
    cases hv
    exact (Server.of_bind hbind).released_of_failed hheld
  | failed haccept =>
    obtain ⟨hheld', -, hsettings⟩ := hv
    rw [← hsettings] at haccept
    exact (Server.of_acceptBy haccept).released_of_failed hheld'
  | @finishes s₁ s₂ _ w₁ _ _ _ hfinish =>
    have hout : Outcome s₁ w .finish .done s₂ w₁ :=
      Server.of_perform (by rw [Server.perform, hfinish])
    exact hout.released_of_finish.drop

theorem Inv.enabled (hv : v.Inv s) (w : Host) : v.Enabled (start.run s.settings) w := by
  cases v with
  | binding s₁ =>
    simp only [Enabled, Serving.step]
    split <;> rfl
  | accepting s₁ =>
    obtain ⟨-, hstage, -⟩ := hv
    intro hpeer
    simpa [Serving.step, Server.acceptBy, hstage] using hpeer
  | relaying s₁ session =>
    refine ⟨fun hidle => ?_, fun action haction => ?_, fun hreport => ?_⟩
    · simp [Serving.step, Session.callWait, hidle]
    · simpa [Serving.step] using haction
    · simpa [Serving.step] using hreport
  | done => trivial

end Serving

namespace Server

/-- A peer dials the server. -/
def dialed (w : Host) : Host := (w.dialLocal "/r").2

def visited (settings : Settings) : Server AnyListener :=
  { listener := .path { path := "/r" }, settings }

/-- The input that the server's session is started with stays silent. -/
def silent : Start Host := .ofSession (.queue [] true) {}

end Server

end TextRelay
