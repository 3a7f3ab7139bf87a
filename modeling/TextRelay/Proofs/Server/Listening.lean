import TextRelay.Proofs.Host.Naming
import TextRelay.Proofs.Server.Calls

/-!
# Servers hold their listener while they are open

A server and its listener are moved separately, by three calls that can fail at several points each.
Whatever the system, the way sessions are started and all others do in between, the listener is
bound between two calls exactly while the server listens or is connected (`BoundInv.run`).
-/

namespace TextRelay

namespace AnyListener

/-- The socket that the listener holds, while it is bound. -/
def socket? : AnyListener → Option Nat
  | .port l => l.socket
  | .path l => l.socket

variable {l l' : AnyListener} {w w' : Host}

theorem socket?_of_bind (h : l.bind w = (.ok (), l', w')) : l'.socket?.isSome = true := by
  cases l with
  | port l =>
    rcases hbind : l.bind w with ⟨result, l₁, w₁⟩
    simp only [bind, hbind] at h
    cases h
    exact PortListener.socket_of_bind hbind
  | path l =>
    rcases hbind : l.bind w with ⟨result, l₁, w₁⟩
    simp only [bind, hbind] at h
    cases h
    cases LocalListener.of_bind hbind <;> rfl

theorem socket?_of_accept {result : Except Fault Nat} (h : l.accept w = some (result, l', w')) :
    l'.socket? = l.socket? := by
  cases l with
  | port l =>
    obtain ⟨⟨result₁, l₁, w₁⟩, haccept, heq⟩ := Option.map_eq_some_iff.1 h
    cases heq
    rw [PortListener.of_accept haccept]
  | path l =>
    obtain ⟨⟨result₁, l₁, w₁⟩, haccept, heq⟩ := Option.map_eq_some_iff.1 h
    cases heq
    rw [(LocalListener.of_accept haccept).1]

theorem of_close (h : l.close w = (l', w')) :
    l'.socket? = none ∧ ∀ id, l.socket? = some id → w'.isListening id = false := by
  cases l with
  | port l =>
    rcases hclose : l.close w with ⟨l₁, w₁⟩
    simp only [close, hclose] at h
    cases h
    exact PortListener.of_close hclose
  | path l =>
    rcases hclose : l.close w with ⟨l₁, w₁⟩
    simp only [close, hclose] at h
    cases h
    have hclosing := LocalListener.of_close hclose
    refine ⟨hclosing.socket_eq, fun id hid => ?_⟩
    change l.socket = some id at hid
    cases hclosing with
    | unbound hsocket =>
      rw [hsocket] at hid
      cases hid
    | released hsocket _ hlistening =>
      rw [hsocket] at hid
      cases hid
      simp [hlistening]

/-- Closing a listener that is not bound does nothing. -/
theorem close_unbound (hsocket : l.socket? = none) (w : Host) : l.close w = (l, w) := by
  cases l with
  | port l =>
    change l.socket = none at hsocket
    simp only [close, PortListener.close, hsocket]
  | path l =>
    change l.socket = none at hsocket
    simp only [close, LocalListener.close, hsocket]

end AnyListener

namespace Server

/-! ## What one call keeps -/

/-- A server between two calls. -/
structure BoundInv (s : Server AnyListener) : Prop where
  legal : s.history.Legal .idle
  bound : s.listener.socket?.isSome = true ↔ s.stage = .listening ∨ s.stage = .connected
  settled : s.stage ≠ .shuttingDown

/-- The server let go of its listener, and the socket that was held does not listen any more. -/
structure Released (s s' : Server AnyListener) (w' : Host) : Prop where
  unbound : s'.listener.socket? = none
  silent : ∀ id, s.listener.socket? = some id → w'.isListening id = false

variable {s s' : Server AnyListener} {w w' : Host} {call : Call Host} {answer : Answer}

theorem BoundInv.fresh {listener : AnyListener} (hfresh : listener.socket? = none)
    (settings : Settings) : BoundInv { listener, settings } := by
  refine ⟨.start .idle, ?_, Stage.noConfusion⟩
  show listener.socket?.isSome = true ↔ Stage.idle = .listening ∨ Stage.idle = .connected
  rw [hfresh]
  decide

/-- A server is held that was closed along an edge and let go of its listener. -/
theorem BoundInv.closed (h : BoundInv s) (hedge : s.stage.canAdvance .closed = true)
    {l : AnyListener} (hl : l.socket? = none) {log : List Log.Event} :
    BoundInv { s with listener := l, history := s.history.next .closed, log } := by
  refine ⟨h.legal.next hedge, ?_, Stage.noConfusion⟩
  show l.socket?.isSome = true ↔ Stage.closed = .listening ∨ Stage.closed = .connected
  rw [hl]
  decide

theorem BoundInv.step (h : BoundInv s) (hout : Outcome s w call answer s' w') : BoundInv s' := by
  cases hout with
  | bindRefused => exact h
  | acceptRefused => exact h
  | bound hstage hbind =>
    refine ⟨h.legal.next (by change s.stage.canAdvance _ = true; rw [hstage]; rfl), ?_,
      Stage.noConfusion⟩
    exact iff_of_true (AnyListener.socket?_of_bind hbind) (.inl rfl)
  | bindFailed hstage _ hclose =>
    exact h.closed (by rw [hstage]; rfl) (AnyListener.of_close hclose).1
  | acceptFailed hstage _ hclose =>
    exact h.closed (by rw [hstage]; rfl) (AnyListener.of_close hclose).1
  | startFailed hstage _ _ hclose =>
    exact h.closed (by rw [hstage]; rfl) (AnyListener.of_close hclose).1
  | began hstage haccept _ =>
    refine ⟨h.legal.next (by change s.stage.canAdvance _ = true; rw [hstage]; rfl), ?_,
      Stage.noConfusion⟩
    refine iff_of_true ?_ (.inr rfl)
    rw [AnyListener.socket?_of_accept haccept]
    exact h.bound.2 (.inl hstage)
  | finished hclose =>
    have hclosed := s.history.finished_current
    refine ⟨h.legal.finished h.settled, ?_, ?_⟩
    · change _ ↔ s.history.finished.current = _ ∨ s.history.finished.current = _
      rw [hclosed, (AnyListener.of_close hclose).1]
      decide
    · change s.history.finished.current ≠ _
      rw [hclosed]
      exact Stage.noConfusion

/-- The stages never go back. -/
theorem Outcome.code_le (hout : Outcome s w call answer s' w') : s.stage.code ≤ s'.stage.code := by
  cases hout with
  | bindRefused | acceptRefused => exact Nat.le_refl _
  | bound hstage | bindFailed hstage => rw [hstage]; exact Nat.zero_le _
  | acceptFailed hstage | startFailed hstage | began hstage =>
    rw [hstage]
    exact Nat.le_of_lt (Stage.code_lt_of_canAdvance rfl)
  | finished =>
    change _ ≤ s.history.finished.current.code
    rw [History.finished_current]
    cases s.stage <;> decide

theorem Outcome.of_isSession (hout : Outcome s w call answer s' w')
    (hsession : answer.isSession = true) : s.stage = .listening ∧ s'.stage = .connected := by
  cases hout with
  | began hstage => exact ⟨hstage, rfl⟩
  | _ => cases hsession

theorem Outcome.of_finish (hout : Outcome s w .finish answer s' w') : s'.stage = .closed := by
  cases hout
  exact s.history.finished_current

theorem Outcome.of_wrongStage {stage : Stage}
    (hout : Outcome s w call (.failed (.wrongStage stage)) s' w') :
    stage = s.stage ∧ s' = s ∧ w' = w := by
  cases hout with
  | bindRefused => exact ⟨rfl, rfl, rfl⟩
  | acceptRefused => exact ⟨rfl, rfl, rfl⟩
  | startFailed _ _ hstart _ => exact absurd rfl (Start.stageless _ hstart stage)

/-- An error other than a refusal leaves the server closed. -/
theorem Outcome.of_failed (h : BoundInv s) {e : RelayError}
    (hout : Outcome s w call (.failed e) s' w') (he : ∀ stage, e ≠ .wrongStage stage) :
    s'.stage = .closed ∧ Released s s' w' := by
  cases hout with
  | bindRefused => exact absurd rfl (he _)
  | acceptRefused => exact absurd rfl (he _)
  | bindFailed hstage _ hclose =>
    -- An idle server holds no socket that could be left open.
    refine ⟨rfl, (AnyListener.of_close hclose).1, fun id hid => ?_⟩
    have hopen := h.bound.1 (by rw [hid]; rfl)
    rw [hstage] at hopen
    exact absurd hopen (by decide)
  | acceptFailed _ haccept hclose =>
    refine ⟨rfl, (AnyListener.of_close hclose).1, fun id hid => ?_⟩
    rw [← AnyListener.socket?_of_accept haccept] at hid
    exact (AnyListener.of_close hclose).2 id hid
  | startFailed _ haccept _ hclose =>
    refine ⟨rfl, (AnyListener.of_close hclose).1, fun id hid => ?_⟩
    rw [← AnyListener.socket?_of_accept haccept] at hid
    exact (AnyListener.of_close hclose).2 id hid

/-! ## What a whole run keeps -/

/-- What can happen next: a call on the server, or a change of the medium by somebody else. -/
inductive Event (κ : Type) where
  | call (call : Call κ)
  | elsewhere (change : κ → κ)

/-- Lets events happen one after the other. A call that blocks has no result, and so has the run. -/
def run {ℓ κ : Type} [Listener ℓ κ] (s : Server ℓ) (w : κ) :
    List (Event κ) → Option (List Answer × Server ℓ × κ)
  | [] => some ([], s, w)
  | .elsewhere change :: rest => run s (change w) rest
  | .call call :: rest => (s.perform w call).bind fun (answer, s, w) =>
      (run s w rest).map fun (answers, s, w) => (answer :: answers, s, w)

theorem run_call {rest : List (Event Host)} {answers : List Answer}
    (h : run s w (.call call :: rest) = some (answers, s', w')) :
    ∃ answer s₁ w₁ others, Outcome s w call answer s₁ w₁ ∧
      run s₁ w₁ rest = some (others, s', w') ∧ answers = answer :: others := by
  obtain ⟨⟨answer, s₁, w₁⟩, hperform, h⟩ := Option.bind_eq_some_iff.1 h
  obtain ⟨⟨others, s₂, w₂⟩, hrun, h⟩ := Option.map_eq_some_iff.1 h
  cases h
  exact ⟨answer, s₁, w₁, others, of_perform hperform, hrun, rfl⟩

theorem BoundInv.run (h : BoundInv s) {events : List (Event Host)} {answers : List Answer}
    (hrun : s.run w events = some (answers, s', w')) : BoundInv s' := by
  induction events generalizing s w answers with
  | nil =>
    cases hrun
    exact h
  | cons event rest ih =>
    cases event with
    | elsewhere change => exact ih h hrun
    | call call =>
      obtain ⟨answer, s₁, w₁, others, hout, hrest, -⟩ := run_call hrun
      exact ih (h.step hout) hrest

theorem released_of_drop (s : Server AnyListener) (w : Host) :
    Released s (s.drop w).1 (s.drop w).2 := by
  rcases hclose : s.listener.close w with ⟨l, w'⟩
  rw [drop_eq hclose]
  exact ⟨(AnyListener.of_close hclose).1, (AnyListener.of_close hclose).2⟩

/-- Giving a server up does nothing once it was released. -/
theorem Released.drop (h : Released s s' w') : Released s (s'.drop w').1 (s'.drop w').2 := by
  rw [drop_eq (AnyListener.close_unbound h.unbound w')]
  exact h

theorem Outcome.released_of_finish (hout : Outcome s w .finish answer s' w') :
    Released s s' w' := by
  cases hout with
  | finished hclose => exact ⟨(AnyListener.of_close hclose).1, (AnyListener.of_close hclose).2⟩

/-- A call that ends in an error leaves nothing to be closed, or nothing but what was bound before.
-/
theorem Outcome.released_of_failed (h : BoundInv s) {e : RelayError}
    (hout : Outcome s w call (.failed e) s' w') : Released s (s'.drop w').1 (s'.drop w').2 := by
  by_cases hrefused : ∃ stage, e = .wrongStage stage
  · obtain ⟨stage, rfl⟩ := hrefused
    obtain ⟨-, rfl, rfl⟩ := hout.of_wrongStage
    exact released_of_drop _ _
  · exact (hout.of_failed h fun stage heq => hrefused ⟨stage, heq⟩).2.drop

theorem Outcome.settings_eq (hout : Outcome s w call answer s' w') : s'.settings = s.settings := by
  cases hout <;> rfl

end Server

end TextRelay
