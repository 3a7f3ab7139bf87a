import TextRelay.Proofs.History
import TextRelay.Server

/-!
# Calls on a server

The owner of a server binds it, lets it accept and finishes it, in any order and as often as it
likes; in between, others change the medium as they like. `Outcome` says once what a call can come
to: which calls it makes on the listener, and what becomes of the history. What is proved of servers
is proved outcome by outcome.
-/

namespace TextRelay

/-- The history of a server that is finished. -/
def History.finished (h : History) : History :=
  match h.current with
  | .connected => (h.next .shuttingDown).next .closed
  | .closed => h
  | _ => h.next .closed

theorem History.finished_current (h : History) : h.finished.current = .closed := by
  unfold finished
  split
  · rfl
  · assumption
  · rfl

theorem History.Legal.finished {initial : Stage} {h : History} (hlegal : h.Legal initial)
    (hsettled : h.current ≠ .shuttingDown) : h.finished.Legal initial := by
  unfold History.finished
  split
  · next hconnected => exact (hlegal.next (by rw [hconnected]; rfl)).next rfl
  · exact hlegal
  · next hconnected hclosed =>
    refine hlegal.next ?_
    revert hconnected hclosed hsettled
    cases h.current <;> simp [Stage.canAdvance]

theorem Settings.of_validate_error {settings : Settings} {e : RelayError}
    (h : settings.validate = .error e) : ∃ reason, e = .settings reason := by
  unfold validate at h
  split at h
  · cases h
    exact ⟨_, rfl⟩
  · split at h
    · cases h
      exact ⟨_, rfl⟩
    · split at h
      · cases h
        exact ⟨_, rfl⟩
      · cases h

theorem Session.of_start_error {κ : Type} [Medium κ] {settings : Settings} {source : Source}
    {sink : Sink} {stream : Nat} {w w' : κ} {e : RelayError}
    (h : Session.start settings source sink stream w = (.error e, w')) :
    (∃ reason, e = .settings reason) ∨ ∃ fault, e = .transport fault := by
  unfold Session.start at h
  split at h
  · next hinvalid =>
    cases h
    exact .inl (Settings.of_validate_error hinvalid)
  · split at h
    · cases h
      exact .inr ⟨_, rfl⟩
    · split at h
      · cases h
        exact .inr ⟨_, rfl⟩
      · cases h

namespace Server

variable {κ : Type}

/-- A way to start a session on an accepted stream. It may fail for reasons of its own, but knows
nothing of the server's stage. -/
structure Start (κ : Type) where
  run : Settings → Nat → κ → Except RelayError Session × κ
  stageless : ∀ {settings stream w e w'}, run settings stream w = (.error e, w') →
    ∀ stage, e ≠ .wrongStage stage

inductive Call (κ : Type) where
  | bind
  | accept (start : Start κ)
  | finish

inductive Answer where
  | done
  | began (session : Session)
  | failed (e : RelayError)

namespace Answer

def isSession : Answer → Bool
  | began _ => true
  | _ => false

def ofBind : Except RelayError Unit → Answer
  | .ok () => done
  | .error e => failed e

def ofAccept : Except RelayError Session → Answer
  | .ok session => began session
  | .error e => failed e

end Answer

/-- The way in which sessions are really started. -/
def Start.ofSession [Medium κ] (source : Source) (sink : Sink) : Start κ where
  run settings := Session.start settings source sink
  stageless := by
    intro settings stream w e w' h stage
    obtain ⟨reason, rfl⟩ | ⟨fault, rfl⟩ := Session.of_start_error h
    · exact RelayError.noConfusion
    · exact RelayError.noConfusion

variable {ℓ : Type} [Listener ℓ κ]

/-- Makes a call on a server. An accept blocks while there is no peer. -/
def perform (s : Server ℓ) (w : κ) : Call κ → Option (Answer × Server ℓ × κ)
  | .bind => some (.ofBind (s.bind w).1, (s.bind w).2)
  | .accept start => (s.acceptBy (start.run s.settings) w).map fun (result, s, w) =>
      (.ofAccept result, s, w)
  | .finish => some (.done, s.finish w)

/-- What a call on a server can come to. -/
inductive Outcome (s : Server ℓ) (w : κ) : Call κ → Answer → Server ℓ → κ → Prop where
  | bindRefused (hstage : s.stage ≠ .idle) :
    Outcome s w .bind (.failed (.wrongStage s.stage)) s w
  | acceptRefused {start : Start κ} (hstage : s.stage ≠ .listening) :
    Outcome s w (.accept start) (.failed (.wrongStage s.stage)) s w
  | bound {l : ℓ} {w' : κ} {log : List Log.Event} (hstage : s.stage = .idle)
    (hbind : Listener.bind s.listener w = (.ok (), l, w')) :
    Outcome s w .bind .done
      { s with listener := l, history := s.history.next .listening, log } w'
  | bindFailed {fault : Fault} {l l' : ℓ} {w₁ w' : κ} {log : List Log.Event}
    (hstage : s.stage = .idle) (hbind : Listener.bind s.listener w = (.error fault, l, w₁))
    (hclose : Listener.close l w₁ = (l', w')) :
    Outcome s w .bind (.failed (.bind (Listener.describe l w₁) fault))
      { s with listener := l', history := s.history.next .closed, log } w'
  | acceptFailed {start : Start κ} {fault : Fault} {l l' : ℓ} {w₁ w' : κ} {log : List Log.Event}
    (hstage : s.stage = .listening)
    (haccept : Listener.accept s.listener w = some (.error fault, l, w₁))
    (hclose : Listener.close l w₁ = (l', w')) :
    Outcome s w (.accept start) (.failed (.accept (Listener.describe l w₁) fault))
      { s with listener := l', history := s.history.next .closed, log } w'
  | startFailed {start : Start κ} {stream : Nat} {e : RelayError} {l l' : ℓ} {w₁ w₂ w' : κ}
    {log : List Log.Event} (hstage : s.stage = .listening)
    (haccept : Listener.accept s.listener w = some (.ok stream, l, w₁))
    (hstart : start.run s.settings stream w₁ = (.error e, w₂))
    (hclose : Listener.close l w₂ = (l', w')) :
    Outcome s w (.accept start) (.failed e)
      { s with listener := l', history := s.history.next .closed, log } w'
  | began {start : Start κ} {stream : Nat} {session : Session} {l : ℓ} {w₁ w' : κ}
    {log : List Log.Event} (hstage : s.stage = .listening)
    (haccept : Listener.accept s.listener w = some (.ok stream, l, w₁))
    (hstart : start.run s.settings stream w₁ = (.ok session, w')) :
    Outcome s w (.accept start) (.began session)
      { s with listener := l, history := s.history.next .connected, log } w'
  | finished {l : ℓ} {w' : κ} {log : List Log.Event}
    (hclose : Listener.close s.listener w = (l, w')) :
    Outcome s w .finish .done { s with listener := l, history := s.history.finished, log } w'

variable {s s' : Server ℓ} {w w' : κ}

theorem enter_eq (stage : Stage) (hedge : s.stage.canAdvance stage = true) :
    ∃ log, s.enter stage = { s with history := s.history.next stage, log } := by
  refine ⟨s.log ++ (s.history.enter stage).2, ?_⟩
  rw [← History.enter_of_edge hedge]
  rfl

/-- Releasing a server closes its listener, and the server too if there is an edge to that. -/
theorem release_eq (hstage : s.stage.canAdvance .closed = true) {l : ℓ}
    (hclose : Listener.close s.listener w = (l, w')) :
    ∃ log, s.release w =
      ({ s with listener := l, history := s.history.next .closed, log }, w') := by
  obtain ⟨log, henter⟩ := enter_eq (s := { s with listener := l }) .closed hstage
  refine ⟨log, ?_⟩
  have hopen : Stage.isTerminal (stage { s with listener := l }) = false := by
    change s.stage.isTerminal = false
    revert hstage
    cases s.stage <;> decide
  simp only [release, hclose, hopen, Bool.false_eq_true, if_false, henter]

theorem finish_eq {l : ℓ} (hclose : Listener.close s.listener w = (l, w')) :
    ∃ log, s.finish w =
      ({ s with listener := l, history := s.history.finished, log }, w') := by
  unfold finish History.finished
  by_cases hconnected : s.stage = .connected
  · obtain ⟨log₁, hfirst⟩ := enter_eq (s := s) .shuttingDown (by rw [hconnected]; rfl)
    rw [if_pos hconnected, hfirst, show s.history.current = .connected from hconnected]
    obtain ⟨log, hsecond⟩ := release_eq
      (s := { s with history := s.history.next .shuttingDown, log := log₁ }) rfl hclose
    exact ⟨log, hsecond⟩
  · rw [if_neg hconnected]
    by_cases hclosed : s.stage = .closed
    · refine ⟨s.log, ?_⟩
      have hterminal : Stage.isTerminal (stage { s with listener := l }) = true := by
        show s.stage.isTerminal = true
        rw [hclosed]
        rfl
      rw [show s.history.current = .closed from hclosed]
      simp only [release, hclose, hterminal, if_true]
    · have hedge : s.stage.canAdvance .closed = true := by
        revert hconnected hclosed
        cases s.stage <;> decide
      obtain ⟨log, hrelease⟩ := release_eq hedge hclose
      refine ⟨log, ?_⟩
      rw [hrelease]
      change s.history.current ≠ _ at hconnected hclosed
      split <;> first | contradiction | rfl

theorem drop_eq {l : ℓ} (hclose : Listener.close s.listener w = (l, w')) :
    s.drop w = ({ s with listener := l }, w') := by
  simp only [drop, hclose]

theorem of_bind {result : Except RelayError Unit} (h : s.bind w = (result, s', w')) :
    Outcome s w .bind (.ofBind result) s' w' := by
  unfold bind at h
  split at h
  · next hstage =>
    split at h
    · next l w₁ hbind =>
      obtain ⟨log, henter⟩ := enter_eq (s := { s with listener := l }) .listening
        (by show s.stage.canAdvance _ = true; rw [hstage]; rfl)
      rw [henter] at h
      cases h
      exact .bound hstage hbind
    · next fault l w₁ hbind =>
      rcases hclose : Listener.close l w₁ with ⟨l', w₂⟩
      obtain ⟨log, hrelease⟩ := release_eq (s := { s with listener := l })
        (by show s.stage.canAdvance _ = true; rw [hstage]; rfl) hclose
      rw [hrelease] at h
      cases h
      exact .bindFailed hstage hbind hclose
  · next hstage =>
    cases h
    exact .bindRefused hstage

theorem of_acceptBy {start : Start κ} {result : Except RelayError Session}
    (h : s.acceptBy (start.run s.settings) w = some (result, s', w')) :
    Outcome s w (.accept start) (.ofAccept result) s' w' := by
  unfold acceptBy at h
  split at h
  · next hstage =>
    obtain ⟨⟨answer, l, w₁⟩, haccept, h⟩ := Option.map_eq_some_iff.1 h
    cases answer with
    | error fault =>
      rcases hclose : Listener.close l w₁ with ⟨l', w₂⟩
      obtain ⟨log, hrelease⟩ := release_eq (s := { s with listener := l })
        (by show s.stage.canAdvance _ = true; rw [hstage]; rfl) hclose
      simp only [hrelease] at h
      cases h
      exact .acceptFailed hstage haccept hclose
    | ok stream =>
      dsimp only at h
      split at h
      · next e w₂ hstart =>
        rcases hclose : Listener.close l w₂ with ⟨l', w₃⟩
        obtain ⟨log, hrelease⟩ := release_eq (s := { s with listener := l })
          (by show s.stage.canAdvance _ = true; rw [hstage]; rfl) hclose
        simp only [hrelease] at h
        cases h
        exact .startFailed hstage haccept hstart hclose
      · next session w₂ hstart =>
        obtain ⟨log, henter⟩ := enter_eq
          (s := logEvent { s with listener := l } ⟨.info, "peer connected",
            [("peer", session.peer)]⟩)
          .connected (by show s.stage.canAdvance _ = true; rw [hstage]; rfl)
        rw [henter] at h
        cases h
        exact .began hstage haccept hstart
  · next hstage =>
    cases h
    exact .acceptRefused hstage

/-- Every call comes to one of the outcomes. -/
theorem of_perform {call : Call κ} {answer : Answer}
    (h : s.perform w call = some (answer, s', w')) : Outcome s w call answer s' w' := by
  cases call with
  | bind =>
    rcases hbind : s.bind w with ⟨result, s₁, w₁⟩
    simp only [perform, hbind] at h
    cases h
    exact of_bind hbind
  | accept start =>
    obtain ⟨⟨result, s₁, w₁⟩, haccept, h⟩ := Option.map_eq_some_iff.1 h
    cases h
    exact of_acceptBy haccept
  | finish =>
    rcases hclose : Listener.close s.listener w with ⟨l, w₁⟩
    obtain ⟨log, hfinish⟩ := finish_eq hclose
    simp only [perform, hfinish] at h
    cases h
    exact .finished hclose

end Server

end TextRelay
