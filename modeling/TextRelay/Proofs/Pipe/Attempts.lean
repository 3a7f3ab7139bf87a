import TextRelay.Proofs.Pipe.Operations
import TextRelay.Scenario.Pipe

/-!
# Any order of steps on a pipe

`attempts` carries out a list of steps on the handles of a pipe, in whatever order they are given.
A step that blocks goes as far as it can: a delivery has sent some of its chunks, and a receive
call is waiting. What is left of it may be attempted again at any later place of the list.

What all operations keep, every such list keeps (`Preserved.attempts`).
-/

namespace TextRelay

namespace Pipe

/-- The handle was made and not given up. -/
def IsLive (p : Pipe) (h : Nat) : Prop :=
  ∃ handle, p.handles[h]? = some handle ∧ handle.isLive = true

theorem isLive_iff_any {p : Pipe} {h : Nat} :
    p.IsLive h ↔ (p.handles[h]?).any (·.isLive) = true := by
  cases hget : p.handles[h]? <;> simp [IsLive, hget]

theorem IsLive.isHeld {p : Pipe} {h : Nat} {handle : Handle} (hlive : p.IsLive h)
    (hget : p.handles[h]? = some handle) : p.isHeld handle.side = true := by
  obtain ⟨handle', hget', hlive'⟩ := hlive
  rw [hget] at hget'
  cases hget'
  exact isHeld_iff.2 ⟨h, handle, hget, hlive', rfl⟩

/-- Replacing a handle by one that is as alive. -/
theorem IsLive.setHandle {p : Pipe} {h j : Nat} {old new : Handle} (hp : p.IsLive h)
    (hold : p.handles[j]? = some old) (hlive : new.isLive = old.isLive) :
    (p.setHandle j new).IsLive h := by
  obtain ⟨handle, hget, hl⟩ := hp
  by_cases hjh : h = j
  · subst hjh
    rw [hold] at hget
    cases hget
    exact ⟨new, by simp [getElem?_setHandle hold], hlive.trans hl⟩
  · exact ⟨handle, by simp [getElem?_setHandle hold, hjh, hget], hl⟩

theorem IsLive.send {p p' : Pipe} {h j : Nat} {data : Bytes} {answer : Except Fault Nat}
    (hp : p.IsLive h) (hsend : p.send j data = some (answer, p')) : p'.IsLive h := by
  obtain ⟨-, rfl⟩ | ⟨-, rfl⟩ | ⟨handle, -, -, -, -, -, hpush⟩ := send_cases hsend
  · exact hp
  · exact hp
  · obtain ⟨-, -, rfl⟩ | ⟨-, k, waiting, -, hget, -, -, -, -, rfl⟩ := push_cases hpush
    · simpa [IsLive] using hp
    · exact hp.setHandle hget rfl

end Pipe

namespace Medium

variable {κ : Type} [Medium κ]

/-- The medium as a delivery leaves it. -/
def Sending.after : Sending κ → κ
  | ended _ w => w
  | blocked _ w => w

/-- What every send call of a handle keeps, a whole delivery keeps. -/
theorem sendAll_keeps {P : κ → Prop} {h : Nat}
    (hsend : ∀ {w w' : κ} {data : Bytes} {answer : Except Fault Nat},
      P w → send w h data = some (answer, w') → P w') :
    ∀ (fuel : Nat) (w : κ) (d : Delivery), P w → P (sendAll h fuel w d).after := by
  intro fuel
  induction fuel with
  | zero => exact fun w d hw => hw
  | succ fuel ih =>
    intro w d hw
    unfold sendAll
    split
    · exact hw
    · cases hs : send w h d.remaining with
      | none => exact hw
      | some result =>
        obtain ⟨answer, w'⟩ := result
        have hw' : P w' := hsend hw hs
        dsimp only
        cases d.feed answer with
        | error fault => exact hw'
        | ok next => exact ih w' next hw'

end Medium

namespace Scenario

open Pipe

/-- The pipe as a step leaves it, whether it is done or not. -/
def PipeProgress.pipe : PipeProgress → Pipe
  | finished _ p => p
  | stuck _ p => p

/-- The pipe after some steps, each as far as it could go. -/
def attempts (p : Pipe) : List (Nat × PipeStep) → Pipe
  | [] => p
  | (h, step) :: rest => attempts (step.attempt h p).pipe rest

/-- What all operations keep that handles allow for: those that were given up can only be given up
again. -/
structure Preserved (P : Pipe → Prop) : Prop where
  send : ∀ {p p' : Pipe} {h : Nat} {data : Bytes} {answer : Except Fault Nat},
    P p → p.IsLive h → p.send h data = some (answer, p') → P p'
  receive : ∀ {p p' : Pipe} {h size : Nat} {answer : Except Fault Bytes},
    P p → p.receive h size = some (answer, p') → P p'
  listen : ∀ {p : Pipe} (h : Nat), P p → P (p.listen h)
  clone : ∀ {p : Pipe} {h : Nat}, P p → p.IsLive h → P (p.clone h).2
  close : ∀ {p : Pipe}, P p → P p.close
  limit : ∀ {p : Pipe} (h most : Nat), P p → P (p.limit h most)
  drop : ∀ {p : Pipe} (h : Nat), P p → P (p.drop h)

namespace Preserved

variable {P : Pipe → Prop}

theorem sendAll (hP : Preserved P) {h : Nat} (fuel : Nat) {p : Pipe} (d : Delivery) (hp : P p)
    (hlive : p.IsLive h) : P (Medium.sendAll h fuel p d).after := by
  refine (Medium.sendAll_keeps (P := fun p : Pipe => P p ∧ p.IsLive h) ?_ fuel p d
    ⟨hp, hlive⟩).1
  intro w w' data answer hw hsend
  exact ⟨hP.send hw.1 hw.2 hsend, hw.2.send hsend⟩

theorem attempt (hP : Preserved P) {p : Pipe} (h : Nat) (step : PipeStep) (hp : P p) :
    P (step.attempt h p).pipe := by
  unfold PipeStep.attempt
  split
  · next hcond =>
    -- dropping is the one thing that a handle needs not be alive for
    have hlive : step ≠ .drop → p.IsLive h := by
      intro hne
      simpa [isLive_iff_any, hne] using hcond
    cases step with
    | send data =>
      cases hs : p.send h data with
      | none => simpa [PipeStep.proceed, hs, PipeProgress.pipe] using hp
      | some result =>
        obtain ⟨answer, p'⟩ := result
        have hp' : P p' := hP.send hp (hlive (by simp)) hs
        cases answer <;> simpa [PipeStep.proceed, hs, PipeProgress.pipe] using hp'
    | sendAll d =>
      have hp' := hP.sendAll (d.data.length + 1) d hp (hlive (by simp))
      cases hs : Medium.sendAll h (d.data.length + 1) p d with
      | ended result p' =>
        rw [hs] at hp'
        cases result <;>
          simpa [PipeStep.proceed, hs, PipeProgress.pipe, Medium.Sending.after] using hp'
      | blocked left p' =>
        rw [hs] at hp'
        simpa [PipeStep.proceed, hs, PipeProgress.pipe, Medium.Sending.after] using hp'
    | receive size =>
      cases hr : (p.listen h).receive h size with
      | none => simpa [PipeStep.proceed, hr, PipeProgress.pipe] using hP.listen h hp
      | some result =>
        obtain ⟨answer, p'⟩ := result
        have hp' : P p' := hP.receive (hP.listen h hp) hr
        cases answer <;> simpa [PipeStep.proceed, hr, PipeProgress.pipe] using hp'
    | shutdown => exact hP.close hp
    | peer => exact hp
    | clone => exact hP.clone hp (hlive (by simp))
    | isClosed => exact hp
    | limit most => exact hP.limit h most hp
    | drop => exact hP.drop h hp
  · exact hp

theorem attempts (hP : Preserved P) {p : Pipe} (steps : List (Nat × PipeStep)) (hp : P p) :
    P (attempts p steps) := by
  induction steps generalizing p with
  | nil => exact hp
  | cons x rest ih => exact ih (hP.attempt x.1 x.2 hp)

end Preserved

/-- Every pipe that steps lead to is sound. -/
theorem sound_attempts (capacity : Option Nat) (steps : List (Nat × PipeStep)) :
    (attempts { capacity } steps).Sound :=
  Preserved.attempts
    { send := fun hp _ hsend => hp.send hsend
      receive := fun hp hreceive => hp.receive hreceive
      listen := fun h hp => hp.listen h
      clone := fun hp _ => hp.clone _
      close := fun hp => hp.close
      limit := fun h most hp => hp.limit h most
      drop := fun h hp => hp.drop h }
    steps (.fresh capacity)

theorem capacity_attempts (p : Pipe) (steps : List (Nat × PipeStep)) :
    (attempts p steps).capacity = p.capacity :=
  Preserved.attempts (P := fun q : Pipe => q.capacity = p.capacity)
    { send := fun hp _ hsend => (send_keeps hsend).2.trans hp
      receive := fun hp hreceive => (receive_keeps hreceive).2.trans hp
      listen := fun h hp => (listen_capacity _ h).trans hp
      clone := fun hp _ => (clone_capacity _ _).trans hp
      close := fun hp => hp
      limit := fun h most hp => (limit_capacity _ h most).trans hp
      drop := fun h hp => (drop_capacity _ h).trans hp }
    steps rfl

end Scenario

end TextRelay
