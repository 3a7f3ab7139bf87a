import TextRelay.Proofs.Pipe.Attempts

/-!
# Two pipes under the same steps

Two pipes that a relation holds of answer every step alike if they answer all operations alike and
the relation outlives each of them (`Bisimulation.attempt`). Some relations allow only for some
handles to be read, or to be given up; which ones is a parameter.
-/

namespace TextRelay

namespace Medium

variable {κ : Type}

/-- Two outcomes of one operation on two media: both are the same answer, or none. -/
def Agree {α : Type} (R : κ → κ → Prop) : Option (α × κ) → Option (α × κ) → Prop :=
  Option.Rel fun a b => a.1 = b.1 ∧ R a.2 b.2

theorem agree_of_rel {α : Type} {R : κ → κ → Prop} {o o' : Option κ} (h : Option.Rel R o o')
    (a : α) : Agree R (o.map fun w => (a, w)) (o'.map fun w => (a, w)) := by
  cases h with
  | some hw => exact .some ⟨rfl, hw⟩
  | none => exact .none

theorem agree_self {α : Type} {R : κ → κ → Prop} {o : Option (α × κ)}
    (ho : ∀ a w, o = some (a, w) → R w w) : Agree R o o := by
  cases o with
  | none => exact .none
  | some x => exact .some ⟨rfl, ho x.1 x.2 rfl⟩

variable [Medium κ]

/-- A whole delivery goes the same way on both media. -/
theorem sendAll_agree {R : κ → κ → Prop} {h : Nat}
    (hsend : ∀ {w w' : κ} (data : Bytes), R w w' → Agree R (send w h data) (send w' h data)) :
    ∀ (fuel : Nat) {w w' : κ} (d : Delivery), R w w' →
      (∃ result v v', sendAll h fuel w d = .ended result v ∧
        sendAll h fuel w' d = .ended result v' ∧ R v v') ∨
      ∃ rest v v', sendAll h fuel w d = .blocked rest v ∧
        sendAll h fuel w' d = .blocked rest v' ∧ R v v' := by
  intro fuel
  induction fuel with
  | zero => exact fun d hw => .inr ⟨d, _, _, rfl, rfl, hw⟩
  | succ fuel ih =>
    intro w w' d hw
    unfold sendAll
    split
    · exact .inl ⟨.ok (), w, w', rfl, rfl, hw⟩
    · have hone := hsend d.remaining hw
      generalize send w h d.remaining = a, send w' h d.remaining = b at hone ⊢
      cases hone with
      | none => exact .inr ⟨d, w, w', rfl, rfl, hw⟩
      | @some a b hab =>
        obtain ⟨answer, v⟩ := a
        obtain ⟨answer', v'⟩ := b
        obtain ⟨rfl, hv⟩ := hab
        dsimp only
        cases d.feed answer with
        | error fault => exact .inl ⟨.error fault, v, v', rfl, rfl, hv⟩
        | ok next => exact ih next hv

end Medium

namespace Pipe

/-- Whether a handle waits at an end for a chunk, having none. -/
def waitsAt (side : Side) (handle : Handle) : Bool :=
  handle.isLive && handle.listening && handle.side = side && handle.pending.isEmpty

/-- Whom a chunk goes to depends only on who waits for it. -/
theorem listener?_congr {p p' : Pipe} {side : Side}
    (hwaits : ∀ k : Nat, (p'.handles[k]?).map (waitsAt side) = (p.handles[k]?).map (waitsAt side)) :
    p'.listener? side = p.listener? side := by
  have hfind : ∀ q : Pipe, q.listener? side = (q.handles.map (waitsAt side)).findIdx? id := by
    intro q
    rw [List.findIdx?_map]
    rfl
  have hmap : p'.handles.map (waitsAt side) = p.handles.map (waitsAt side) := by
    apply List.ext_getElem?
    intro k
    rw [List.getElem?_map, List.getElem?_map, hwaits]
  rw [hfind, hfind, hmap]

end Pipe

namespace Scenario

open Medium (Agree)

def PipeProgress.reply : PipeProgress → PipeReply
  | finished reply _ => reply
  | stuck _ _ => .blocked

/-- How far one step got on two pipes. -/
structure SameReply (R : Pipe → Pipe → Prop) (a b : PipeProgress) : Prop where
  reply : b.reply = a.reply
  pipe : R a.pipe b.pipe

/-- A receive call, maybe on two different handles. -/
theorem sameReply_receive {R : Pipe → Pipe → Prop} {p p' : Pipe} {k j size : Nat}
    (hlisten : R (p.listen k) (p'.listen j))
    (hreceive : Agree R ((p.listen k).receive k size) ((p'.listen j).receive j size)) :
    SameReply R ((PipeStep.receive size).proceed k p) ((PipeStep.receive size).proceed j p') := by
  simp only [PipeStep.proceed]
  generalize (p.listen k).receive k size = a, (p'.listen j).receive j size = b at hreceive ⊢
  cases hreceive with
  | none => exact ⟨rfl, hlisten⟩
  | @some a b hab =>
    obtain ⟨answer, q⟩ := a
    obtain ⟨answer', q'⟩ := b
    obtain ⟨rfl, hq⟩ := hab
    cases answer with
    | ok data => exact ⟨rfl, hq⟩
    | error fault => exact ⟨rfl, hq⟩

/-- Pipes that the relation holds of answer every operation alike, and it holds of them afterwards.
Only some handles may be read, and only some given up. -/
structure Bisimulation (R : Pipe → Pipe → Prop) (mayRead mayDrop : Pipe → Nat → Prop) : Prop where
  isLive : ∀ {p p' : Pipe}, R p p' → ∀ k : Nat,
    (p'.handles[k]?).any (·.isLive) = (p.handles[k]?).any (·.isLive)
  peer : ∀ {p p' : Pipe}, R p p' → ∀ k, p'.peer k = p.peer k
  isClosed : ∀ {p p' : Pipe}, R p p' → p'.isClosed = p.isClosed
  send : ∀ {p p' : Pipe}, R p p' → ∀ (k : Nat) (data : Bytes),
    Agree R (p.send k data) (p'.send k data)
  listen : ∀ {p p' : Pipe}, R p p' → ∀ k, mayRead p k → R (p.listen k) (p'.listen k)
  receive : ∀ {p p' : Pipe}, R p p' → ∀ (k size : Nat), mayRead p k →
    Agree R (p.receive k size) (p'.receive k size)
  mayRead : ∀ {p : Pipe} {k : Nat}, mayRead p k → mayRead (p.listen k) k
  clone : ∀ {p p' : Pipe}, R p p' → ∀ k,
    (p'.clone k).1 = (p.clone k).1 ∧ R (p.clone k).2 (p'.clone k).2
  close : ∀ {p p' : Pipe}, R p p' → R p.close p'.close
  limit : ∀ {p p' : Pipe}, R p p' → ∀ k most, R (p.limit k most) (p'.limit k most)
  drop : ∀ {p p' : Pipe}, R p p' → ∀ k, mayDrop p k → R (p.drop k) (p'.drop k)

namespace Bisimulation

variable {R : Pipe → Pipe → Prop} {mayRead mayDrop : Pipe → Nat → Prop} {p p' : Pipe}

theorem attempt (hR : Bisimulation R mayRead mayDrop) (hp : R p p') {k : Nat} {step : PipeStep}
    (hread : ∀ size, step = .receive size → mayRead p k) (hdrop : step = .drop → mayDrop p k) :
    SameReply R (step.attempt k p) (step.attempt k p') := by
  unfold PipeStep.attempt
  rw [hR.isLive hp]
  split
  · cases step with
    | send data =>
      have hsend := hR.send hp k data
      simp only [PipeStep.proceed]
      generalize p.send k data = a, p'.send k data = b at hsend ⊢
      cases hsend with
      | none => exact ⟨rfl, hp⟩
      | @some a b hab =>
        obtain ⟨answer, q⟩ := a
        obtain ⟨answer', q'⟩ := b
        obtain ⟨rfl, hq⟩ := hab
        cases answer with
        | ok n => exact ⟨rfl, hq⟩
        | error fault => exact ⟨rfl, hq⟩
    | sendAll d =>
      have hsend : ∀ {w w' : Pipe} (data : Bytes), R w w' →
          Agree R (Medium.send w k data) (Medium.send w' k data) := fun data hw => hR.send hw k data
      simp only [PipeStep.proceed]
      obtain ⟨result, q, q', hfirst, hsecond, hq⟩ | ⟨rest, q, q', hfirst, hsecond, hq⟩ :=
        Medium.sendAll_agree hsend (d.data.length + 1) d hp
      · rw [hfirst, hsecond]
        cases result with
        | ok => exact ⟨rfl, hq⟩
        | error fault => exact ⟨rfl, hq⟩
      · rw [hfirst, hsecond]
        exact ⟨rfl, hq⟩
    | receive size =>
      have hmay := hread size rfl
      have hlisten := hR.listen hp k hmay
      exact sameReply_receive hlisten (hR.receive hlisten k size (hR.mayRead hmay))
    | shutdown => exact ⟨rfl, hR.close hp⟩
    | peer =>
      refine ⟨?_, hp⟩
      simp only [PipeStep.proceed, PipeProgress.reply, hR.peer hp]
    | clone =>
      obtain ⟨hnumber, hq⟩ := hR.clone hp k
      refine ⟨?_, hq⟩
      simp only [PipeStep.proceed, PipeProgress.reply, hnumber]
    | isClosed =>
      refine ⟨?_, hp⟩
      simp only [PipeStep.proceed, PipeProgress.reply, hR.isClosed hp]
    | limit most => exact ⟨rfl, hR.limit hp k most⟩
    | drop => exact ⟨rfl, hR.drop hp k (hdrop rfl)⟩
  · exact ⟨rfl, hp⟩

end Bisimulation

end Scenario

end TextRelay
