import TextRelay.Proofs.Pipe.Bisimulation
import TextRelay.Proofs.Pipe.Stream

/-!
# What nobody reads any more

The bytes that a handle has at hand are for that handle alone. If the first handles of an end are
not read again, what they have at hand can as well be forgotten: a pipe goes on as before without it
(`Erases`), whatever is done to its other handles, and however these first ones are used otherwise.
-/

namespace TextRelay

open Medium (Agree)
open Scenario

namespace Pipe

/-! ## Forgetting -/

/-- A handle without what it has at hand, if it is of the end and one of the first. -/
def Handle.forget (side : Side) (n k : Nat) (z : Handle) : Handle :=
  if z.side = side ∧ k < n then { z with pending := [] } else z

/-- A pipe without what the first handles of an end have at hand. -/
def forget (side : Side) (n : Nat) (p : Pipe) : Pipe :=
  { p with handles := p.handles.mapIdx (Handle.forget side n) }

section

variable (side : Side) (n k : Nat) (z : Handle) (p : Pipe)

@[simp] theorem Handle.forget_side : (z.forget side n k).side = z.side := by
  unfold forget
  split <;> rfl

@[simp] theorem Handle.forget_limit : (z.forget side n k).limit = z.limit := by
  unfold forget
  split <;> rfl

@[simp] theorem Handle.forget_isLive : (z.forget side n k).isLive = z.isLive := by
  unfold forget
  split <;> rfl

@[simp] theorem Handle.forget_listening : (z.forget side n k).listening = z.listening := by
  unfold forget
  split <;> rfl

@[simp] theorem forget_capacity : (p.forget side n).capacity = p.capacity := rfl

@[simp] theorem forget_isClosed : (p.forget side n).isClosed = p.isClosed := rfl

@[simp] theorem lane_forget (x : Side) : (p.forget side n).lane x = p.lane x := by
  cases x <;> rfl

theorem getElem?_forget :
    (p.forget side n).handles[k]? = (p.handles[k]?).map (Handle.forget side n k) := by
  simp [forget]

theorem length_forget : (p.forget side n).handles.length = p.handles.length := by
  simp [forget]

theorem forget_setHandle :
    (p.setHandle k z).forget side n = (p.forget side n).setHandle k (z.forget side n k) := by
  simp [forget, setHandle, List.mapIdx_set]

theorem forget_setLane (chunks : List Bytes) (x : Side) :
    (p.setLane chunks x).forget side n = (p.forget side n).setLane chunks x := by
  cases x <;> rfl

theorem isHeld_forget (x : Side) : (p.forget side n).isHeld x = p.isHeld x := by
  rw [Bool.eq_iff_iff, isHeld_iff, isHeld_iff]
  constructor
  · rintro ⟨j, handle, hget, hlive, hside⟩
    rw [getElem?_forget] at hget
    obtain ⟨old, hold, rfl⟩ := Option.map_eq_some_iff.1 hget
    exact ⟨j, old, hold, by simpa using hlive, by simpa using hside⟩
  · rintro ⟨j, handle, hget, hlive, hside⟩
    refine ⟨j, handle.forget side n j, ?_, by simpa using hlive, by simpa using hside⟩
    rw [getElem?_forget, hget, Option.map_some]

end

theorem Handle.forget_eq {side : Side} {n k : Nat} {z : Handle} (hz : z.side = side → n ≤ k) :
    z.forget side n k = z := by
  unfold forget
  rw [if_neg]
  rintro ⟨hside, hlt⟩
  exact absurd (hz hside) (Nat.not_le_of_lt hlt)

theorem quiet_forget {side : Side} {p : Pipe} (hcalm : p.NoneListening side) :
    (p.forget side p.handles.length).Quiet side := by
  intro k z hget hside
  rw [getElem?_forget] at hget
  obtain ⟨old, hold, rfl⟩ := Option.map_eq_some_iff.1 hget
  rw [Handle.forget_side] at hside
  have hlt := (List.getElem?_eq_some_iff.1 hold).1
  refine ⟨?_, ?_⟩
  · rw [Handle.forget, if_pos ⟨hside, hlt⟩]
  · rw [Handle.forget_listening]
    exact hcalm k old hold hside

theorem Sound.forget {p : Pipe} (hp : p.Sound) (side : Side) (n : Nat) :
    (p.forget side n).Sound := by
  refine ⟨?_, ?_, ?_⟩
  · intro x chunk hmem
    rw [lane_forget] at hmem
    exact hp.chunk_ne x chunk hmem
  · intro h handle hget
    rw [getElem?_forget] at hget
    obtain ⟨old, hold, rfl⟩ := Option.map_eq_some_iff.1 hget
    rw [Handle.forget_limit]
    exact hp.limit_pos hold
  · intro most hmost x
    rw [lane_forget]
    exact hp.room most hmost x

/-- What a later handle has still to read is not forgotten. -/
theorem unread_forget {p : Pipe} {side : Side} {n h : Nat} (hlate : n ≤ h) :
    (p.forget side n).unread side h = p.unread side h := by
  have hsame : ∀ z : Handle, z.forget side n h = z := fun z => Handle.forget_eq fun _ => hlate
  rw [unread, unread, lane_forget, pendingOf, pendingOf, getElem?_forget]
  cases p.handles[h]? with
  | none => rfl
  | some z => rw [Option.map_some, hsame]

/-! ## A pipe that goes on without the forgotten bytes -/

/-- The second pipe is the first one without what the first handles of an end have at hand. None of
them is about to receive. -/
structure Erases (side : Side) (n : Nat) (p p' : Pipe) : Prop where
  eq : p' = p.forget side n
  count : n ≤ p.handles.length
  idle : ∀ (k : Nat) (z : Handle), k < n → p.handles[k]? = some z → z.side = side →
    z.listening = false

/-- The handle is not one of the first ones of the end. -/
def IsLate (side : Side) (n : Nat) (p : Pipe) (k : Nat) : Prop :=
  p.Owns side k → n ≤ k

namespace Erases

variable {side : Side} {n : Nat} {p p' : Pipe}

theorem setHandle (he : Erases side n p p') {k : Nat} {old : Handle}
    (hold : p.handles[k]? = some old) (new : Handle)
    (hnew : k < n → new.side = side → new.listening = false) :
    Erases side n (p.setHandle k new) (p'.setHandle k (new.forget side n k)) := by
  refine ⟨?_, ?_, ?_⟩
  · rw [he.eq, forget_setHandle]
  · simpa [Pipe.setHandle] using he.count
  · intro j z hj hget hside
    rw [getElem?_setHandle hold] at hget
    split at hget
    · next hjk =>
      cases hget
      exact hnew (hjk ▸ hj) hside
    · exact he.idle j z hj hget hside

/-- A handle that is not one of the first of the end is replaced in both pipes. -/
theorem setLate (he : Erases side n p p') {k : Nat} {old : Handle}
    (hold : p.handles[k]? = some old) (new : Handle) (hlate : new.side = side → n ≤ k) :
    Erases side n (p.setHandle k new) (p'.setHandle k new) := by
  have hnext := he.setHandle hold new fun hlt hside => absurd (hlate hside) (Nat.not_le_of_lt hlt)
  rwa [Handle.forget_eq hlate] at hnext

theorem setLane (he : Erases side n p p') (chunks : List Bytes) (x : Side) :
    Erases side n (p.setLane chunks x) (p'.setLane chunks x) := by
  refine ⟨?_, ?_, ?_⟩
  · rw [he.eq, forget_setLane]
  · simpa using he.count
  · simpa using he.idle

theorem getElem? (he : Erases side n p p') (k : Nat) :
    p'.handles[k]? = (p.handles[k]?).map (Handle.forget side n k) := by
  rw [he.eq, getElem?_forget]

theorem isHeld_eq (he : Erases side n p p') (x : Side) : p'.isHeld x = p.isHeld x := by
  rw [he.eq, isHeld_forget]

theorem lane_eq (he : Erases side n p p') (x : Side) : p'.lane x = p.lane x := by
  rw [he.eq, lane_forget]

/-- Who waits for a chunk is not one of those whose bytes are forgotten. -/
theorem late_of_listening (he : Erases side n p p') {k : Nat} {z : Handle}
    (hget : p.handles[k]? = some z) (hlistening : z.listening = true) : z.side = side → n ≤ k := by
  intro hside
  rcases Nat.lt_or_ge k n with hlt | hge
  · rw [he.idle k z hlt hget hside] at hlistening
    cases hlistening
  · exact hge

theorem listener?_eq (he : Erases side n p p') (x : Side) : p'.listener? x = p.listener? x := by
  apply listener?_congr
  intro k
  rw [he.getElem?]
  cases hget : p.handles[k]? with
  | none => rfl
  | some z =>
    cases hlistening : z.listening with
    | false => simp [waitsAt, hlistening]
    | true => rw [Option.map_some, Handle.forget_eq (he.late_of_listening hget hlistening)]

theorem push (he : Erases side n p p') (x : Side) (chunk : Bytes) :
    Option.Rel (Erases side n) (p.push x chunk) (p'.push x chunk) := by
  have hcapacity : p'.capacity = p.capacity := by rw [he.eq, forget_capacity]
  unfold Pipe.push
  rw [hcapacity, he.lane_eq, he.listener?_eq]
  split
  · exact .some (he.setLane _ x)
  · cases hlistener : p.listener? x with
    | none => exact .none
    | some j =>
      obtain ⟨handle, hget, -, hlistening, -⟩ := listener?_eq_some hlistener
      have hlate := he.late_of_listening hget hlistening
      dsimp only
      rw [he.getElem?, hget, Option.map_some, Handle.forget_eq hlate]
      exact .some (he.setLate hget { handle with pending := chunk, listening := false } hlate)
  · split
    · exact .some (he.setLane _ x)
    · exact .none

theorem send (he : Erases side n p p') (k : Nat) (data : Bytes) :
    Agree (Erases side n) (p.send k data) (p'.send k data) := by
  have hclosed : p'.isClosed = p.isClosed := by rw [he.eq, forget_isClosed]
  unfold Pipe.send
  rw [he.getElem?]
  cases p.handles[k]? with
  | none => exact .some ⟨rfl, he⟩
  | some z =>
    simp only [Option.map_some, Handle.forget_side, Handle.forget_limit]
    rw [hclosed, he.isHeld_eq]
    split
    · exact .some ⟨rfl, he⟩
    split
    · exact .some ⟨rfl, he⟩
    split
    · exact .some ⟨rfl, he⟩
    · exact Medium.agree_of_rel (he.push _ _) _

theorem listen (he : Erases side n p p') {k : Nat} (hlate : IsLate side n p k) :
    Erases side n (p.listen k) (p'.listen k) := by
  unfold Pipe.listen
  rw [he.getElem?]
  cases hget : p.handles[k]? with
  | none => exact he
  | some z =>
    have hz : z.side = side → n ≤ k := fun hside => hlate ⟨z, hget, hside⟩
    rw [Option.map_some, Handle.forget_eq hz]
    exact he.setLate hget { z with listening := true } hz

theorem receive (he : Erases side n p p') {k : Nat} (hlate : IsLate side n p k) (size : Nat) :
    Agree (Erases side n) (p.receive k size) (p'.receive k size) := by
  have hclosed : p'.isClosed = p.isClosed := by rw [he.eq, forget_isClosed]
  unfold Pipe.receive
  rw [he.getElem?]
  cases hget : p.handles[k]? with
  | none => exact .some ⟨rfl, he⟩
  | some z =>
    have hz : z.side = side → n ≤ k := fun hside => hlate ⟨z, hget, hside⟩
    have hset : ∀ {q q' : Pipe}, Erases side n q q' → q.handles[k]? = some z → ∀ pending,
        Erases side n (q.setHandle k { z with pending, listening := false })
          (q'.setHandle k { z with pending, listening := false }) := by
      intro q q' hq hgetq pending
      exact hq.setLate hgetq { z with pending, listening := false } hz
    rw [Option.map_some, Handle.forget_eq hz]
    dsimp only
    rw [hclosed, he.lane_eq, he.isHeld_eq]
    split
    · exact .some ⟨rfl, hset he hget z.pending⟩
    split
    · exact .some ⟨rfl, hset he hget _⟩
    split
    · next chunk rest _ =>
      have hget' : (p.setLane rest z.side).handles[k]? = some z := by simpa using hget
      exact .some ⟨rfl, hset (he.setLane rest z.side) hget' _⟩
    · split
      · exact .some ⟨rfl, hset he hget z.pending⟩
      · exact .none

theorem clone (he : Erases side n p p') (k : Nat) :
    (p'.clone k).1 = (p.clone k).1 ∧ Erases side n (p.clone k).2 (p'.clone k).2 := by
  have hlength : p'.handles.length = p.handles.length := by rw [he.eq, length_forget]
  unfold Pipe.clone
  rw [he.getElem?]
  cases hget : p.handles[k]? with
  | none => exact ⟨rfl, he⟩
  | some z =>
    refine ⟨hlength, ?_, ?_, ?_⟩
    · -- the clone is not one of the first, and has nothing at hand anyway
      have hnew : Handle.forget side n p.handles.length { side := z.side, limit := z.limit } =
          { side := z.side, limit := z.limit } := Handle.forget_eq fun _ => he.count
      rw [he.eq, Option.map_some]
      simp only [Handle.forget_side, Handle.forget_limit, forget, List.mapIdx_concat, hnew]
    · rw [List.length_append]
      exact Nat.le_add_right_of_le he.count
    · intro j other hj hget' hside
      rw [List.getElem?_append_left (Nat.lt_of_lt_of_le hj he.count)] at hget'
      exact he.idle j other hj hget' hside

theorem close (he : Erases side n p p') : Erases side n p.close p'.close := by
  refine ⟨?_, he.count, he.idle⟩
  rw [he.eq]
  rfl

theorem limit (he : Erases side n p p') (k most : Nat) :
    Erases side n (p.limit k most) (p'.limit k most) := by
  unfold Pipe.limit
  rw [he.getElem?]
  cases hget : p.handles[k]? with
  | none => exact he
  | some z =>
    have hnext := he.setHandle hget { z with limit := some (max most 1) } fun hlt =>
      he.idle k z hlt hget
    have hsame : ({ z.forget side n k with limit := some (max most 1) } : Handle) =
        Handle.forget side n k { z with limit := some (max most 1) } := by
      unfold Handle.forget
      split <;> rfl
    rw [Option.map_some]
    dsimp only
    rw [hsame]
    exact hnext

theorem drop (he : Erases side n p p') (k : Nat) : Erases side n (p.drop k) (p'.drop k) := by
  unfold Pipe.drop
  rw [he.getElem?]
  cases hget : p.handles[k]? with
  | none => exact he
  | some z =>
    have hgone := he.setHandle hget { z with isLive := false, pending := [], listening := false }
      fun _ _ => rfl
    have hsame : ({ z.forget side n k with isLive := false, pending := [], listening := false } :
        Handle) = Handle.forget side n k
          { z with isLive := false, pending := [], listening := false } := by
      unfold Handle.forget
      split <;> rfl
    rw [Option.map_some]
    dsimp only
    rw [hsame, hgone.isHeld_eq, Handle.forget_side]
    split
    · exact hgone
    · exact hgone.setLane [] z.side

theorem bisimulation (side : Side) (n : Nat) :
    Bisimulation (Erases side n) (IsLate side n) (fun _ _ => True) where
  isLive := by
    intro p p' he k
    rw [he.getElem?]
    cases p.handles[k]? <;> simp
  peer := by
    intro p p' he k
    unfold peer
    rw [he.getElem?]
    cases p.handles[k]? <;> simp
  isClosed he := by rw [he.eq, forget_isClosed]
  send := send
  listen he k hlate := he.listen hlate
  receive he k size hlate := he.receive hlate size
  mayRead hlate hown := hlate (owns_of_listen hown)
  clone := clone
  close := close
  limit := limit
  drop he k _ := he.drop k

end Erases

end Pipe

end TextRelay
