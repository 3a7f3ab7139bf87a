import TextRelay.Proofs.Pipe.Bisimulation
import TextRelay.Proofs.Pipe.EndOfStream
import TextRelay.Proofs.Pipe.Stream

/-!
# A handle and its clone

A clone has nothing at hand: what is left of a chunk stays with the handle that took it. Everything
else the two share. Of two copies of a pipe, let the handle be read in one, and its clone in the
other wherever the handle would be, but for the reads that use up what the handle has at hand
(`redirect`). The copies are `SameUpToReader` then, and remain so whatever is done to both of them:
every step has the same answer in either, and the reads that the second one lacks are answered with
the bytes at hand (`Redirected`). So a clone reads what its handle would read after those bytes, and
the same as the handle if there are none.
-/

namespace TextRelay

open Medium (Agree)
open Scenario

namespace Pipe

/-! ## Two copies of a pipe -/

/-- What no reading and no sending changes about a handle. -/
def Handle.fixedPart (handle : Handle) : Side × Option Nat × Bool :=
  (handle.side, handle.limit, handle.isLive)

/-- Two handles of an end in two copies of a pipe: in the first copy the one is read, and in the
second copy the other one. The first one had some bytes at hand, which it keeps in the second copy,
and of which some are left in the first. -/
structure PairedHandles (side : Side) (h c : Nat) (kept left : Bytes) (q r : Pipe) (x y : Handle)
    (ahead : Bytes) (waits : Bool) : Prop where
  side_x : x.side = side
  side_y : y.side = side
  live_x : x.isLive = true
  live_y : y.isLive = true
  idle : left ≠ [] → ahead = [] ∧ waits = false
  read : q.handles[h]? = some { x with pending := left ++ ahead, listening := waits }
  spare : q.handles[c]? = some { y with pending := [], listening := false }
  spared : r.handles[h]? = some { x with pending := kept, listening := false }
  reads : r.handles[c]? = some { y with pending := ahead, listening := waits }

/-- Two copies of a pipe that differ only in which of two handles of an end is read. Nobody else
waits at that end. -/
structure SameUpToReader (side : Side) (h c : Nat) (kept left : Bytes) (q r : Pipe) : Prop where
  ne : h ≠ c
  capacity : r.capacity = q.capacity
  lane : ∀ x, r.lane x = q.lane x
  isClosed : r.isClosed = q.isClosed
  length : r.handles.length = q.handles.length
  other : ∀ k, k ≠ h → k ≠ c → r.handles[k]? = q.handles[k]?
  quiet : ∀ k z, k ≠ h → k ≠ c → q.handles[k]? = some z → z.side = side → z.listening = false
  pair : ∃ x y ahead waits, PairedHandles side h c kept left q r x y ahead waits

namespace SameUpToReader

variable {side : Side} {h c : Nat} {kept left : Bytes} {q r q' r' : Pipe}

theorem fixedPart_eq (ht : SameUpToReader side h c kept left q r) (k : Nat) :
    (r.handles[k]?).map Handle.fixedPart = (q.handles[k]?).map Handle.fixedPart := by
  obtain ⟨x, y, ahead, waits, hp⟩ := ht.pair
  by_cases hkh : k = h
  · rw [hkh, hp.read, hp.spared]
    rfl
  · by_cases hkc : k = c
    · rw [hkc, hp.spare, hp.reads]
      rfl
    · rw [ht.other k hkh hkc]

theorem peer_eq (ht : SameUpToReader side h c kept left q r) (k : Nat) : r.peer k = q.peer k := by
  have hpeer : ∀ p : Pipe, p.peer k = match (p.handles[k]?).map Handle.fixedPart with
      | none => ""
      | some fixedPart => fixedPart.1.name := by
    intro p
    unfold peer
    cases p.handles[k]? <;> rfl
  rw [hpeer, hpeer, ht.fixedPart_eq]

theorem isHeld_eq (ht : SameUpToReader side h c kept left q r) (x : Side) :
    r.isHeld x = q.isHeld x := by
  have hfixed : r.handles.map Handle.fixedPart = q.handles.map Handle.fixedPart := by
    apply List.ext_getElem?
    intro k
    rw [List.getElem?_map, List.getElem?_map, ht.fixedPart_eq]
  have hany : ∀ handles : List Handle, (handles.any fun z => z.isLive && z.side = x) =
      (handles.map Handle.fixedPart).any fun fixedPart => fixedPart.2.2 && fixedPart.1 = x := by
    intro handles
    rw [List.any_map]
    rfl
  rw [isHeld, isHeld, hany, hany, hfixed]

/-! ### Changes that both copies undergo -/

theorem setLane_paired {x y : Handle} {ahead : Bytes} {waits : Bool}
    (hp : PairedHandles side h c kept left q r x y ahead waits) (chunks : List Bytes) (z : Side) :
    PairedHandles side h c kept left (q.setLane chunks z) (r.setLane chunks z) x y ahead waits :=
  ⟨hp.side_x, hp.side_y, hp.live_x, hp.live_y, hp.idle, by simpa using hp.read,
    by simpa using hp.spare, by simpa using hp.spared, by simpa using hp.reads⟩

theorem setLane (ht : SameUpToReader side h c kept left q r) (chunks : List Bytes) (x : Side) :
    SameUpToReader side h c kept left (q.setLane chunks x) (r.setLane chunks x) := by
  obtain ⟨hne, hcapacity, hlane, hclosed, hlength, hother, hquiet, x', y, ahead, waits, hp⟩ := ht
  refine ⟨hne, by simpa using hcapacity, ?_, by simpa using hclosed, by simpa using hlength,
    by simpa using hother, by simpa using hquiet, x', y, ahead, waits, setLane_paired hp chunks x⟩
  intro z
  rw [lane_setLane, lane_setLane, hlane]

theorem close (ht : SameUpToReader side h c kept left q r) :
    SameUpToReader side h c kept left q.close r.close := by
  obtain ⟨hne, hcapacity, hlane, hclosed, hlength, hother, hquiet, x, y, ahead, waits, hp⟩ := ht
  exact ⟨hne, hcapacity, fun z => by simpa using hlane z, rfl, hlength, hother, hquiet, x, y, ahead,
    waits, hp.side_x, hp.side_y, hp.live_x, hp.live_y, hp.idle, hp.read, hp.spare, hp.spared,
    hp.reads⟩

/-- A third handle is replaced in both copies. -/
theorem setOther (ht : SameUpToReader side h c kept left q r) {k : Nat} (hkh : k ≠ h) (hkc : k ≠ c)
    {old : Handle} (hold : q.handles[k]? = some old) (new : Handle)
    (hnew : new.side = side → new.listening = false) :
    SameUpToReader side h c kept left (q.setHandle k new) (r.setHandle k new) := by
  have hold' : r.handles[k]? = some old := (ht.other k hkh hkc).trans hold
  obtain ⟨hne, hcapacity, hlane, hclosed, hlength, hother, hquiet, x, y, ahead, waits, hp⟩ := ht
  refine ⟨hne, hcapacity, by simpa using hlane, hclosed, ?_, ?_, ?_, x, y, ahead, waits,
    hp.side_x, hp.side_y, hp.live_x, hp.live_y, hp.idle, ?_, ?_, ?_, ?_⟩
  · simpa [setHandle] using hlength
  · intro j hjh hjc
    rw [getElem?_setHandle hold, getElem?_setHandle hold', hother j hjh hjc]
  · intro j z hjh hjc hget hside
    rw [getElem?_setHandle hold] at hget
    split at hget
    · cases hget
      exact hnew hside
    · exact hquiet j z hjh hjc hget hside
  · rw [getElem?_setHandle hold, if_neg (Ne.symm hkh), hp.read]
  · rw [getElem?_setHandle hold, if_neg (Ne.symm hkc), hp.spare]
  · rw [getElem?_setHandle hold', if_neg (Ne.symm hkh), hp.spared]
  · rw [getElem?_setHandle hold', if_neg (Ne.symm hkc), hp.reads]

/-! ### Changes to the pair -/

/-- One of the two handles is replaced in the first copy, and one in the second. -/
theorem setPair (ht : SameUpToReader side h c kept left q r) {i j : Nat} (hi : i = h ∨ i = c)
    (hj : j = h ∨ j = c) {old new old' new' : Handle} (hold : q.handles[i]? = some old)
    (hold' : r.handles[j]? = some old') {left' : Bytes} {x y : Handle} {ahead : Bytes}
    {waits : Bool}
    (hp : PairedHandles side h c kept left' (q.setHandle i new) (r.setHandle j new') x y ahead
      waits) :
    SameUpToReader side h c kept left' (q.setHandle i new) (r.setHandle j new') := by
  have hthird : ∀ {k : Nat}, k ≠ h → k ≠ c → k ≠ i ∧ k ≠ j := by
    intro k hkh hkc
    rcases hi with rfl | rfl <;> rcases hj with rfl | rfl <;> exact ⟨by assumption, by assumption⟩
  refine ⟨ht.ne, ht.capacity, by simpa using ht.lane, ht.isClosed, ?_, ?_, ?_, x, y, ahead, waits,
    hp⟩
  · simpa [setHandle] using ht.length
  · intro k hkh hkc
    obtain ⟨hki, hkj⟩ := hthird hkh hkc
    rw [getElem?_setHandle hold, getElem?_setHandle hold', if_neg hki, if_neg hkj,
      ht.other k hkh hkc]
  · intro k z hkh hkc hget
    rw [getElem?_setHandle hold, if_neg (hthird hkh hkc).1] at hget
    exact ht.quiet k z hkh hkc hget

/-- The handle is changed in the first copy, as its clone is in the second one. -/
theorem setRead (ht : SameUpToReader side h c kept left q r) {x y : Handle} {ahead : Bytes}
    {waits : Bool}
    (hp : PairedHandles side h c kept left q r x y ahead waits) (left' ahead' : Bytes)
    (waits' : Bool) (hidle : left' ≠ [] → ahead' = [] ∧ waits' = false) :
    SameUpToReader side h c kept left'
      (q.setHandle h { x with pending := left' ++ ahead', listening := waits' })
      (r.setHandle c { y with pending := ahead', listening := waits' }) := by
  have hne := ht.ne
  refine ht.setPair (x := x) (y := y) (.inl rfl) (.inr rfl) hp.read hp.reads ⟨hp.side_x, hp.side_y,
    hp.live_x, hp.live_y, hidle, ?_, ?_, ?_, ?_⟩
  · rw [getElem?_setHandle hp.read, if_pos rfl]
  · rw [getElem?_setHandle hp.read, if_neg (Ne.symm hne), hp.spare]
  · rw [getElem?_setHandle hp.reads, if_neg hne, hp.spared]
  · rw [getElem?_setHandle hp.reads, if_pos rfl]

/-- What is at hand is used up in the first copy, and nothing happens in the second one. -/
theorem drain (ht : SameUpToReader side h c kept left q r) {x y : Handle} {ahead : Bytes}
    {waits : Bool}
    (hp : PairedHandles side h c kept left q r x y ahead waits) (hleft : left ≠ []) (size : Nat) :
    SameUpToReader side h c kept (left.drop size)
      (q.setHandle h { x with pending := left.drop size, listening := false }) r := by
  obtain ⟨rfl, rfl⟩ := hp.idle hleft
  have hupTo := ht.setRead hp (left.drop size) [] false
    fun _ => ⟨rfl, rfl⟩
  have hsame : r.setHandle c { y with pending := [], listening := false } = r := by
    obtain ⟨hlt, hget⟩ := List.getElem?_eq_some_iff.1 hp.reads
    rw [setHandle, ← hget, List.set_getElem_self]
  rwa [hsame, List.append_nil] at hupTo

theorem limit (ht : SameUpToReader side h c kept left q r) (k most : Nat) :
    SameUpToReader side h c kept left (q.limit k most) (r.limit k most) := by
  obtain ⟨x, y, ahead, waits, hp⟩ := ht.pair
  have hne := ht.ne
  by_cases hkh : k = h
  · subst hkh
    rw [Pipe.limit, Pipe.limit, hp.read, hp.spared]
    refine ht.setPair (x := { x with limit := some (max most 1) }) (y := y) (.inl rfl) (.inl rfl)
      hp.read hp.spared ⟨hp.side_x, hp.side_y, hp.live_x, hp.live_y, hp.idle, ?_, ?_, ?_, ?_⟩
    · rw [getElem?_setHandle hp.read, if_pos rfl]
    · rw [getElem?_setHandle hp.read, if_neg (Ne.symm hne), hp.spare]
    · rw [getElem?_setHandle hp.spared, if_pos rfl]
    · rw [getElem?_setHandle hp.spared, if_neg (Ne.symm hne), hp.reads]
  · by_cases hkc : k = c
    · subst hkc
      rw [Pipe.limit, Pipe.limit, hp.spare, hp.reads]
      refine ht.setPair (x := x) (y := { y with limit := some (max most 1) }) (.inr rfl) (.inr rfl)
        hp.spare hp.reads ⟨hp.side_x, hp.side_y, hp.live_x, hp.live_y, hp.idle, ?_, ?_, ?_, ?_⟩
      · rw [getElem?_setHandle hp.spare, if_neg hne, hp.read]
      · rw [getElem?_setHandle hp.spare, if_pos rfl]
      · rw [getElem?_setHandle hp.reads, if_neg hne, hp.spared]
      · rw [getElem?_setHandle hp.reads, if_pos rfl]
    · rw [Pipe.limit, Pipe.limit, ht.other k hkh hkc]
      cases hget : q.handles[k]? with
      | none => exact ht
      | some old => exact ht.setOther hkh hkc hget _ (ht.quiet k old hkh hkc hget)

theorem clone (ht : SameUpToReader side h c kept left q r) (k : Nat) :
    (r.clone k).1 = (q.clone k).1 ∧
    SameUpToReader side h c kept left (q.clone k).2 (r.clone k).2 := by
  have htrait := ht.fixedPart_eq k
  unfold Pipe.clone
  cases hq : q.handles[k]? with
  | none =>
    rw [hq, Option.map_none, Option.map_eq_none_iff] at htrait
    rw [htrait]
    exact ⟨rfl, ht⟩
  | some z =>
    rw [hq, Option.map_some] at htrait
    obtain ⟨z', hr, heq⟩ := Option.map_eq_some_iff.1 htrait
    obtain ⟨hside, hlimit, -⟩ : z'.side = z.side ∧ z'.limit = z.limit ∧ z'.isLive = z.isLive := by
      simpa [Handle.fixedPart] using heq
    rw [hr]
    dsimp only
    rw [hside, hlimit, ht.length]
    refine ⟨rfl, ?_⟩
    obtain ⟨hne, hcapacity, hlane, hclosed, hlength, hother, hquiet, x, y, ahead, waits, hp⟩ := ht
    have hold : ∀ {p : Pipe} {j : Nat} {handle new : Handle}, p.handles[j]? = some handle →
        (p.handles ++ [new])[j]? = some handle := by
      intro p j handle new hget
      rw [List.getElem?_append_left (List.getElem?_eq_some_iff.1 hget).1, hget]
    refine ⟨hne, hcapacity, hlane, hclosed, ?_, ?_, ?_, x, y, ahead, waits, hp.side_x, hp.side_y,
      hp.live_x, hp.live_y, hp.idle, hold hp.read, hold hp.spare, hold hp.spared, hold hp.reads⟩
    · simp [hlength]
    · intro j hjh hjc
      rw [List.getElem?_append, List.getElem?_append, hlength, hother j hjh hjc]
    · intro j other hjh hjc hget hs
      rw [List.getElem?_append] at hget
      split at hget
      · exact hquiet j other hjh hjc hget hs
      · have hmem := List.mem_of_getElem? hget
        rw [List.mem_singleton.1 hmem]

theorem drop (ht : SameUpToReader side h c kept left q r) {k : Nat} (hkh : k ≠ h) (hkc : k ≠ c) :
    SameUpToReader side h c kept left (q.drop k) (r.drop k) := by
  unfold Pipe.drop
  rw [ht.other k hkh hkc]
  cases hget : q.handles[k]? with
  | none => exact ht
  | some old =>
    have hgone := ht.setOther hkh hkc hget
      { old with isLive := false, pending := [], listening := false } fun _ => rfl
    dsimp only
    rw [hgone.isHeld_eq]
    split
    · exact hgone
    · exact hgone.setLane [] old.side

/-! ### Sending -/

theorem listener?_far (ht : SameUpToReader side h c kept left q r) {x : Side} (hx : x ≠ side) :
    r.listener? x = q.listener? x := by
  obtain ⟨a, b, ahead, waits, hp⟩ := ht.pair
  apply listener?_congr
  intro k
  by_cases hkh : k = h
  · simp [hkh, hp.read, hp.spared, waitsAt, hp.side_x, Ne.symm hx]
  · by_cases hkc : k = c
    · simp [hkc, hp.spare, hp.reads, waitsAt, hp.side_y, Ne.symm hx]
    · rw [ht.other k hkh hkc]

theorem listener?_eq_of_only {p : Pipe} {x : Side} {i : Nat} {handle : Handle}
    (hget : p.handles[i]? = some handle)
    (honly : ∀ k z, k ≠ i → p.handles[k]? = some z → waitsAt x z = false) :
    p.listener? x = if waitsAt x handle then some i else none := by
  split
  · next hwaits =>
    obtain ⟨hlt, hi⟩ := List.getElem?_eq_some_iff.1 hget
    apply List.findIdx?_eq_some_iff_getElem.2
    refine ⟨hlt, by rw [hi]; exact hwaits, ?_⟩
    intro k hk hwaits'
    have hfalse := honly k p.handles[k] (Nat.ne_of_lt hk) (List.getElem?_eq_getElem _)
    rw [show waitsAt x p.handles[k] = true from hwaits'] at hfalse
    cases hfalse
  · next hwaits =>
    apply List.findIdx?_eq_none_iff.2
    intro z hz
    obtain ⟨k, hk⟩ := List.mem_iff_getElem?.1 hz
    by_cases hki : k = i
    · subst hki
      cases hget.symm.trans hk
      exact Bool.eq_false_iff.2 hwaits
    · exact honly k z hki hk

/-- At their own end, the handle waits in the first copy as its clone does in the second, and nobody
else does. -/
theorem listener?_own (ht : SameUpToReader side h c kept left q r) {x y : Handle} {ahead : Bytes}
    {waits : Bool} (hp : PairedHandles side h c kept left q r x y ahead waits) :
    q.listener? side = (if waits && (left ++ ahead).isEmpty then some h else none) ∧
      r.listener? side = if waits && ahead.isEmpty then some c else none := by
  have hidle : ∀ {z : Handle}, z.listening = false → waitsAt side z = false := by
    intro z hz
    simp [waitsAt, hz]
  constructor
  · rw [listener?_eq_of_only hp.read]
    · simp [waitsAt, hp.live_x, hp.side_x]
    · intro k z hkh hget
      by_cases hkc : k = c
      · subst hkc
        cases hp.spare.symm.trans hget
        exact hidle rfl
      · by_cases hside : z.side = side
        · exact hidle (ht.quiet k z hkh hkc hget hside)
        · simp [waitsAt, hside]
  · rw [listener?_eq_of_only hp.reads]
    · simp [waitsAt, hp.live_y, hp.side_y]
    · intro k z hkc hget
      by_cases hkh : k = h
      · subst hkh
        cases hp.spared.symm.trans hget
        exact hidle rfl
      · rw [ht.other k hkh hkc] at hget
        by_cases hside : z.side = side
        · exact hidle (ht.quiet k z hkh hkc hget hside)
        · simp [waitsAt, hside]

theorem push (ht : SameUpToReader side h c kept left q r) (x : Side) (chunk : Bytes) :
    Option.Rel (SameUpToReader side h c kept left) (q.push x chunk) (r.push x chunk) := by
  unfold Pipe.push
  rw [ht.capacity, ht.lane]
  split
  · exact .some (ht.setLane _ x)
  · by_cases hx : x = side
    · subst hx
      obtain ⟨a, b, ahead, waits, hp⟩ := ht.pair
      obtain ⟨hlistener, hlistener'⟩ := ht.listener?_own hp
      by_cases hleft : left = []
      · subst hleft
        rw [hlistener, hlistener', List.nil_append]
        by_cases hwaits : (waits && ahead.isEmpty) = true
        · rw [if_pos hwaits, if_pos hwaits]
          dsimp only
          rw [hp.read, hp.reads]
          exact .some (ht.setRead hp [] chunk false fun hne => absurd rfl hne)
        · rw [if_neg hwaits, if_neg hwaits]
          exact .none
      · obtain ⟨rfl, rfl⟩ := hp.idle hleft
        rw [hlistener, hlistener']
        exact .none
    · rw [ht.listener?_far hx]
      cases hlistener : q.listener? x with
      | none => exact .none
      | some j =>
        obtain ⟨a, b, ahead, waits, hp⟩ := ht.pair
        obtain ⟨handle, hget, -, -, hside, -⟩ := listener?_eq_some hlistener
        have hjh : j ≠ h := by
          rintro rfl
          cases hget.symm.trans hp.read
          exact hx (hside.symm.trans hp.side_x)
        have hjc : j ≠ c := by
          rintro rfl
          cases hget.symm.trans hp.spare
          exact hx (hside.symm.trans hp.side_y)
        dsimp only
        rw [ht.other j hjh hjc, hget]
        exact .some (ht.setOther hjh hjc hget _ fun _ => rfl)
  · split
    · exact .some (ht.setLane _ x)
    · exact .none

theorem send (ht : SameUpToReader side h c kept left q r) (k : Nat) (data : Bytes) :
    Agree (SameUpToReader side h c kept left) (q.send k data) (r.send k data) := by
  have htrait := ht.fixedPart_eq k
  unfold Pipe.send
  cases hq : q.handles[k]? with
  | none =>
    rw [hq, Option.map_none, Option.map_eq_none_iff] at htrait
    rw [htrait]
    exact .some ⟨rfl, ht⟩
  | some z =>
    rw [hq, Option.map_some] at htrait
    obtain ⟨z', hr, heq⟩ := Option.map_eq_some_iff.1 htrait
    obtain ⟨hside, hlimit, -⟩ : z'.side = z.side ∧ z'.limit = z.limit ∧ z'.isLive = z.isLive := by
      simpa [Handle.fixedPart] using heq
    rw [hr]
    dsimp only
    rw [hside, hlimit, ht.isClosed, ht.isHeld_eq]
    split
    · exact .some ⟨rfl, ht⟩
    split
    · exact .some ⟨rfl, ht⟩
    split
    · exact .some ⟨rfl, ht⟩
    · exact Medium.agree_of_rel (ht.push _ _) _

/-! ### Receiving -/

theorem ne_of_far (ht : SameUpToReader side h c kept left q r) {k : Nat} (hfar : ¬ q.Owns side k) :
    k ≠ h ∧ k ≠ c := by
  obtain ⟨x, y, ahead, waits, hp⟩ := ht.pair
  refine ⟨?_, ?_⟩
  · rintro rfl
    exact hfar ⟨_, hp.read, hp.side_x⟩
  · rintro rfl
    exact hfar ⟨_, hp.spare, hp.side_y⟩

/-- A receive call at the far end. -/
theorem receive_far (ht : SameUpToReader side h c kept left q r) {k : Nat} (hfar : ¬ q.Owns side k)
    (size : Nat) : Agree (SameUpToReader side h c kept left) (q.receive k size)
    (r.receive k size) := by
  obtain ⟨hkh, hkc⟩ := ht.ne_of_far hfar
  unfold Pipe.receive
  rw [ht.other k hkh hkc]
  cases hget : q.handles[k]? with
  | none => exact .some ⟨rfl, ht⟩
  | some z =>
    have hside : z.side ≠ side := fun hside => hfar ⟨z, hget, hside⟩
    have hset : ∀ {new : Handle}, new.side = z.side →
        SameUpToReader side h c kept left (q.setHandle k new) (r.setHandle k new) := by
      intro new hnew
      exact ht.setOther hkh hkc hget _ fun hs => absurd (hnew.symm.trans hs) hside
    dsimp only
    rw [ht.lane, ht.isClosed, ht.isHeld_eq]
    split
    · exact .some ⟨rfl, hset rfl⟩
    split
    · exact .some ⟨rfl, hset rfl⟩
    split
    · next chunk rest hlane =>
      have hget' : (q.setLane rest z.side).handles[k]? = some z := by simpa using hget
      exact .some ⟨rfl, (ht.setLane rest z.side).setOther hkh hkc hget' _ fun hs => absurd hs hside⟩
    · split
      · exact .some ⟨rfl, hset rfl⟩
      · exact .none

/-- A receive call of the handle in the first copy, and of its clone in the second, once the handle
has used up what it had at hand. -/
theorem receive_own (ht : SameUpToReader side h c kept [] q r) (size : Nat) :
    Agree (SameUpToReader side h c kept []) (q.receive h size) (r.receive c size) := by
  obtain ⟨x, y, ahead, waits, hp⟩ := ht.pair
  have hside : y.side = x.side := hp.side_y.trans hp.side_x.symm
  have hset : ∀ (pending : Bytes), SameUpToReader side h c kept []
      (q.setHandle h { x with pending, listening := false })
      (r.setHandle c { y with pending, listening := false }) := by
    intro pending
    exact ht.setRead hp [] pending false fun hne => absurd rfl hne
  have hlane : r.lane y.side = q.lane x.side := by rw [ht.lane, hside]
  have hheld : r.isHeld y.side.other = q.isHeld x.side.other := by rw [ht.isHeld_eq, hside]
  unfold Pipe.receive
  rw [hp.read, hp.reads, List.nil_append]
  dsimp only
  rw [hlane, hheld, ht.isClosed]
  split
  · exact .some ⟨rfl, hset ahead⟩
  split
  · exact .some ⟨rfl, hset (ahead.drop size)⟩
  split
  · next chunk rest _ =>
    have hnext := (ht.setLane rest x.side).setRead (setLane_paired hp rest x.side) []
      (chunk.drop size) false fun hne => absurd rfl hne
    have hsame : r.setLane rest y.side = r.setLane rest x.side := by rw [hside]
    rw [hsame]
    exact .some ⟨rfl, hnext⟩
  · split
    · exact .some ⟨rfl, hset ahead⟩
    · exact .none

/-- A receive call of the handle while something is at hand, which it is answered with. -/
theorem receive_kept (ht : SameUpToReader side h c kept left q r) (hleft : left ≠ []) (size : Nat) :
    ∃ q', (q.listen h).receive h size = some (.ok (left.take size), q') ∧
      SameUpToReader side h c kept (left.drop size) q' r := by
  obtain ⟨x, y, ahead, waits, hp⟩ := ht.pair
  refine ⟨_, ?_, ht.drain hp hleft size⟩
  obtain ⟨rfl, rfl⟩ := hp.idle hleft
  have hget : (q.listen h).handles[h]? = some { x with pending := left, listening := true } := by
    rw [getElem?_listen hp.read, if_pos rfl, List.append_nil]
  have hset : ∀ new, (q.listen h).setHandle h new = q.setHandle h new := by
    intro new
    rw [listen_eq hp.read, setHandle_setHandle]
  unfold Pipe.receive
  rw [hget]
  dsimp only
  rcases Nat.eq_zero_or_pos size with rfl | hsize
  · rw [if_pos rfl, hset]
    rfl
  · rw [if_neg (Nat.ne_of_gt hsize), if_pos (by simpa using hleft), deliver, hset]

/-- Both are about to receive. -/
theorem listen_own (ht : SameUpToReader side h c kept [] q r) :
    SameUpToReader side h c kept [] (q.listen h) (r.listen c) := by
  obtain ⟨x, y, ahead, waits, hp⟩ := ht.pair
  rw [listen_eq hp.read, listen_eq hp.reads]
  exact ht.setRead hp [] ahead true fun hne => absurd rfl hne

theorem listen_far (ht : SameUpToReader side h c kept left q r) {k : Nat} (hfar : ¬ q.Owns side k) :
    SameUpToReader side h c kept left (q.listen k) (r.listen k) := by
  obtain ⟨hkh, hkc⟩ := ht.ne_of_far hfar
  unfold Pipe.listen
  rw [ht.other k hkh hkc]
  cases hget : q.handles[k]? with
  | none => exact ht
  | some z => exact ht.setOther hkh hkc hget _ fun hside => absurd ⟨z, hget, hside⟩ hfar

/-- Whatever is done to both copies is answered alike, but for receive calls at the end of the pair.
-/
theorem bisimulation (side : Side) (h c : Nat) (kept left : Bytes) :
    Bisimulation (SameUpToReader side h c kept left) (fun p k => ¬ p.Owns side k)
      (fun _ k => k ≠ h ∧ k ≠ c) where
  isLive := by
    intro q r ht k
    have htrait := ht.fixedPart_eq k
    cases hq : q.handles[k]? <;> cases hr : r.handles[k]? <;>
      simp [hq, hr, Handle.fixedPart] at htrait ⊢
    exact htrait.2.2
  peer := peer_eq
  isClosed := SameUpToReader.isClosed
  send := send
  listen ht k hfar := ht.listen_far hfar
  receive ht k size hfar := ht.receive_far hfar size
  mayRead hfar hown := hfar (owns_of_listen hown)
  clone := clone
  close := close
  limit := limit
  drop ht k hk := ht.drop hk.1 hk.2

end SameUpToReader

end Pipe

/-! ## Any steps -/

namespace Scenario

open Pipe

/-- Some steps on a pipe, with the answers to them. -/
def trace (p : Pipe) : List (Nat × PipeStep) → List ((Nat × PipeStep) × PipeReply)
  | [] => []
  | (k, step) :: rest =>
    ((k, step), (step.attempt k p).reply) :: trace (step.attempt k p).pipe rest

/-- The steps at one end are left to a handle and its clone: neither is given up, and of all handles
there only the first one is read. -/
def OnlyReads (side : Side) (h c : Nat) : Pipe → List (Nat × PipeStep) → Prop
  | _, [] => True
  | p, (k, step) :: rest =>
    (step = .drop → k ≠ h ∧ k ≠ c) ∧ (∀ size, step = .receive size → k = h ∨ ¬ p.Owns side k) ∧
      OnlyReads side h c (step.attempt k p).pipe rest

/-- Lets the clone of a handle be read in its place, but not where the handle would be answered with
what it has at hand. -/
def redirect (h c : Nat) : Bytes → List (Nat × PipeStep) → List (Nat × PipeStep)
  | _, [] => []
  | left, (k, .receive size) :: rest =>
    if k = h then
      if left = [] then (c, .receive size) :: redirect h c [] rest
        else redirect h c (left.drop size) rest
    else (k, .receive size) :: redirect h c left rest
  | left, x :: rest => x :: redirect h c left rest

/-- The answers in two traces: a handle is answered with what it has at hand, and from then on as
its clone is in the second trace; everybody else is answered alike. -/
inductive Redirected (h c : Nat) : Bytes → List ((Nat × PipeStep) × PipeReply) →
    List ((Nat × PipeStep) × PipeReply) → Prop where
  | nil (left : Bytes) : Redirected h c left [] []
  | kept {left : Bytes} {size : Nat} {first second} (hleft : left ≠ [])
    (hrest : Redirected h c (left.drop size) first second) :
    Redirected h c left (((h, .receive size), .received (left.take size)) :: first) second
  | own {size : Nat} {reply : PipeReply} {first second} (hrest : Redirected h c [] first second) :
    Redirected h c [] (((h, .receive size), reply) :: first) (((c, .receive size), reply) :: second)
  | other {left : Bytes} {x : Nat × PipeStep} {reply : PipeReply} {first second}
    (hx : ∀ size, x ≠ (h, .receive size) ∧ x ≠ (c, .receive size))
    (hrest : Redirected h c left first second) :
    Redirected h c left ((x, reply) :: first) ((x, reply) :: second)

variable {side : Side} {h c : Nat} {kept left : Bytes} {q r : Pipe}

/-- A receive call of the handle in the first copy, and of its clone in the second, once nothing is
left at hand. -/
theorem sameReply_attempt_own (ht : SameUpToReader side h c kept [] q r) (size : Nat) :
    SameReply (SameUpToReader side h c kept []) ((PipeStep.receive size).attempt h q)
      ((PipeStep.receive size).attempt c r) := by
  obtain ⟨x, y, ahead, waits, hp⟩ := ht.pair
  rw [attempt_receive ⟨_, hp.read, hp.live_x⟩, attempt_receive ⟨_, hp.reads, hp.live_y⟩]
  exact sameReply_receive ht.listen_own (ht.listen_own.receive_own size)

theorem attempt_kept (ht : SameUpToReader side h c kept left q r) (hleft : left ≠ []) (size : Nat) :
    ∃ q', (PipeStep.receive size).attempt h q = .finished (.received (left.take size)) q' ∧
      SameUpToReader side h c kept (left.drop size) q' r := by
  obtain ⟨x, y, ahead, waits, hp⟩ := ht.pair
  obtain ⟨q', hreceive, hupTo⟩ := ht.receive_kept hleft size
  refine ⟨q', ?_, hupTo⟩
  rw [attempt_receive ⟨_, hp.read, hp.live_x⟩, PipeStep.proceed, hreceive]

/-- The handle in one copy is answered as its clone is in the other, after what it had at hand. -/
theorem redirected_trace (ht : SameUpToReader side h c kept left q r)
    {steps : List (Nat × PipeStep)} (hsteps : OnlyReads side h c q steps) :
    Redirected h c left (trace q steps) (trace r (redirect h c left steps)) := by
  induction steps generalizing left q r with
  | nil => exact .nil left
  | cons head rest ih =>
    obtain ⟨k, step⟩ := head
    obtain ⟨hdrop, hread, hrest⟩ := hsteps
    by_cases hown : ∃ size, (k, step) = (h, .receive size)
    · obtain ⟨size, heq⟩ := hown
      cases heq
      rw [redirect, if_pos rfl]
      by_cases hleft : left = []
      · subst hleft
        rw [if_pos rfl]
        have hnext := sameReply_attempt_own ht size
        rw [trace, trace, hnext.reply]
        exact .own (ih hnext.pipe hrest)
      · rw [if_neg hleft]
        obtain ⟨q', hreceive, hupTo⟩ := attempt_kept ht hleft size
        rw [trace, hreceive]
        rw [hreceive] at hrest
        exact .kept hleft (ih hupTo hrest)
    · have hfar : ∀ size, step = .receive size → ¬ q.Owns side k := by
        rintro size rfl
        exact (hread size rfl).resolve_left fun hk => hown ⟨size, by rw [hk]⟩
      have hnext := (SameUpToReader.bisimulation side h c kept left).attempt ht hfar hdrop
      have hredirect :
          redirect h c left ((k, step) :: rest) = (k, step) :: redirect h c left rest := by
        cases step with
        | receive size => rw [redirect, if_neg fun hk => hown ⟨size, by rw [hk]⟩]
        | _ => rfl
      rw [hredirect, trace, trace, hnext.reply]
      refine .other ?_ (ih hnext.pipe hrest)
      intro size
      refine ⟨fun heq => hown ⟨size, heq⟩, ?_⟩
      intro heq
      cases heq
      obtain ⟨x, y, ahead, waits, hp⟩ := ht.pair
      exact hfar size rfl ⟨_, hp.spare, hp.side_y⟩

/-! ## The bytes received -/

/-- What a handle receives in a trace. -/
def receivedBy (k : Nat) : List ((Nat × PipeStep) × PipeReply) → Bytes
  | [] => []
  | ((j, .receive _), .received data) :: rest =>
    if j = k then data ++ receivedBy k rest else receivedBy k rest
  | _ :: rest => receivedBy k rest

theorem receivedBy_own (k size : Nat) (reply : PipeReply)
    (rest : List ((Nat × PipeStep) × PipeReply)) :
    receivedBy k (((k, .receive size), reply) :: rest) = (match reply with
      | .received data => data
      | _ => []) ++ receivedBy k rest := by
  cases reply with
  | received data => rw [receivedBy, if_pos rfl]
  | _ => rfl

theorem receivedBy_other {k : Nat} {x : Nat × PipeStep} (hx : ∀ size, x ≠ (k, .receive size))
    (reply : PipeReply) (rest : List ((Nat × PipeStep) × PipeReply)) :
    receivedBy k ((x, reply) :: rest) = receivedBy k rest := by
  obtain ⟨j, step⟩ := x
  cases step with
  | receive size =>
    have hj : j ≠ k := fun hj => hx size (by rw [hj])
    cases reply with
    | received data => rw [receivedBy, if_neg hj]
    | _ => rfl
  | _ => rfl

namespace Redirected

variable {first second : List ((Nat × PipeStep) × PipeReply)}

/-- The handle receives what its clone receives after some of what it had at hand, and the clone has
nothing to receive until that is used up. -/
theorem receivedBy_eq (he : Redirected h c left first second) :
    ∃ front rest, left = front ++ rest ∧ receivedBy h first = front ++ receivedBy c second ∧
      (rest ≠ [] → receivedBy c second = []) := by
  induction he with
  | nil left => exact ⟨[], left, rfl, rfl, fun _ => rfl⟩
  | @kept left size first second hleft _ ih =>
    obtain ⟨front, rest, hdrop, hreceivedBy, hnone⟩ := ih
    refine ⟨left.take size ++ front, rest, ?_, ?_, hnone⟩
    · rw [List.append_assoc, ← hdrop, List.take_append_drop]
    · rw [receivedBy_own, hreceivedBy, List.append_assoc]
  | own _ ih =>
    obtain ⟨front, rest, hnil, hreceivedBy, -⟩ := ih
    obtain ⟨rfl, rfl⟩ := List.append_eq_nil_iff.1 hnil.symm
    refine ⟨[], [], rfl, ?_, fun hne => absurd rfl hne⟩
    rw [receivedBy_own, receivedBy_own, hreceivedBy]
    rfl
  | other hx _ ih =>
    rw [receivedBy_other fun size => (hx size).1, receivedBy_other fun size => (hx size).2]
    exact ih

/-- A clone of a handle that has nothing at hand gets each of the answers. -/
theorem replies_eq (he : Redirected h c [] first second) :
    first.map Prod.snd = second.map Prod.snd := by
  generalize hleft : ([] : Bytes) = left at he
  induction he with
  | nil => rfl
  | kept hne _ _ => exact absurd hleft.symm hne
  | own _ ih => rw [List.map_cons, List.map_cons, ih rfl]
  | other _ _ ih => rw [List.map_cons, List.map_cons, ih hleft]

end Redirected

end Scenario

namespace Pipe

/-- A handle and its clone, when the clone has just been made. -/
theorem SameUpToReader.start {p : Pipe} {h : Nat} {handle : Handle}
    (hget : p.handles[h]? = some handle)
    (hlive : handle.isLive = true) (hcalm : p.NoneListening handle.side) :
    SameUpToReader handle.side h p.handles.length handle.pending handle.pending (p.clone h).2
      (p.clone h).2 := by
  have hlt := (List.getElem?_eq_some_iff.1 hget).1
  have hidle := hcalm h handle hget rfl
  have hclone : (p.clone h).2.handles =
      p.handles ++ [{ side := handle.side, limit := handle.limit }] := by
    rw [Pipe.clone, hget]
  have hh : (p.clone h).2.handles[h]? = some { handle with listening := false } := by
    rw [hclone, List.getElem?_append_left hlt, hget, ← hidle]
  have hc : (p.clone h).2.handles[p.handles.length]? =
      some { side := handle.side, limit := handle.limit } := by
    rw [hclone, List.getElem?_concat_length]
  refine ⟨Nat.ne_of_lt hlt, rfl, fun _ => rfl, rfl, rfl, fun _ _ _ => rfl, ?_, handle,
    { side := handle.side, limit := handle.limit }, [], false, rfl, rfl, hlive, rfl,
    fun _ => ⟨rfl, rfl⟩, ?_, hc, hh, hc⟩
  · intro k z _ hkc hk hside
    rw [hclone, List.getElem?_append] at hk
    split at hk
    · exact hcalm k z hk hside
    · rw [List.mem_singleton.1 (List.mem_of_getElem? hk)]
  · rw [hh, List.append_nil]

end Pipe

end TextRelay
