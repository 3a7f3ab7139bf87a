import TextRelay.Pipe

/-!
# What the operations of a pipe do

Each operation that has several outcomes is taken apart once: `push_cases`, `send_cases` and
`receive_cases` say everything a call can have done, with the conditions under which it did so.
`Pipe.Sound` collects what holds of every pipe whatever was done to it: no chunk is empty, no limit
forbids every send, and no lane holds more than its capacity. An end of stream is never mistaken for
a chunk because of it.
-/

namespace TextRelay

namespace Pipe

/-! ## Ends, lanes and handles -/

@[simp] theorem Side.other_other (side : Side) : side.other.other = side := by
  cases side <;> rfl

@[simp] theorem Side.other_ne (side : Side) : side.other ≠ side := by
  cases side <;> decide

@[simp] theorem Side.ne_other (side : Side) : side ≠ side.other :=
  (Side.other_ne side).symm

theorem Side.eq_other_of_ne {x side : Side} (h : x ≠ side) : x = side.other := by
  cases x <;> cases side <;> simp_all [Side.other]

@[simp] theorem lane_setLane (p : Pipe) (chunks : List Bytes) (side x : Side) :
    (p.setLane chunks side).lane x = if x = side then chunks else p.lane x := by
  cases side <;> cases x <;> rfl

@[simp] theorem setLane_handles (p : Pipe) (chunks : List Bytes) (side : Side) :
    (p.setLane chunks side).handles = p.handles := by
  cases side <;> rfl

@[simp] theorem setLane_capacity (p : Pipe) (chunks : List Bytes) (side : Side) :
    (p.setLane chunks side).capacity = p.capacity := by
  cases side <;> rfl

@[simp] theorem setLane_isClosed (p : Pipe) (chunks : List Bytes) (side : Side) :
    (p.setLane chunks side).isClosed = p.isClosed := by
  cases side <;> rfl

@[simp] theorem lane_setHandle (p : Pipe) (h : Nat) (handle : Handle) (side : Side) :
    (p.setHandle h handle).lane side = p.lane side := by
  cases side <;> rfl

@[simp] theorem setHandle_capacity (p : Pipe) (h : Nat) (handle : Handle) :
    (p.setHandle h handle).capacity = p.capacity := rfl

@[simp] theorem setHandle_isClosed (p : Pipe) (h : Nat) (handle : Handle) :
    (p.setHandle h handle).isClosed = p.isClosed := rfl

@[simp] theorem lane_close (p : Pipe) (side : Side) : p.close.lane side = p.lane side := by
  cases side <;> rfl

@[simp] theorem close_handles (p : Pipe) : p.close.handles = p.handles := rfl

@[simp] theorem close_isClosed (p : Pipe) : p.close.isClosed = true := rfl

@[simp] theorem close_capacity (p : Pipe) : p.close.capacity = p.capacity := rfl

theorem getElem?_setHandle {p : Pipe} {h : Nat} {old : Handle} (hold : p.handles[h]? = some old)
    (new : Handle) (j : Nat) :
    (p.setHandle h new).handles[j]? = if j = h then some new else p.handles[j]? := by
  obtain ⟨hlt, -⟩ := List.getElem?_eq_some_iff.1 hold
  simp only [setHandle, List.getElem?_set]
  by_cases hj : h = j
  · subst hj
    simp [hlt]
  · simp [hj, Ne.symm hj]

@[simp] theorem setHandle_setHandle (p : Pipe) (h : Nat) (first second : Handle) :
    (p.setHandle h first).setHandle h second = p.setHandle h second := by
  simp [setHandle]

theorem isHeld_iff {p : Pipe} {side : Side} :
    p.isHeld side = true ↔
      ∃ (j : Nat) (handle : Handle), p.handles[j]? = some handle ∧ handle.isLive = true ∧
        handle.side = side := by
  simp only [isHeld, List.any_eq_true, Bool.and_eq_true, decide_eq_true_eq]
  constructor
  · rintro ⟨handle, hmem, hlive, hside⟩
    obtain ⟨j, hj⟩ := List.mem_iff_getElem?.1 hmem
    exact ⟨j, handle, hj, hlive, hside⟩
  · rintro ⟨j, handle, hj, hlive, hside⟩
    exact ⟨handle, List.mem_of_getElem? hj, hlive, hside⟩

@[simp] theorem isHeld_close (p : Pipe) (side : Side) : p.close.isHeld side = p.isHeld side := rfl

@[simp] theorem isHeld_setLane (p : Pipe) (chunks : List Bytes) (x side : Side) :
    (p.setLane chunks x).isHeld side = p.isHeld side := by
  simp [isHeld]

/-- An end stays held when a handle is replaced by one of the same end that is as alive. -/
theorem isHeld_setHandle {p : Pipe} {h : Nat} {old : Handle} (hold : p.handles[h]? = some old)
    (new : Handle) (hside : new.side = old.side) (hlive : new.isLive = old.isLive) (side : Side) :
    (p.setHandle h new).isHeld side = p.isHeld side := by
  rw [Bool.eq_iff_iff, isHeld_iff, isHeld_iff]
  constructor
  · rintro ⟨j, handle, hj, hl, hs⟩
    rw [getElem?_setHandle hold] at hj
    split at hj
    · cases hj
      exact ⟨h, old, hold, hlive ▸ hl, hside ▸ hs⟩
    · exact ⟨j, handle, hj, hl, hs⟩
  · rintro ⟨j, handle, hj, hl, hs⟩
    by_cases hjh : j = h
    · subst hjh
      rw [hold] at hj
      cases hj
      exact ⟨j, new, by simp [getElem?_setHandle hold], hlive ▸ hl, hside ▸ hs⟩
    · exact ⟨j, handle, by simp [getElem?_setHandle hold, hjh, hj], hl, hs⟩

/-! ## Waiting -/

/-- A handle that is about to receive is otherwise as it was. -/
theorem listen_eq {p : Pipe} {h : Nat} {handle : Handle} (hget : p.handles[h]? = some handle) :
    p.listen h = p.setHandle h { handle with listening := true } := by
  simp [listen, hget]

theorem getElem?_listen {p : Pipe} {h : Nat} {handle : Handle}
    (hget : p.handles[h]? = some handle) (j : Nat) :
    (p.listen h).handles[j]? =
      if j = h then some { handle with listening := true } else p.handles[j]? := by
  rw [listen_eq hget, getElem?_setHandle hget]

@[simp] theorem lane_listen (p : Pipe) (h : Nat) (side : Side) :
    (p.listen h).lane side = p.lane side := by
  unfold listen
  split <;> simp

@[simp] theorem isHeld_listen (p : Pipe) (h : Nat) (side : Side) :
    (p.listen h).isHeld side = p.isHeld side := by
  unfold listen
  split
  · rfl
  · next handle hget => exact isHeld_setHandle hget { handle with listening := true } rfl rfl side

/-! ## Sending -/

/-- The chunk that one send of a handle makes of some bytes. -/
def Handle.portion (handle : Handle) (data : Bytes) : Bytes :=
  match handle.limit with
  | some limit => data.take limit
  | none => data

theorem Handle.take_length_portion (handle : Handle) (data : Bytes) :
    data.take (handle.portion data).length = handle.portion data := by
  unfold Handle.portion
  cases handle.limit with
  | none => simp
  | some limit => simp [List.take_eq_take_iff]

theorem listener?_eq_some {p : Pipe} {side : Side} {j : Nat} (h : p.listener? side = some j) :
    ∃ handle, p.handles[j]? = some handle ∧ handle.isLive = true ∧ handle.listening = true ∧
      handle.side = side ∧ handle.pending = [] := by
  obtain ⟨hlt, hpred, -⟩ := List.findIdx?_eq_some_iff_getElem.1 h
  simp only [Bool.and_eq_true, decide_eq_true_eq, List.isEmpty_iff] at hpred
  exact ⟨p.handles[j], List.getElem?_eq_getElem hlt, hpred.1.1.1, hpred.1.1.2, hpred.1.2, hpred.2⟩

/-- A chunk that is let in joins its lane; where lanes hold nothing, it goes straight to a handle
that was waiting for it. -/
theorem push_cases {p p' : Pipe} {side : Side} {chunk : Bytes} (h : p.push side chunk = some p') :
    (p.capacity ≠ some 0 ∧ (∀ room, p.capacity = some room → (p.lane side).length < room) ∧
      p' = p.setLane (p.lane side ++ [chunk]) side) ∨
    (p.capacity = some 0 ∧ ∃ j handle, p.listener? side = some j ∧ p.handles[j]? = some handle ∧
      handle.isLive = true ∧ handle.side = side ∧ handle.pending = [] ∧
      handle.listening = true ∧
      p' = p.setHandle j { handle with pending := chunk, listening := false }) := by
  unfold push at h
  split at h
  · next hcap =>
    left
    simp only [Option.some.injEq] at h
    exact ⟨by simp [hcap], by simp [hcap], h.symm⟩
  · next hcap =>
    right
    split at h
    · cases h
    · next j hj =>
      obtain ⟨handle, hget, hlive, hlistening, hside, hpending⟩ := listener?_eq_some hj
      simp only [hget, Option.some.injEq] at h
      exact ⟨hcap, j, handle, hj, hget, hlive, hside, hpending, hlistening, h.symm⟩
  · next room hne hcap =>
    left
    split at h
    · next hlt =>
      simp only [Option.some.injEq] at h
      refine ⟨?_, ?_, h.symm⟩
      · rw [hcap]
        intro h0
        exact hne (Option.some.inj h0)
      · intro room' hroom
        rw [hcap] at hroom
        cases hroom
        exact hlt
    · cases h

/-- What a send call can have done: failed, taken nothing because nothing was offered, or let one
chunk in. -/
theorem send_cases {p p' : Pipe} {h : Nat} {data : Bytes} {answer : Except Fault Nat}
    (hsend : p.send h data = some (answer, p')) :
    (answer = .error broken ∧ p' = p) ∨ (answer = .ok 0 ∧ p' = p) ∨
    ∃ handle, p.handles[h]? = some handle ∧ p.isClosed = false ∧ data ≠ [] ∧
      p.isHeld handle.side.other = true ∧ answer = .ok (handle.portion data).length ∧
      p.push handle.side.other (handle.portion data) = some p' := by
  unfold send at hsend
  split at hsend
  · simp only [Option.some.injEq, Prod.mk.injEq] at hsend
    exact .inl ⟨hsend.1.symm, hsend.2.symm⟩
  · next handle hget =>
    split at hsend
    · simp only [Option.some.injEq, Prod.mk.injEq] at hsend
      exact .inl ⟨hsend.1.symm, hsend.2.symm⟩
    · next hopen =>
      split at hsend
      · simp only [Option.some.injEq, Prod.mk.injEq] at hsend
        exact .inr (.inl ⟨hsend.1.symm, hsend.2.symm⟩)
      · next hdata =>
        split at hsend
        · simp only [Option.some.injEq, Prod.mk.injEq] at hsend
          exact .inl ⟨hsend.1.symm, hsend.2.symm⟩
        · next hheld =>
          obtain ⟨q, hpush, heq⟩ := Option.map_eq_some_iff.1 hsend
          simp only [Prod.mk.injEq] at heq
          obtain ⟨rfl, rfl⟩ := heq
          refine .inr (.inr ⟨handle, hget, by simpa using hopen, by simpa using hdata,
            by simpa using hheld, rfl, hpush⟩)

/-- In an open pipe without bounds, a send to somebody takes all it is offered. -/
theorem send_all {p : Pipe} {h : Nat} {data : Bytes} {handle : Handle}
    (hget : p.handles[h]? = some handle) (hcapacity : p.capacity = none)
    (hlimit : handle.limit = none) (hopen : p.isClosed = false)
    (hheld : p.isHeld handle.side.other = true) (hdata : data ≠ []) :
    p.send h data = some (.ok data.length,
      p.setLane (p.lane handle.side.other ++ [data]) handle.side.other) := by
  simp [send, hget, hopen, hdata, hheld, hlimit, push, hcapacity]

/-! ## Receiving -/

/-- What a receive call with room in its buffer can have done: gone on with the chunk at hand, taken
the next chunk, or found the end of the stream. -/
theorem receive_cases {p p' : Pipe} {h size : Nat} {answer : Except Fault Bytes} {handle : Handle}
    (hget : p.handles[h]? = some handle) (hsize : 0 < size)
    (hreceive : p.receive h size = some (answer, p')) :
    (handle.pending ≠ [] ∧ answer = .ok (handle.pending.take size) ∧
      p' = p.setHandle h
        { handle with pending := handle.pending.drop size, listening := false }) ∨
    (handle.pending = [] ∧ ∃ chunk rest, p.lane handle.side = chunk :: rest ∧
      answer = .ok (chunk.take size) ∧
      p' = (p.setLane rest handle.side).setHandle h
        { handle with pending := chunk.drop size, listening := false }) ∨
    (handle.pending = [] ∧ p.lane handle.side = [] ∧
      (p.isClosed = true ∨ p.isHeld handle.side.other = false) ∧ answer = .ok [] ∧
      p' = p.setHandle h { handle with listening := false }) := by
  simp only [receive, hget] at hreceive
  rw [if_neg (by omega)] at hreceive
  split at hreceive
  · next hpending =>
    left
    simp only [deliver, Option.some.injEq, Prod.mk.injEq] at hreceive
    exact ⟨by simpa using hpending, hreceive.1.symm, hreceive.2.symm⟩
  · next hpending =>
    have hempty : handle.pending = [] := by simpa using hpending
    right
    split at hreceive
    · next chunk rest hlane =>
      left
      simp only [deliver, Option.some.injEq, Prod.mk.injEq] at hreceive
      exact ⟨hempty, chunk, rest, hlane, hreceive.1.symm, hreceive.2.symm⟩
    · next hlane =>
      right
      split at hreceive
      · next hend =>
        simp only [Option.some.injEq, Prod.mk.injEq] at hreceive
        exact ⟨hempty, hlane, by simpa using hend, hreceive.1.symm, hreceive.2.symm⟩
      · cases hreceive

/-- A receive call brings no more than its buffer holds. -/
theorem length_le_of_receive {p p' : Pipe} {h size : Nat} {chunk : Bytes}
    (hreceive : p.receive h size = some (.ok chunk, p')) : chunk.length ≤ size := by
  have hnothing : ([] : Bytes).length ≤ size := Nat.zero_le size
  unfold receive at hreceive
  split at hreceive
  · cases hreceive
    exact hnothing
  · next handle hget =>
    by_cases hsize : size = 0
    · rw [if_pos hsize] at hreceive
      cases hreceive
      exact hnothing
    · have hcases : p.receive h size = some (.ok chunk, p') := by
        simpa only [receive, hget] using hreceive
      obtain ⟨-, ha, -⟩ | ⟨-, whole, rest, -, ha, -⟩ | ⟨-, -, -, ha, -⟩ :=
        receive_cases hget (Nat.pos_of_ne_zero hsize) hcases
      · cases ha
        exact List.length_take_le ..
      · cases ha
        exact List.length_take_le ..
      · cases ha
        exact hnothing

/-- At the end of the stream a receive call returns with nothing. -/
theorem receive_of_ended {p : Pipe} {h size : Nat} {handle : Handle}
    (hget : p.handles[h]? = some handle) (hsize : 0 < size) (hpending : handle.pending = [])
    (hlane : p.lane handle.side = [])
    (hover : p.isClosed = true ∨ p.isHeld handle.side.other = false) :
    p.receive h size = some (.ok [], p.setHandle h { handle with listening := false }) := by
  have hcond : (p.isClosed || !p.isHeld handle.side.other) = true := by simpa using hover
  simp only [receive, hget, Nat.ne_of_gt hsize, if_false, hpending, List.isEmpty_nil,
    Bool.not_true, Bool.false_eq_true, hlane, hcond, if_true]

/-- No receive call blocks in a closed pipe. -/
theorem receive_of_isClosed {p : Pipe} (hclosed : p.isClosed = true) (h size : Nat) :
    p.receive h size ≠ none := by
  unfold receive
  split
  · simp
  · split
    · simp
    · split
      · simp
      · split <;> simp [hclosed]

/-- A receive call never fails. -/
theorem receive_ok {p p' : Pipe} {h size : Nat} {answer : Except Fault Bytes}
    (hreceive : p.receive h size = some (answer, p')) : ∃ data, answer = .ok data := by
  cases hget : p.handles[h]? with
  | none =>
    simp only [receive, hget, Option.some.injEq, Prod.mk.injEq] at hreceive
    exact ⟨[], hreceive.1.symm⟩
  | some handle =>
    rcases Nat.eq_zero_or_pos size with rfl | hsize
    · simp only [receive, hget, if_true, Option.some.injEq, Prod.mk.injEq] at hreceive
      exact ⟨[], hreceive.1.symm⟩
    · obtain ⟨-, ha, -⟩ | ⟨-, chunk, rest, -, ha, -⟩ | ⟨-, -, -, ha, -⟩ :=
        receive_cases hget hsize hreceive
      · exact ⟨_, ha⟩
      · exact ⟨_, ha⟩
      · exact ⟨_, ha⟩

/-! ## What stays

Only `close` closes a pipe, and its capacity never changes. -/

theorem send_keeps {p p' : Pipe} {h : Nat} {data : Bytes} {answer : Except Fault Nat}
    (hsend : p.send h data = some (answer, p')) :
    p'.isClosed = p.isClosed ∧ p'.capacity = p.capacity := by
  obtain ⟨-, rfl⟩ | ⟨-, rfl⟩ | ⟨handle, -, -, -, -, -, hpush⟩ := send_cases hsend
  · exact ⟨rfl, rfl⟩
  · exact ⟨rfl, rfl⟩
  · obtain ⟨-, -, rfl⟩ | ⟨-, j, waiting, -, -, -, -, -, -, rfl⟩ := push_cases hpush
    · simp
    · exact ⟨rfl, rfl⟩

theorem receive_keeps {p p' : Pipe} {h size : Nat} {answer : Except Fault Bytes}
    (hreceive : p.receive h size = some (answer, p')) :
    p'.isClosed = p.isClosed ∧ p'.capacity = p.capacity := by
  cases hget : p.handles[h]? with
  | none =>
    simp only [receive, hget, Option.some.injEq, Prod.mk.injEq] at hreceive
    rw [hreceive.2]
    exact ⟨rfl, rfl⟩
  | some handle =>
    rcases Nat.eq_zero_or_pos size with rfl | hsize
    · simp only [receive, hget, if_true, Option.some.injEq, Prod.mk.injEq] at hreceive
      rw [← hreceive.2]
      exact ⟨rfl, rfl⟩
    · obtain ⟨-, -, rfl⟩ | ⟨-, chunk, rest, -, -, rfl⟩ | ⟨-, -, -, -, rfl⟩ :=
        receive_cases hget hsize hreceive
      · exact ⟨rfl, rfl⟩
      · simp
      · exact ⟨rfl, rfl⟩

@[simp] theorem listen_isClosed (p : Pipe) (h : Nat) : (p.listen h).isClosed = p.isClosed := by
  unfold listen
  split <;> rfl

@[simp] theorem listen_capacity (p : Pipe) (h : Nat) : (p.listen h).capacity = p.capacity := by
  unfold listen
  split <;> rfl

@[simp] theorem clone_isClosed (p : Pipe) (h : Nat) : (p.clone h).2.isClosed = p.isClosed := by
  unfold clone
  split <;> rfl

@[simp] theorem clone_capacity (p : Pipe) (h : Nat) : (p.clone h).2.capacity = p.capacity := by
  unfold clone
  split <;> rfl

@[simp] theorem limit_isClosed (p : Pipe) (h most : Nat) :
    (p.limit h most).isClosed = p.isClosed := by
  unfold limit
  split <;> rfl

@[simp] theorem limit_capacity (p : Pipe) (h most : Nat) :
    (p.limit h most).capacity = p.capacity := by
  unfold limit
  split <;> rfl

@[simp] theorem drop_isClosed (p : Pipe) (h : Nat) : (p.drop h).isClosed = p.isClosed := by
  unfold drop
  split
  · rfl
  · dsimp only
    split <;> simp

@[simp] theorem drop_capacity (p : Pipe) (h : Nat) : (p.drop h).capacity = p.capacity := by
  unfold drop
  split
  · rfl
  · dsimp only
    split <;> simp

/-! ## What holds of every pipe -/

/-- No chunk on its way is empty, no limit keeps a send from taking anything, and no lane holds more
than the pipe's capacity. -/
structure Sound (p : Pipe) : Prop where
  chunk_ne : ∀ side, ∀ chunk ∈ p.lane side, chunk ≠ []
  limit_pos : ∀ {h : Nat} {handle : Handle}, p.handles[h]? = some handle →
    ∀ most, handle.limit = some most → 0 < most
  room : ∀ most, p.capacity = some most → ∀ side, (p.lane side).length ≤ most

namespace Sound

variable {p p' : Pipe} {h : Nat}

/-- A pipe that nothing was done to. -/
theorem fresh (capacity : Option Nat) : Sound { capacity } := by
  refine ⟨?_, ?_, ?_⟩
  · intro side chunk hmem
    cases side <;> simp [lane] at hmem
  · intro h handle hget most hmost
    have hmem := List.mem_of_getElem? hget
    simp only [List.mem_cons, List.not_mem_nil, or_false] at hmem
    obtain rfl | rfl := hmem <;> cases hmost
  · intro most _ side
    cases side <;> simp [lane]

/-- Chunks on their way have bytes in them. -/
theorem lane_eq_nil (hp : p.Sound) {side : Side} (hflat : (p.lane side).flatten = []) :
    p.lane side = [] := by
  cases hlane : p.lane side with
  | nil => rfl
  | cons chunk rest =>
    rw [hlane, List.flatten_cons, List.append_eq_nil_iff] at hflat
    exact absurd hflat.1 (hp.chunk_ne side chunk (hlane ▸ List.mem_cons_self))

/-- Replacing the chunks of a lane by chunks that fit. -/
theorem setLane (hp : p.Sound) {chunks : List Bytes} (hne : ∀ chunk ∈ chunks, chunk ≠ [])
    (hroom : ∀ most, p.capacity = some most → chunks.length ≤ most) (side : Side) :
    (p.setLane chunks side).Sound := by
  refine ⟨?_, ?_, ?_⟩
  · intro x chunk hmem
    rw [lane_setLane] at hmem
    split at hmem
    · exact hne chunk hmem
    · exact hp.chunk_ne x chunk hmem
  · intro h handle hget
    rw [setLane_handles] at hget
    exact hp.limit_pos hget
  · intro most hmost x
    rw [setLane_capacity] at hmost
    rw [lane_setLane]
    split
    · exact hroom most hmost
    · exact hp.room most hmost x

/-- Replacing a handle by one whose limit, if it has one, lets something through. -/
theorem setHandle (hp : p.Sound) {old new : Handle} (hold : p.handles[h]? = some old)
    (hlimit : ∀ most, new.limit = some most → 0 < most) : (p.setHandle h new).Sound := by
  refine ⟨?_, ?_, ?_⟩
  · simpa using hp.chunk_ne
  · intro j handle hget
    rw [getElem?_setHandle hold] at hget
    split at hget
    · cases hget
      exact hlimit
    · exact hp.limit_pos hget
  · simpa using hp.room

/-- Replacing a handle by one with the same limit. -/
theorem updateHandle (hp : p.Sound) {old new : Handle} (hold : p.handles[h]? = some old)
    (hlimit : new.limit = old.limit) : (p.setHandle h new).Sound :=
  hp.setHandle hold (hlimit ▸ hp.limit_pos hold)

/-- A send makes no empty chunk of some bytes. -/
theorem portion_ne (hp : p.Sound) {handle : Handle} (hget : p.handles[h]? = some handle)
    {data : Bytes} (hdata : data ≠ []) : handle.portion data ≠ [] := by
  unfold Handle.portion
  cases hlimit : handle.limit with
  | none => exact hdata
  | some most =>
    have hpos : 0 < most := hp.limit_pos hget most hlimit
    simp only [ne_eq, List.take_eq_nil_iff, hdata, or_false]
    omega

theorem push (hp : p.Sound) {side : Side} {chunk : Bytes} (hne : chunk ≠ [])
    (hpush : p.push side chunk = some p') : p'.Sound := by
  obtain ⟨-, hlt, rfl⟩ | ⟨-, j, handle, -, hget, -, -, -, -, rfl⟩ := push_cases hpush
  · refine hp.setLane ?_ ?_ side
    · intro c hc
      rcases List.mem_append.1 hc with hc | hc
      · exact hp.chunk_ne side c hc
      · rw [List.mem_singleton.1 hc]
        exact hne
    · intro most hmost
      have := hlt most hmost
      simp only [List.length_append, List.length_singleton]
      omega
  · exact hp.updateHandle hget rfl

theorem send (hp : p.Sound) {data : Bytes} {answer : Except Fault Nat}
    (hsend : p.send h data = some (answer, p')) : p'.Sound := by
  obtain ⟨-, rfl⟩ | ⟨-, rfl⟩ | ⟨handle, hget, -, hdata, -, -, hpush⟩ := send_cases hsend
  · exact hp
  · exact hp
  · exact hp.push (hp.portion_ne hget hdata) hpush

theorem receive (hp : p.Sound) {size : Nat} {answer : Except Fault Bytes}
    (hreceive : p.receive h size = some (answer, p')) : p'.Sound := by
  cases hget : p.handles[h]? with
  | none =>
    simp only [Pipe.receive, hget, Option.some.injEq, Prod.mk.injEq] at hreceive
    exact hreceive.2 ▸ hp
  | some handle =>
    rcases Nat.eq_zero_or_pos size with rfl | hsize
    · simp only [Pipe.receive, hget, if_true, Option.some.injEq, Prod.mk.injEq] at hreceive
      exact hreceive.2 ▸ hp.updateHandle hget rfl
    · obtain ⟨-, -, rfl⟩ | ⟨-, chunk, rest, hlane, -, rfl⟩ | ⟨-, -, -, -, rfl⟩ :=
        receive_cases hget hsize hreceive
      · exact hp.updateHandle hget rfl
      · have hget' : (p.setLane rest handle.side).handles[h]? = some handle := by simpa using hget
        refine (hp.setLane ?_ ?_ handle.side).updateHandle hget' rfl
        · intro c hc
          exact hp.chunk_ne handle.side c (hlane ▸ List.mem_cons_of_mem chunk hc)
        · intro most hmost
          have := hp.room most hmost handle.side
          simp only [hlane, List.length_cons] at this
          omega
      · exact hp.updateHandle hget rfl

theorem listen (hp : p.Sound) (h : Nat) : (p.listen h).Sound := by
  unfold Pipe.listen
  split
  · exact hp
  · next handle hget => exact hp.updateHandle hget rfl

theorem clone (hp : p.Sound) (h : Nat) : (p.clone h).2.Sound := by
  unfold Pipe.clone
  split
  · exact hp
  · next handle hget =>
    refine ⟨hp.chunk_ne, ?_, hp.room⟩
    intro j other hj
    rw [List.getElem?_append] at hj
    split at hj
    · exact hp.limit_pos hj
    · have hmem := List.mem_of_getElem? hj
      intro most hmost
      rw [List.mem_singleton.1 hmem] at hmost
      exact hp.limit_pos hget most hmost

theorem close (hp : p.Sound) : p.close.Sound :=
  ⟨by simpa using hp.chunk_ne, hp.limit_pos, by simpa using hp.room⟩

theorem drop (hp : p.Sound) (h : Nat) : (p.drop h).Sound := by
  unfold Pipe.drop
  split
  · exact hp
  · next handle hget =>
    have hgone : (p.setHandle h
        { handle with isLive := false, pending := [], listening := false }).Sound :=
      hp.updateHandle hget rfl
    dsimp only
    split
    · exact hgone
    · exact hgone.setLane (by simp) (by simp) handle.side

theorem limit (hp : p.Sound) (h most : Nat) : (p.limit h most).Sound := by
  unfold Pipe.limit
  split
  · exact hp
  · next handle hget =>
    refine hp.setHandle hget ?_
    intro m hm
    cases hm
    omega

end Sound

end Pipe

end TextRelay
