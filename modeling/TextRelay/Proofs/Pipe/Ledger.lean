import TextRelay.Proofs.Pipe.Attempts

/-!
# Nothing is lost in a pipe

A ledger is a pipe that records its traffic: which chunks it let in towards each end, which chunks
came out there and to which handle they went, and what the receive calls of each handle returned. It
is a medium like the pipe it keeps, and it does exactly what the pipe does (`pipe_attempts`).

`Balanced` is what the records say at every moment. The chunks let in are those that came out,
followed by those still on their way, as long as somebody is there to receive them; and what a live
handle has returned, followed by what it has at hand, is all it took out. Clones share the lanes,
but each has its own page.
-/

namespace TextRelay

open Pipe Scenario

/-- A pipe whose traffic is written down. -/
structure Ledger where
  pipe : Pipe
  /-- The chunks let in on their way to an end, the oldest first. -/
  accepted : Side → List Bytes := fun _ => []
  /-- The chunks that came out at an end, each with the handle it went to, the oldest first. -/
  popped : Side → List (Nat × Bytes) := fun _ => []
  /-- All that the receive calls of a handle have returned. -/
  returned : Nat → Bytes := fun _ => []

namespace Ledger

/-- The ledger of a fresh pipe. -/
def fresh (capacity : Option Nat) : Ledger := { pipe := { capacity } }

/-- Adds an item to the list of one end. -/
def appendTo {α : Type} (lists : Side → List α) (side : Side) (item : α) : Side → List α :=
  fun x => if x = side then lists x ++ [item] else lists x

/-- The chunks that a handle took out at an end. -/
def poppedBy (l : Ledger) (side : Side) (h : Nat) : List Bytes :=
  ((l.popped side).filter (·.1 == h)).map (·.2)

/-- Writes down that a handle takes a chunk out at an end. -/
def pop (l : Ledger) (side : Side) (h : Nat) (chunk : Bytes) : Ledger :=
  { l with popped := appendTo l.popped side (h, chunk) }

/-- Writes down a chunk that is let in. Where lanes hold nothing, it comes out at once. -/
def noteAccepted (l : Ledger) (side : Side) (chunk : Bytes) : Ledger :=
  let l := { l with accepted := appendTo l.accepted side chunk }
  match l.pipe.capacity, l.pipe.listener? side with
  | some 0, some j => l.pop side j chunk
  | _, _ => l

/-- Writes down the chunk that a receive call takes out, if it takes one. -/
def notePopped (l : Ledger) (h size : Nat) : Ledger :=
  match l.pipe.handles[h]? with
  | none => l
  | some handle =>
    match l.pipe.lane handle.side with
    | [] => l
    | chunk :: _ => if size = 0 ∨ handle.pending ≠ [] then l else l.pop handle.side h chunk

/-- Writes down what a receive call returned. -/
def noteReturned (l : Ledger) (h : Nat) (data : Bytes) : Ledger :=
  { l with returned := fun j => if j = h then l.returned j ++ data else l.returned j }

/-- A send call, and what is to be written down about it. -/
def send (l : Ledger) (h : Nat) (data : Bytes) : Option (Except Fault Nat × Ledger) :=
  (l.pipe.send h data).map fun (answer, p) =>
    match answer, l.pipe.handles[h]? with
    | .ok (n + 1), some handle =>
      (answer, { l.noteAccepted handle.side.other (data.take (n + 1)) with pipe := p })
    | _, _ => (answer, { l with pipe := p })

/-- A receive call, and what is to be written down about it. -/
def receive (l : Ledger) (h size : Nat) : Option (Except Fault Bytes × Ledger) :=
  (l.pipe.receive h size).map fun (answer, p) =>
    match answer with
    | .ok data => (answer, { (l.notePopped h size).noteReturned h data with pipe := p })
    | .error _ => (answer, { l with pipe := p })

/-- A ledger carries streams as its pipe does. -/
instance : Medium Ledger where
  send := send
  listen l h := { l with pipe := l.pipe.listen h }
  receive := receive
  clone l h := (.ok (l.pipe.clone h).1, { l with pipe := (l.pipe.clone h).2 })
  shutdown l _ := (.ok (), { l with pipe := l.pipe.close })
  drop l h := { l with pipe := l.pipe.drop h }
  peer l := l.pipe.peer
  inTransit l := l.pipe.inTransit

/-- The ledger after a step on a handle that is there, as far as it could go. -/
def proceed (l : Ledger) (h : Nat) : PipeStep → Ledger
  | .send data => ((l.send h data).map (·.2)).getD l
  | .sendAll d => (Medium.sendAll h (d.data.length + 1) l d).after
  | .receive size =>
    let l := { l with pipe := l.pipe.listen h }
    ((l.receive h size).map (·.2)).getD l
  | .shutdown => { l with pipe := l.pipe.close }
  | .peer | .isClosed => l
  | .clone => { l with pipe := (l.pipe.clone h).2 }
  | .limit most => { l with pipe := l.pipe.limit h most }
  | .drop => { l with pipe := l.pipe.drop h }

/-- The ledger after a step on a handle. -/
def attempt (l : Ledger) (h : Nat) (step : PipeStep) : Ledger :=
  if (l.pipe.handles[h]?).any (·.isLive) || step = .drop then l.proceed h step else l

/-- The ledger after some steps, each as far as it could go. -/
def attempts (l : Ledger) : List (Nat × PipeStep) → Ledger
  | [] => l
  | (h, step) :: rest => (l.attempt h step).attempts rest

/-! ## Records change nothing -/

theorem send_erase (l : Ledger) (h : Nat) (data : Bytes) :
    (l.send h data).map (fun r => (r.1, r.2.pipe)) = l.pipe.send h data := by
  unfold send
  cases l.pipe.send h data with
  | none => rfl
  | some result =>
    simp only [Option.map_some, Option.some.injEq]
    split <;> rfl

theorem receive_erase (l : Ledger) (h size : Nat) :
    (l.receive h size).map (fun r => (r.1, r.2.pipe)) = l.pipe.receive h size := by
  unfold receive
  cases l.pipe.receive h size with
  | none => rfl
  | some result =>
    obtain ⟨answer, p⟩ := result
    cases answer <;> rfl

/-- A delivery goes the same way with records and without. -/
theorem sendAll_erase (h fuel : Nat) (l : Ledger) (d : Delivery) :
    (Medium.sendAll h fuel l d).after.pipe = (Medium.sendAll h fuel l.pipe d).after := by
  induction fuel generalizing l d with
  | zero => rfl
  | succ fuel ih =>
    unfold Medium.sendAll
    split
    · rfl
    · have hsend := l.send_erase h d.remaining
      change (Medium.send l h d.remaining).map (fun r => (r.1, r.2.pipe))
        = Medium.send l.pipe h d.remaining at hsend
      rw [← hsend]
      cases Medium.send l h d.remaining with
      | none => rfl
      | some result =>
        obtain ⟨answer, l'⟩ := result
        dsimp only [Option.map_some]
        cases d.feed answer with
        | error fault => rfl
        | ok next => exact ih l' next

theorem pipe_attempt (l : Ledger) (h : Nat) (step : PipeStep) :
    (l.attempt h step).pipe = (step.attempt h l.pipe).pipe := by
  unfold attempt PipeStep.attempt
  split
  · cases step with
    | send data =>
      have hsend := l.send_erase h data
      cases hs : l.send h data with
      | none =>
        rw [hs] at hsend
        simp [proceed, PipeStep.proceed, hs, ← hsend, PipeProgress.pipe]
      | some result =>
        obtain ⟨answer, l'⟩ := result
        rw [hs] at hsend
        cases answer <;> simp [proceed, PipeStep.proceed, hs, ← hsend, PipeProgress.pipe]
    | sendAll d =>
      have hall := sendAll_erase h (d.data.length + 1) l d
      rw [proceed, hall, PipeStep.proceed]
      cases Medium.sendAll h (d.data.length + 1) l.pipe d with
      | ended result p => cases result <;> rfl
      | blocked left p => rfl
    | receive size =>
      have hreceive := receive_erase { l with pipe := l.pipe.listen h } h size
      cases hr : receive { l with pipe := l.pipe.listen h } h size with
      | none =>
        rw [hr] at hreceive
        simp [proceed, PipeStep.proceed, hr, ← hreceive, PipeProgress.pipe]
      | some result =>
        obtain ⟨answer, l'⟩ := result
        rw [hr] at hreceive
        cases answer <;> simp [proceed, PipeStep.proceed, hr, ← hreceive, PipeProgress.pipe]
    | shutdown => rfl
    | peer => rfl
    | clone => rfl
    | isClosed => rfl
    | limit most => rfl
    | drop => rfl
  · rfl

/-- Recording does not change what the steps do. -/
theorem pipe_attempts (l : Ledger) (steps : List (Nat × PipeStep)) :
    (l.attempts steps).pipe = Scenario.attempts l.pipe steps := by
  induction steps generalizing l with
  | nil => rfl
  | cons x rest ih =>
    obtain ⟨h, step⟩ := x
    rw [attempts, Scenario.attempts, ih, pipe_attempt]

/-! ## The balance -/

theorem appendTo_self {α : Type} (lists : Side → List α) (side : Side) (item : α) :
    appendTo lists side item side = lists side ++ [item] := by
  simp [appendTo]

theorem appendTo_ne {α : Type} (lists : Side → List α) {side x : Side} (item : α) (hx : x ≠ side) :
    appendTo lists side item x = lists x := by
  simp [appendTo, hx]

theorem mem_appendTo {α : Type} {lists : Side → List α} {side x : Side} {item other : α}
    (hmem : other ∈ appendTo lists side item x) : other ∈ lists x ∨ other = item := by
  by_cases hx : x = side
  · subst hx
    rw [appendTo_self] at hmem
    exact (List.mem_append.1 hmem).imp_right List.mem_singleton.1
  · rw [appendTo_ne _ _ hx] at hmem
    exact .inl hmem

theorem poppedBy_pop_self (l : Ledger) (side : Side) (h : Nat) (chunk : Bytes) :
    (l.pop side h chunk).poppedBy side h = l.poppedBy side h ++ [chunk] := by
  simp [poppedBy, pop, appendTo_self]

theorem poppedBy_pop_ne (l : Ledger) (side x : Side) {h j : Nat} (chunk : Bytes) (hj : j ≠ h) :
    (l.pop side h chunk).poppedBy x j = l.poppedBy x j := by
  by_cases hx : x = side
  · subst hx
    simp [poppedBy, pop, appendTo_self, Ne.symm hj]
  · simp [poppedBy, pop, appendTo_ne _ _ hx]

/-- What the records say at every moment. -/
structure Balanced (l : Ledger) : Prop where
  sound : l.pipe.Sound
  lane : ∀ side, l.pipe.isHeld side = true →
    l.accepted side = (l.popped side).map (·.2) ++ l.pipe.lane side
  handle : ∀ {h : Nat} {handle : Handle}, l.pipe.handles[h]? = some handle →
    handle.isLive = true → l.returned h ++ handle.pending = (l.poppedBy handle.side h).flatten
  unmade : ∀ h, l.pipe.handles.length ≤ h →
    l.returned h = [] ∧ ∀ side, ∀ entry ∈ l.popped side, entry.1 ≠ h
  chunk_ne : ∀ side, ∀ chunk ∈ l.accepted side, chunk ≠ []

namespace Balanced

variable {l l' : Ledger} {h : Nat}

theorem fresh (capacity : Option Nat) : (Ledger.fresh capacity).Balanced := by
  refine ⟨.fresh capacity, ?_, ?_, ?_, ?_⟩
  · intro side _
    cases side <;> rfl
  · intro h handle hget _
    have hmem := List.mem_of_getElem? hget
    simp only [Ledger.fresh, List.mem_cons, List.not_mem_nil, or_false] at hmem
    obtain rfl | rfl := hmem <;> rfl
  · intro h _
    exact ⟨rfl, fun side entry hmem => by cases hmem⟩
  · intro side chunk hmem
    cases hmem

/-- Nobody has taken anything out with a handle that is yet to be made. -/
theorem poppedBy_unmade (hb : l.Balanced) (side : Side) (hh : l.pipe.handles.length ≤ h) :
    l.poppedBy side h = [] := by
  have hnone : (l.popped side).filter (·.1 == h) = [] := by
    apply List.filter_eq_nil_iff.2
    intro entry hmem
    simpa using (hb.unmade h hh).2 side entry hmem
  rw [poppedBy, hnone, List.map_nil]

/-- A handle that is there may take chunks out. -/
theorem unmade_pop (hb : l.Balanced) {handle : Handle} (hget : l.pipe.handles[h]? = some handle)
    (side : Side) (chunk : Bytes) {j : Nat} (hj : l.pipe.handles.length ≤ j) :
    ∀ x, ∀ entry ∈ (l.pop side h chunk).popped x, entry.1 ≠ j := by
  intro x entry hmem
  rcases mem_appendTo hmem with hmem | rfl
  · exact (hb.unmade j hj).2 x entry hmem
  · have := (List.getElem?_eq_some_iff.1 hget).1
    exact Nat.ne_of_lt (Nat.lt_of_lt_of_le this hj)

/-- Replacing a handle, if it becomes no more alive and, alive, keeps what it has at hand. -/
theorem setHandle (hb : l.Balanced) {old new : Handle} (hold : l.pipe.handles[h]? = some old)
    (hside : new.side = old.side) (hlimit : ∀ most, new.limit = some most → 0 < most)
    (hlive : new.isLive = true → old.isLive = true ∧ new.pending = old.pending) :
    Balanced { l with pipe := l.pipe.setHandle h new } := by
  refine ⟨hb.sound.setHandle hold hlimit, ?_, ?_, ?_, hb.chunk_ne⟩
  · intro side hheld
    obtain ⟨j, handle, hj, hl, hs⟩ := isHeld_iff.1 hheld
    have hheld' : l.pipe.isHeld side = true := by
      rw [getElem?_setHandle hold] at hj
      split at hj
      · cases hj
        exact isHeld_iff.2 ⟨h, old, hold, (hlive hl).1, hside ▸ hs⟩
      · exact isHeld_iff.2 ⟨j, handle, hj, hl, hs⟩
    simpa using hb.lane side hheld'
  · intro j handle hj hl
    rw [getElem?_setHandle hold] at hj
    split at hj
    · next hjh =>
      cases hj
      rw [hjh, (hlive hl).2, hside]
      exact hb.handle hold (hlive hl).1
    · exact hb.handle hj hl
  · intro j hj
    exact hb.unmade j (by simpa [Pipe.setHandle] using hj)

theorem accepted_ne (hb : l.Balanced) {side : Side} {chunk : Bytes} (hne : chunk ≠ []) :
    ∀ x, ∀ c ∈ appendTo l.accepted side chunk x, c ≠ [] := by
  intro x c hc
  rcases mem_appendTo hc with hc | rfl
  · exact hb.chunk_ne x c hc
  · exact hne

/-- A chunk joins its lane, and no handle sees it yet. -/
theorem queue (hb : l.Balanced) {side : Side} {chunk : Bytes} (hne : chunk ≠ [])
    (hsound : (l.pipe.setLane (l.pipe.lane side ++ [chunk]) side).Sound) :
    Balanced { l with
      accepted := appendTo l.accepted side chunk
      pipe := l.pipe.setLane (l.pipe.lane side ++ [chunk]) side } := by
  refine ⟨hsound, ?_, ?_, ?_, hb.accepted_ne hne⟩
  · intro x hheld
    rw [isHeld_setLane] at hheld
    have hlane := hb.lane x hheld
    dsimp only
    rw [lane_setLane]
    by_cases hx : x = side
    · subst hx
      rw [appendTo_self, if_pos rfl, hlane, List.append_assoc]
    · rw [appendTo_ne _ _ hx, if_neg hx, hlane]
  · intro k handle hk hlive
    rw [setLane_handles] at hk
    exact hb.handle hk hlive
  · intro k hk
    rw [setLane_handles] at hk
    exact hb.unmade k hk

/-- A chunk passes straight to a handle that waits for it with nothing at hand. -/
theorem handOver (hb : l.Balanced) {side : Side} {chunk : Bytes} {waiting : Handle}
    (hne : chunk ≠ []) (hempty : l.pipe.lane side = []) (hget : l.pipe.handles[h]? = some waiting)
    (hside : waiting.side = side) (hpending : waiting.pending = []) :
    Balanced { { l with accepted := appendTo l.accepted side chunk }.pop side h chunk with
      pipe := l.pipe.setHandle h { waiting with pending := chunk, listening := false } } := by
  refine ⟨hb.sound.updateHandle hget rfl, ?_, ?_, ?_, hb.accepted_ne hne⟩
  · intro x hheld
    dsimp only [pop] at hheld ⊢
    rw [isHeld_setHandle hget _ (by rfl) (by rfl)] at hheld
    have hlane := hb.lane x hheld
    rw [lane_setHandle]
    by_cases hx : x = side
    · subst hx
      rw [appendTo_self, appendTo_self, hlane, hempty]
      simp
    · rw [appendTo_ne _ _ hx, appendTo_ne _ _ hx, hlane]
  · intro k handle hk hlive
    change l.returned k ++ handle.pending = ((l.pop side h chunk).poppedBy handle.side k).flatten
    rw [getElem?_setHandle hget] at hk
    split at hk
    · next hkh =>
      cases hk
      subst hkh
      have hbefore := hb.handle hget hlive
      rw [hpending, List.append_nil] at hbefore
      rw [hbefore, hside, poppedBy_pop_self, List.flatten_append, List.flatten_singleton]
    · next hkh =>
      rw [poppedBy_pop_ne _ _ _ _ hkh]
      exact hb.handle hk hlive
  · intro k hk
    have hk' : l.pipe.handles.length ≤ k := by simpa [Pipe.setHandle] using hk
    exact ⟨(hb.unmade k hk').1, hb.unmade_pop hget side chunk hk'⟩

theorem push (hb : l.Balanced) {side : Side} {chunk : Bytes} {p : Pipe} (hne : chunk ≠ [])
    (hpush : l.pipe.push side chunk = some p) :
    Balanced { l.noteAccepted side chunk with pipe := p } := by
  have hsound : p.Sound := hb.sound.push hne hpush
  unfold noteAccepted
  obtain ⟨hcap, -, rfl⟩ | ⟨hcap, j, waiting, hj, hget, -, hside, hpending, -, rfl⟩ :=
    push_cases hpush
  · dsimp only
    split
    · next h0 _ => exact absurd h0 hcap
    · exact hb.queue hne hsound
  · -- the lane has room for nothing
    have hempty : l.pipe.lane side = [] := by
      have := hb.sound.room 0 hcap side
      exact List.length_eq_zero_iff.1 (Nat.le_zero.1 this)
    simp only [hcap, hj]
    exact hb.handOver hne hempty hget hside hpending

theorem send (hb : l.Balanced) {data : Bytes} {answer : Except Fault Nat}
    (hsend : l.send h data = some (answer, l')) : l'.Balanced := by
  obtain ⟨⟨answer', p⟩, hp, heq⟩ := Option.map_eq_some_iff.1 hsend
  obtain ⟨rfl, rfl⟩ | ⟨rfl, rfl⟩ | ⟨handle, hget, -, hdata, -, rfl, hpush⟩ := send_cases hp
  · cases heq
    exact hb
  · cases heq
    exact hb
  · have hne : handle.portion data ≠ [] := hb.sound.portion_ne hget hdata
    obtain ⟨n, hn⟩ : ∃ n, (handle.portion data).length = n + 1 :=
      ⟨_, (Nat.succ_pred_eq_of_pos (List.length_pos_iff.2 hne)).symm⟩
    have htake : data.take (n + 1) = handle.portion data := by
      rw [← hn, handle.take_length_portion]
    simp only [hn, hget, htake, Prod.mk.injEq] at heq
    exact heq.2 ▸ hb.push hne hpush

/-- Going on with the chunk at hand. -/
theorem receivePending (hb : l.Balanced) {handle : Handle} (hget : l.pipe.handles[h]? = some handle)
    (size : Nat) :
    Balanced { l.noteReturned h (handle.pending.take size) with
      pipe := l.pipe.setHandle h
        { handle with pending := handle.pending.drop size, listening := false } } := by
  refine ⟨hb.sound.updateHandle hget rfl, ?_, ?_, ?_, hb.chunk_ne⟩
  · intro x hheld
    dsimp only [noteReturned] at hheld ⊢
    rw [isHeld_setHandle hget _ (by rfl) (by rfl)] at hheld
    rw [lane_setHandle]
    exact hb.lane x hheld
  · intro k other hk hlive
    change (if k = h then l.returned k ++ handle.pending.take size else l.returned k)
        ++ other.pending
      = (l.poppedBy other.side k).flatten
    rw [getElem?_setHandle hget] at hk
    split at hk
    · next hkh =>
      cases hk
      subst hkh
      rw [if_pos rfl, List.append_assoc, List.take_append_drop]
      exact hb.handle hget hlive
    · next hkh =>
      rw [if_neg hkh]
      exact hb.handle hk hlive
  · intro k hk
    have hk' : l.pipe.handles.length ≤ k := by simpa [Pipe.setHandle] using hk
    have hkh : k ≠ h := by
      have := (List.getElem?_eq_some_iff.1 hget).1
      omega
    refine ⟨?_, (hb.unmade k hk').2⟩
    simpa [noteReturned, hkh] using (hb.unmade k hk').1

/-- Taking the next chunk out, and keeping all of it at hand for now. -/
theorem takeOut (hb : l.Balanced) {handle : Handle} {chunk : Bytes} {rest : List Bytes}
    (hget : l.pipe.handles[h]? = some handle) (hpending : handle.pending = [])
    (hlane : l.pipe.lane handle.side = chunk :: rest) :
    Balanced { l.pop handle.side h chunk with
      pipe := (l.pipe.setLane rest handle.side).setHandle h { handle with pending := chunk } } := by
  have hget' : (l.pipe.setLane rest handle.side).handles[h]? = some handle := by simpa using hget
  have hsound : (l.pipe.setLane rest handle.side).Sound := by
    refine hb.sound.setLane ?_ ?_ handle.side
    · intro c hc
      exact hb.sound.chunk_ne handle.side c (hlane ▸ List.mem_cons_of_mem chunk hc)
    · intro most hmost
      have := hb.sound.room most hmost handle.side
      simp only [hlane, List.length_cons] at this
      omega
  refine ⟨hsound.updateHandle hget' rfl, ?_, ?_, ?_, hb.chunk_ne⟩
  · intro x hheld
    dsimp only [pop] at hheld ⊢
    rw [isHeld_setHandle hget' _ (by rfl) (by rfl), isHeld_setLane] at hheld
    have hbefore := hb.lane x hheld
    rw [lane_setHandle, lane_setLane]
    by_cases hx : x = handle.side
    · subst hx
      rw [appendTo_self, if_pos rfl, hbefore, hlane]
      simp
    · rw [appendTo_ne _ _ hx, if_neg hx, hbefore]
  · intro k other hk hlive
    change l.returned k ++ other.pending
      = ((l.pop handle.side h chunk).poppedBy other.side k).flatten
    rw [getElem?_setHandle hget'] at hk
    split at hk
    · next hkh =>
      cases hk
      subst hkh
      have hbefore := hb.handle hget hlive
      rw [hpending, List.append_nil] at hbefore
      rw [poppedBy_pop_self, List.flatten_append, List.flatten_singleton, hbefore]
    · next hkh =>
      rw [setLane_handles] at hk
      rw [poppedBy_pop_ne _ _ _ _ hkh]
      exact hb.handle hk hlive
  · intro k hk
    have hk' : l.pipe.handles.length ≤ k := by simpa [Pipe.setHandle] using hk
    exact ⟨(hb.unmade k hk').1, hb.unmade_pop hget handle.side chunk hk'⟩

theorem noteReturned_nil (l : Ledger) (h : Nat) : l.noteReturned h [] = l := by
  simp [noteReturned]

theorem receive (hb : l.Balanced) {size : Nat} {answer : Except Fault Bytes}
    (hreceive : l.receive h size = some (answer, l')) : l'.Balanced := by
  obtain ⟨⟨answer', p⟩, hp, heq⟩ := Option.map_eq_some_iff.1 hreceive
  obtain ⟨data, rfl⟩ := receive_ok hp
  obtain ⟨rfl, rfl⟩ := Prod.mk.inj heq
  cases hget : l.pipe.handles[h]? with
  | none =>
    simp only [Pipe.receive, hget, Option.some.injEq, Prod.mk.injEq, Except.ok.injEq] at hp
    obtain ⟨rfl, rfl⟩ := hp
    simpa [notePopped, hget, noteReturned_nil] using hb
  | some handle =>
    rcases Nat.eq_zero_or_pos size with rfl | hsize
    · have hnone : l.notePopped h 0 = l := by
        simp only [notePopped, hget]
        split <;> simp
      simp only [Pipe.receive, hget, if_true, Option.some.injEq, Prod.mk.injEq,
        Except.ok.injEq] at hp
      obtain ⟨rfl, rfl⟩ := hp
      rw [hnone, noteReturned_nil]
      have hlimit := hb.sound.limit_pos hget
      exact hb.setHandle hget rfl hlimit fun hl => ⟨hl, rfl⟩
    · obtain ⟨hpending, ha, rfl⟩ | ⟨hpending, chunk, rest, hlane, ha, rfl⟩ |
        ⟨hpending, hlane, -, ha, rfl⟩ := receive_cases hget hsize hp
      · have hnone : l.notePopped h size = l := by
          simp only [notePopped, hget]
          split <;> simp [hpending]
        cases ha
        rw [hnone]
        exact hb.receivePending hget size
      · -- the chunk is taken out whole, and then gone on with
        have hpop : l.notePopped h size = l.pop handle.side h chunk := by
          simp [notePopped, hget, hlane, hpending, Nat.ne_of_gt hsize]
        cases ha
        rw [hpop]
        have htaken := hb.takeOut hget hpending hlane
        have hget' : ((l.pipe.setLane rest handle.side).setHandle h
              { handle with pending := chunk }).handles[h]?
            = some { handle with pending := chunk } := by
          have hold : (l.pipe.setLane rest handle.side).handles[h]? = some handle := by
            simpa using hget
          simp [getElem?_setHandle hold]
        have hgone := htaken.receivePending hget' size
        rw [setHandle_setHandle] at hgone
        exact hgone
      · have hnone : l.notePopped h size = l := by
          simp [notePopped, hget, hlane]
        cases ha
        rw [hnone, noteReturned_nil]
        have hlimit := hb.sound.limit_pos hget
        exact hb.setHandle hget rfl hlimit fun hl => ⟨hl, rfl⟩

theorem listen (hb : l.Balanced) (h : Nat) : Balanced { l with pipe := l.pipe.listen h } := by
  cases hget : l.pipe.handles[h]? with
  | none => simpa [Pipe.listen, hget] using hb
  | some handle =>
    have hlimit := hb.sound.limit_pos hget
    rw [listen_eq hget]
    exact hb.setHandle hget rfl hlimit fun hl => ⟨hl, rfl⟩

/-- A clone starts with nothing at hand and nothing on its page. -/
theorem clone (hb : l.Balanced) (hlive : l.pipe.IsLive h) :
    Balanced { l with pipe := (l.pipe.clone h).2 } := by
  refine ⟨hb.sound.clone h, ?_, ?_, ?_, hb.chunk_ne⟩
  all_goals
    obtain ⟨source, hget, hsource⟩ := hlive
    simp only [Pipe.clone, hget]
  · intro side hheld
    have hheld' : l.pipe.isHeld side = true := by
      simp only [isHeld, List.any_append, List.any_cons, List.any_nil, Bool.or_false,
        Bool.or_eq_true] at hheld
      rcases hheld with hheld | hheld
      · exact hheld
      · simp only [Bool.and_eq_true, decide_eq_true_eq, true_and] at hheld
        exact isHeld_iff.2 ⟨h, source, hget, hsource, hheld⟩
    exact hb.lane side hheld'
  · intro k handle hk hl
    rw [List.getElem?_append] at hk
    split at hk
    · exact hb.handle hk hl
    · next hge =>
      have hlen : l.pipe.handles.length ≤ k := Nat.le_of_not_lt hge
      have hmem := List.mem_of_getElem? hk
      rw [List.mem_singleton.1 hmem]
      change l.returned k ++ [] = (l.poppedBy source.side k).flatten
      rw [(hb.unmade k hlen).1, hb.poppedBy_unmade source.side hlen]
      rfl
  · intro k hk
    simp only [List.length_append, List.length_singleton] at hk
    exact hb.unmade k (by omega)

theorem close (hb : l.Balanced) : Balanced { l with pipe := l.pipe.close } := by
  refine ⟨hb.sound.close, ?_, hb.handle, hb.unmade, hb.chunk_ne⟩
  intro side hheld
  simpa using hb.lane side hheld

theorem limit (hb : l.Balanced) (h most : Nat) :
    Balanced { l with pipe := l.pipe.limit h most } := by
  cases hget : l.pipe.handles[h]? with
  | none => simpa [Pipe.limit, hget] using hb
  | some handle =>
    simp only [Pipe.limit, hget]
    refine hb.setHandle hget rfl ?_ fun hl => ⟨hl, rfl⟩
    intro m hm
    cases hm
    omega

/-- With the last handle of an end its lane is given up, and nobody is left to miss it. -/
theorem drop (hb : l.Balanced) (h : Nat) : Balanced { l with pipe := l.pipe.drop h } := by
  cases hget : l.pipe.handles[h]? with
  | none => simpa [Pipe.drop, hget] using hb
  | some handle =>
    have hlimit := hb.sound.limit_pos hget
    have hgone : Balanced { l with
        pipe := l.pipe.setHandle h
          { handle with isLive := false, pending := [], listening := false } } :=
      hb.setHandle hget rfl hlimit (by simp)
    simp only [Pipe.drop, hget]
    split
    · exact hgone
    · next hunheld =>
      refine ⟨hgone.sound.setLane (by simp) (by simp) handle.side, ?_, ?_, ?_, hgone.chunk_ne⟩
      · intro side hheld
        rw [isHeld_setLane] at hheld
        rw [lane_setLane, if_neg]
        · exact hgone.lane side hheld
        · rintro rfl
          exact hunheld hheld
      · intro k other hk hl
        rw [setLane_handles] at hk
        exact hgone.handle hk hl
      · intro k hk
        rw [setLane_handles] at hk
        exact hgone.unmade k hk

theorem sendAll (hb : l.Balanced) (fuel : Nat) (d : Delivery) :
    (Medium.sendAll h fuel l d).after.Balanced :=
  Medium.sendAll_keeps (P := Balanced) (fun hw hsend => hw.send hsend) fuel l d hb

theorem attempt (hb : l.Balanced) (h : Nat) (step : PipeStep) : (l.attempt h step).Balanced := by
  unfold Ledger.attempt
  split
  · next hcond =>
    cases step with
    | send data =>
      cases hs : l.send h data with
      | none => simpa [proceed, hs] using hb
      | some result => simpa [proceed, hs] using hb.send hs
    | sendAll d => exact hb.sendAll (d.data.length + 1) d
    | receive size =>
      cases hr : Ledger.receive { l with pipe := l.pipe.listen h } h size with
      | none => simpa [proceed, hr] using hb.listen h
      | some result => simpa [proceed, hr] using (hb.listen h).receive hr
    | shutdown => exact hb.close
    | peer => exact hb
    | clone => exact hb.clone (by simpa [isLive_iff_any] using hcond)
    | isClosed => exact hb
    | limit most => exact hb.limit h most
    | drop => exact hb.drop h
  · exact hb

theorem attempts (hb : l.Balanced) (steps : List (Nat × PipeStep)) :
    (l.attempts steps).Balanced := by
  induction steps generalizing l with
  | nil => exact hb
  | cons x rest ih => exact ih (hb.attempt x.1 x.2)

/-- If one handle does all the receiving at its end, what it has returned, what it has at hand and
what is on its way make up all that was let in. -/
theorem sole (hb : l.Balanced) {handle : Handle} (hget : l.pipe.handles[h]? = some handle)
    (hlive : handle.isLive = true) (hsole : ∀ entry ∈ l.popped handle.side, entry.1 = h) :
    l.returned h ++ handle.pending ++ (l.pipe.lane handle.side).flatten
      = (l.accepted handle.side).flatten := by
  have hpage : l.poppedBy handle.side h = (l.popped handle.side).map (·.2) := by
    rw [poppedBy, List.filter_eq_self.2]
    intro entry hmem
    simpa using hsole entry hmem
  have hheld : l.pipe.isHeld handle.side = true := isHeld_iff.2 ⟨h, handle, hget, hlive, rfl⟩
  rw [hb.handle hget hlive, hpage, hb.lane handle.side hheld, List.flatten_append]

end Balanced

/-- **Nothing is lost, repeated or reordered in a pipe.** Whatever is done with the handles of a
fresh pipe, in whatever order: the chunks let in towards an end are those that came out there, in
the order they came out, followed by those on their way, while that end is held; what a live handle
has returned, followed by what it has at hand, is all it took out; no chunk is empty; and no lane
holds more than the capacity. So if one handle does all the receiving at its end, it has returned
all that was let in except for what it has at hand and what is on its way. -/
theorem nothing_lost (capacity : Option Nat) (steps : List (Nat × PipeStep)) :
    let l := (fresh capacity).attempts steps
    l.pipe = Scenario.attempts { capacity } steps ∧
    (∀ side, l.pipe.isHeld side = true →
      l.accepted side = (l.popped side).map (·.2) ++ l.pipe.lane side) ∧
    (∀ h handle, l.pipe.handles[h]? = some handle → handle.isLive = true →
      l.returned h ++ handle.pending = (l.poppedBy handle.side h).flatten) ∧
    (∀ side, ∀ chunk ∈ l.accepted side, chunk ≠ []) ∧
    (∀ most, capacity = some most → ∀ side, (l.pipe.lane side).length ≤ most) ∧
    (∀ h handle, l.pipe.handles[h]? = some handle → handle.isLive = true →
      (∀ entry ∈ l.popped handle.side, entry.1 = h) →
      l.returned h ++ handle.pending ++ (l.pipe.lane handle.side).flatten
        = (l.accepted handle.side).flatten) := by
  intro l
  have hb : l.Balanced := (Balanced.fresh capacity).attempts steps
  have hpipe : l.pipe = Scenario.attempts { capacity } steps :=
    pipe_attempts (fresh capacity) steps
  refine ⟨hpipe, hb.lane, fun h handle => hb.handle, hb.chunk_ne, ?_, ?_⟩
  · intro most hmost
    exact hb.sound.room most (by rw [hpipe, capacity_attempts]; exact hmost)
  · intro h handle hget hlive hsole
    exact hb.sole hget hlive hsole

/-- Over a pipe that holds nothing, in sends of two bytes at most: the far end waits, takes a chunk
through a buffer of one byte, and waits again while the rest of the delivery goes on. One byte was
returned, one is at hand, and the third came out as a chunk of its own. -/
theorem nothing_lost_straight_through :
    let l := (fresh (some 0)).attempts
      [(0, .limit 2), (1, .receive 1), (0, .sendAll { data := [1, 2, 3] }), (1, .receive 1),
        (1, .clone), (2, .receive 5), (0, .sendAll { data := [1, 2, 3], written := 2 })]
    l.returned 1 ++ [2] = (l.poppedBy .b 1).flatten ∧ l.accepted .b = [[1, 2], [3]] :=
  ⟨(nothing_lost (some 0) _).2.2.1 1 { side := .b, pending := [2] } rfl rfl, rfl⟩

end Ledger

end TextRelay
