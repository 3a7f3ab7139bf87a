import TextRelay.Proofs.Pipe.Operations

/-!
# One reader at an end

The pipes of sessions are used in a narrow way: of all the handles of an end only one ever receives
(`Reader`). What that handle has not read yet is then one text, `unread`: the rest of its chunk and
the chunks on their way. A send at the far end adds to its back what it takes, a receive call takes
from its front what it returns, and nothing else changes it.

`Untouched` is the frame of this: what an operation leaves as it was, seen from one end.
-/

namespace TextRelay

namespace Pipe

/-! ## Handles of an end -/

/-- The handle was made onto the end. -/
def Owns (p : Pipe) (side : Side) (h : Nat) : Prop :=
  ∃ handle, p.handles[h]? = some handle ∧ handle.side = side

/-- The handle was made onto the end and is not given up. -/
def Holds (p : Pipe) (side : Side) (h : Nat) : Prop :=
  ∃ handle, p.handles[h]? = some handle ∧ handle.side = side ∧ handle.isLive = true

theorem Holds.owns {p : Pipe} {side : Side} {h : Nat} (hp : p.Holds side h) : p.Owns side h := by
  obtain ⟨handle, hget, hside, -⟩ := hp
  exact ⟨handle, hget, hside⟩

theorem Holds.isHeld {p : Pipe} {side : Side} {h : Nat} (hp : p.Holds side h) :
    p.isHeld side = true := by
  obtain ⟨handle, hget, hside, hlive⟩ := hp
  exact isHeld_iff.2 ⟨h, handle, hget, hlive, hside⟩

theorem owns_of_listen {p : Pipe} {side : Side} {k j : Nat} (hown : (p.listen k).Owns side j) :
    p.Owns side j := by
  obtain ⟨z, hget, hside⟩ := hown
  cases hold : p.handles[k]? with
  | none =>
    rw [listen, hold] at hget
    exact ⟨z, hget, hside⟩
  | some old =>
    rw [getElem?_listen hold] at hget
    split at hget
    · next heq =>
      cases hget
      exact ⟨old, heq ▸ hold, hside⟩
    · exact ⟨z, hget, hside⟩

/-- All handles keep their number, end and limit, and none but one, if any, is given up. -/
def Keeps (gone : Option Nat) (p p' : Pipe) : Prop :=
  ∀ (h : Nat) (handle : Handle), p.handles[h]? = some handle →
    ∃ handle', p'.handles[h]? = some handle' ∧ handle'.side = handle.side ∧
      handle'.limit = handle.limit ∧ (gone ≠ some h → handle'.isLive = handle.isLive)

/-- All handles keep their number, end and limit. -/
def SameHandles (p p' : Pipe) : Prop :=
  ∀ (h : Nat) (handle : Handle), p.handles[h]? = some handle →
    ∃ handle', p'.handles[h]? = some handle' ∧ handle'.side = handle.side ∧
      handle'.limit = handle.limit

theorem SameHandles.trans {p p' p'' : Pipe} (h₁ : SameHandles p p') (h₂ : SameHandles p' p'') :
    SameHandles p p'' := by
  intro h handle hget
  obtain ⟨handle', hget', hside', hlimit'⟩ := h₁ h handle hget
  obtain ⟨handle'', hget'', hside'', hlimit''⟩ := h₂ h handle' hget'
  exact ⟨handle'', hget'', hside''.trans hside', hlimit''.trans hlimit'⟩

namespace Keeps

variable {p p' : Pipe} {gone : Option Nat} {side : Side} {h : Nat}

theorem owns (hk : Keeps gone p p') (hp : p.Owns side h) : p'.Owns side h := by
  obtain ⟨handle, hget, hside⟩ := hp
  obtain ⟨handle', hget', hside', -, -⟩ := hk h handle hget
  exact ⟨handle', hget', hside'.trans hside⟩

theorem holds (hk : Keeps gone p p') (hp : p.Holds side h) (hne : gone ≠ some h) :
    p'.Holds side h := by
  obtain ⟨handle, hget, hside, hlive⟩ := hp
  obtain ⟨handle', hget', hside', -, hlive'⟩ := hk h handle hget
  exact ⟨handle', hget', hside'.trans hside, (hlive' hne).trans hlive⟩

theorem sameHandles (hk : Keeps gone p p') : SameHandles p p' := by
  intro h handle hget
  obtain ⟨handle', hget', hside, hlimit, -⟩ := hk h handle hget
  exact ⟨handle', hget', hside, hlimit⟩

theorem of_handles (hp : p'.handles = p.handles) : Keeps gone p p' := by
  intro h handle hget
  exact ⟨handle, hp ▸ hget, rfl, rfl, fun _ => rfl⟩

theorem setHandle {k : Nat} {old new : Handle} (hold : p.handles[k]? = some old)
    (hside : new.side = old.side) (hlimit : new.limit = old.limit)
    (hlive : gone ≠ some k → new.isLive = old.isLive) : Keeps gone p (p.setHandle k new) := by
  intro h handle hget
  rw [getElem?_setHandle hold]
  split
  · next hk =>
    subst hk
    cases hold.symm.trans hget
    exact ⟨new, rfl, hside, hlimit, hlive⟩
  · exact ⟨handle, hget, rfl, rfl, fun _ => rfl⟩

theorem trans {p'' : Pipe} (h₁ : Keeps gone p p') (h₂ : Keeps gone p' p'') : Keeps gone p p'' := by
  intro h handle hget
  obtain ⟨handle', hget', hside', hlimit', hlive'⟩ := h₁ h handle hget
  obtain ⟨handle'', hget'', hside'', hlimit'', hlive''⟩ := h₂ h handle' hget'
  exact ⟨handle'', hget'', hside''.trans hside', hlimit''.trans hlimit',
    fun hne => (hlive'' hne).trans (hlive' hne)⟩

theorem setLane (chunks : List Bytes) (side : Side) : Keeps gone p (p.setLane chunks side) :=
  of_handles (setLane_handles p chunks side)

theorem send {data : Bytes} {answer : Except Fault Nat}
    (hsend : p.send h data = some (answer, p')) : Keeps none p p' := by
  obtain ⟨-, rfl⟩ | ⟨-, rfl⟩ | ⟨sender, -, -, -, -, -, hpush⟩ := send_cases hsend
  · exact of_handles rfl
  · exact of_handles rfl
  · obtain ⟨-, -, rfl⟩ | ⟨-, j, waiting, -, hj, -, -, -, -, rfl⟩ := push_cases hpush
    · exact setLane _ _
    · exact setHandle hj rfl rfl fun _ => rfl

theorem receive {size : Nat} {answer : Except Fault Bytes} (hp : p.Owns side h) (hsize : 0 < size)
    (hreceive : p.receive h size = some (answer, p')) : Keeps none p p' := by
  obtain ⟨handle, hget, -⟩ := hp
  obtain ⟨-, -, rfl⟩ | ⟨-, chunk, rest, -, -, rfl⟩ | ⟨-, -, -, -, rfl⟩ :=
    receive_cases hget hsize hreceive
  · exact setHandle hget rfl rfl fun _ => rfl
  · have hget' : (p.setLane rest handle.side).handles[h]? = some handle := by simpa using hget
    exact (setLane rest handle.side).trans (setHandle hget' rfl rfl fun _ => rfl)
  · exact setHandle hget rfl rfl fun _ => rfl

theorem listen (p : Pipe) (h : Nat) : Keeps none p (p.listen h) := by
  unfold Pipe.listen
  split
  · exact of_handles rfl
  · next handle hget => exact setHandle hget rfl rfl fun _ => rfl

theorem clone (p : Pipe) (h : Nat) : Keeps none p (p.clone h).2 := by
  unfold Pipe.clone
  split
  · exact of_handles rfl
  · intro j other hj
    refine ⟨other, ?_, rfl, rfl, fun _ => rfl⟩
    exact List.getElem?_append_left (List.getElem?_eq_some_iff.1 hj).1 ▸ hj

theorem drop (p : Pipe) (h : Nat) : Keeps (some h) p (p.drop h) := by
  unfold Pipe.drop
  split
  · exact of_handles rfl
  · next handle hget =>
    have hgone : Keeps (some h) p (p.setHandle h
        { handle with isLive := false, pending := [], listening := false }) :=
      setHandle hget rfl rfl fun hne => absurd rfl hne
    dsimp only
    split
    · exact hgone
    · exact hgone.trans (setLane [] handle.side)

end Keeps

/-! ## Unread bytes -/

/-- What a handle has at hand. -/
def pendingOf (p : Pipe) (h : Nat) : Bytes :=
  match p.handles[h]? with
  | some handle => handle.pending
  | none => []

theorem pendingOf_eq {p : Pipe} {h : Nat} {handle : Handle} (hget : p.handles[h]? = some handle) :
    p.pendingOf h = handle.pending := by
  simp [pendingOf, hget]

theorem pendingOf_setHandle {p : Pipe} {h : Nat} {old : Handle} (hold : p.handles[h]? = some old)
    (new : Handle) (j : Nat) :
    (p.setHandle h new).pendingOf j = if j = h then new.pending else p.pendingOf j := by
  unfold pendingOf
  rw [getElem?_setHandle hold]
  by_cases hj : j = h
  · simp [hj]
  · simp [hj]

@[simp] theorem pendingOf_setLane (p : Pipe) (chunks : List Bytes) (side : Side) (h : Nat) :
    (p.setLane chunks side).pendingOf h = p.pendingOf h := by
  simp [pendingOf]

/-- What a handle of an end has not read yet, if it alone reads there. -/
def unread (p : Pipe) (side : Side) (h : Nat) : Bytes :=
  p.pendingOf h ++ (p.lane side).flatten

/-- A handle's chunk and the chunks on their way to it are as they were. -/
structure SameStream (side : Side) (h : Nat) (p p' : Pipe) : Prop where
  pending : p'.pendingOf h = p.pendingOf h
  lane : p'.lane side = p.lane side

theorem SameStream.unread {p p' : Pipe} {side : Side} {h : Nat} (hs : SameStream side h p p') :
    p'.unread side h = p.unread side h := by
  rw [Pipe.unread, Pipe.unread, hs.pending, hs.lane]

theorem SameStream.trans {p p' p'' : Pipe} {side : Side} {h : Nat} (h₁ : SameStream side h p p')
    (h₂ : SameStream side h p' p'') : SameStream side h p p'' :=
  ⟨h₂.pending.trans h₁.pending, h₂.lane.trans h₁.lane⟩

/-- A handle of the end, the only one there that waits for chunks or has any at hand. -/
structure Reader (p : Pipe) (side : Side) (h : Nat) : Prop where
  own : p.Owns side h
  alone : ∀ {j : Nat} {other : Handle}, p.handles[j]? = some other → other.side = side → j ≠ h →
    other.pending = [] ∧ other.listening = false

/-! ## What one end sees of the other's doings -/

/-- From one end, nothing has changed but that the pipe may have been closed. -/
structure Untouched (side : Side) (p p' : Pipe) : Prop where
  handles : ∀ (j : Nat) (handle : Handle), handle.side = side →
    (p'.handles[j]? = some handle ↔ p.handles[j]? = some handle)
  lane : p'.lane side = p.lane side
  closed : p.isClosed = true → p'.isClosed = true

namespace Untouched

variable {side : Side} {p p' p'' : Pipe}

theorem refl (side : Side) (p : Pipe) : Untouched side p p :=
  ⟨fun _ _ _ => Iff.rfl, rfl, id⟩

theorem trans (h₁ : Untouched side p p') (h₂ : Untouched side p' p'') : Untouched side p p'' :=
  ⟨fun j handle hs => (h₂.handles j handle hs).trans (h₁.handles j handle hs),
    h₂.lane.trans h₁.lane, fun h => h₂.closed (h₁.closed h)⟩

/-- Replacing a handle of the far end. -/
theorem setHandle {h : Nat} {old new : Handle} (hold : p.handles[h]? = some old)
    (hside : old.side = side.other) (hnew : new.side = old.side) :
    Untouched side p (p.setHandle h new) := by
  refine ⟨?_, by simp, id⟩
  intro j handle hs
  rw [getElem?_setHandle hold]
  split
  · next hj =>
    subst hj
    rw [hold]
    constructor
    · intro heq
      cases heq
      rw [hnew, hside] at hs
      exact absurd hs (Side.other_ne side)
    · intro heq
      cases heq
      rw [hside] at hs
      exact absurd hs (Side.other_ne side)
  · exact Iff.rfl

/-- Replacing the chunks on their way to the far end. -/
theorem setLane {x : Side} (hx : x = side.other) (chunks : List Bytes) :
    Untouched side p (p.setLane chunks x) := by
  subst hx
  exact ⟨fun j handle _ => by rw [setLane_handles], by simp, by simp⟩

theorem listen {h : Nat} {handle : Handle} (hget : p.handles[h]? = some handle)
    (hside : handle.side = side.other) : Untouched side p (p.listen h) := by
  rw [listen_eq hget]
  exact setHandle hget hside rfl

theorem close : Untouched side p p.close :=
  ⟨fun _ _ _ => Iff.rfl, lane_close p side, fun _ => rfl⟩

theorem receive {h size : Nat} {answer : Except Fault Bytes} {handle : Handle}
    (hget : p.handles[h]? = some handle) (hside : handle.side = side.other) (hsize : 0 < size)
    (hreceive : p.receive h size = some (answer, p')) : Untouched side p p' := by
  obtain ⟨-, -, rfl⟩ | ⟨-, chunk, rest, -, -, rfl⟩ | ⟨-, -, -, -, rfl⟩ :=
    receive_cases hget hsize hreceive
  · exact setHandle hget hside rfl
  · have hget' : (p.setLane rest handle.side).handles[h]? = some handle := by simpa using hget
    exact (setLane hside rest).trans (setHandle hget' hside rfl)
  · exact setHandle hget hside rfl

theorem drop {h : Nat} {handle : Handle} (hget : p.handles[h]? = some handle)
    (hside : handle.side = side.other) : Untouched side p (p.drop h) := by
  have hgone : Untouched side p (p.setHandle h
      { handle with isLive := false, pending := [], listening := false }) :=
    setHandle hget hside rfl
  simp only [Pipe.drop, hget]
  split
  · exact hgone
  · exact hgone.trans (setLane hside [])

theorem clone {h : Nat} {handle : Handle} (hget : p.handles[h]? = some handle)
    (hside : handle.side = side.other) : Untouched side p (p.clone h).2 := by
  simp only [Pipe.clone, hget]
  refine ⟨?_, rfl, id⟩
  intro j other hs
  rw [List.getElem?_append]
  split
  · exact Iff.rfl
  · next hge =>
    constructor
    · intro heq
      have hmem := List.mem_singleton.1 (List.mem_of_getElem? heq)
      rw [hmem, hside] at hs
      exact absurd hs (Side.other_ne side)
    · intro heq
      exact absurd (List.getElem?_eq_some_iff.1 heq).1 hge

/-- The sender's own end sees nothing of what it sends. -/
theorem send {h : Nat} {data : Bytes} {answer : Except Fault Nat} {handle : Handle}
    (hget : p.handles[h]? = some handle) (hside : handle.side = side)
    (hsend : p.send h data = some (answer, p')) : Untouched side p p' := by
  obtain ⟨-, rfl⟩ | ⟨-, rfl⟩ | ⟨sender, hget', -, -, -, -, hpush⟩ := send_cases hsend
  · exact refl side p'
  · exact refl side p'
  · have hsender : sender = handle := Option.some.inj (hget'.symm.trans hget)
    rw [hsender, hside] at hpush
    obtain ⟨-, -, rfl⟩ | ⟨-, j, waiting, -, hj, -, hs, -, -, rfl⟩ := push_cases hpush
    · exact setLane rfl _
    · exact setHandle hj hs rfl

theorem reader (hu : Untouched side p p') {h : Nat} (hr : p.Reader side h) : p'.Reader side h := by
  obtain ⟨handle, hget, hside⟩ := hr.own
  refine ⟨⟨handle, (hu.handles h handle hside).2 hget, hside⟩, ?_⟩
  intro j other hj hs hne
  exact hr.alone ((hu.handles j other hs).1 hj) hs hne

theorem sameStream (hu : Untouched side p p') {h : Nat} (hr : p.Reader side h) :
    SameStream side h p p' := by
  obtain ⟨handle, hget, hside⟩ := hr.own
  refine ⟨?_, hu.lane⟩
  rw [pendingOf_eq hget, pendingOf_eq ((hu.handles h handle hside).2 hget)]

end Untouched

/-! ## What the reader's own end does to it -/

namespace Reader

variable {p p' : Pipe} {side : Side} {h : Nat}

/-- Replacing a handle of the end, the reader or one that stays quiet. -/
theorem setHandle (hr : p.Reader side h) {j : Nat} {old new : Handle}
    (hold : p.handles[j]? = some old) (hside : new.side = old.side)
    (hquiet : j ≠ h → new.side = side → new.pending = [] ∧ new.listening = false) :
    (p.setHandle j new).Reader side h := by
  obtain ⟨handle, hget, hs⟩ := hr.own
  refine ⟨?_, ?_⟩
  · by_cases hj : h = j
    · subst hj
      have heq : old = handle := Option.some.inj (hold.symm.trans hget)
      exact ⟨new, by simp [getElem?_setHandle hold], by rw [hside, heq, hs]⟩
    · exact ⟨handle, by simp [getElem?_setHandle hold, hj, hget], hs⟩
  · intro k other hk hso hne
    rw [getElem?_setHandle hold] at hk
    split at hk
    · next hkj =>
      cases hk
      exact hquiet (hkj ▸ hne) hso
    · exact hr.alone hk hso hne

theorem setLane (hr : p.Reader side h) (chunks : List Bytes) (x : Side) :
    (p.setLane chunks x).Reader side h := by
  refine ⟨(Keeps.setLane chunks x : Keeps none p _).owns hr.own, ?_⟩
  intro j other hj
  rw [setLane_handles] at hj
  exact hr.alone hj

theorem listen (hr : p.Reader side h) : (p.listen h).Reader side h := by
  obtain ⟨handle, hget, -⟩ := hr.own
  rw [listen_eq hget]
  exact hr.setHandle hget rfl fun hne => absurd rfl hne

theorem sameStream_listen (hr : p.Reader side h) : SameStream side h p (p.listen h) := by
  obtain ⟨handle, hget, -⟩ := hr.own
  refine ⟨?_, lane_listen p h side⟩
  rw [listen_eq hget, pendingOf_setHandle hget, if_pos rfl, pendingOf_eq hget]

/-- **A receive call takes from the front of what is unread exactly what it returns**, and it
returns nothing only at the end of the stream. -/
theorem receive (hr : p.Reader side h) (hp : p.Sound) {size : Nat} (hsize : 0 < size)
    {data : Bytes} (hreceive : p.receive h size = some (.ok data, p')) :
    p'.Reader side h ∧ data ++ p'.unread side h = p.unread side h ∧
      (data = [] → p.unread side h = [] ∧ SameStream side h p p' ∧
        (p.isClosed = true ∨ p.isHeld side.other = false)) := by
  obtain ⟨handle, hget, rfl⟩ := hr.own
  obtain ⟨hne, ha, rfl⟩ | ⟨hpending, chunk, rest, hlane, ha, rfl⟩ |
    ⟨hpending, hlane, hover, ha, rfl⟩ := receive_cases hget hsize hreceive
  · cases ha
    refine ⟨hr.setHandle hget rfl fun hne => absurd rfl hne, ?_, ?_⟩
    · rw [unread, unread, lane_setHandle, pendingOf_setHandle hget, if_pos rfl, pendingOf_eq hget,
        ← List.append_assoc, List.take_append_drop]
    · intro hnil
      rcases List.take_eq_nil_iff.1 hnil with h0 | h0
      · omega
      · exact absurd h0 hne
  · cases ha
    have hget' : (p.setLane rest handle.side).handles[h]? = some handle := by simpa using hget
    refine ⟨(hr.setLane rest handle.side).setHandle hget' rfl fun hne => absurd rfl hne, ?_, ?_⟩
    · rw [unread, unread, lane_setHandle, lane_setLane, if_pos rfl, pendingOf_setHandle hget',
        if_pos rfl, pendingOf_eq hget, hpending, hlane, ← List.append_assoc, List.take_append_drop,
        List.flatten_cons, List.nil_append]
    · intro hnil
      rcases List.take_eq_nil_iff.1 hnil with h0 | h0
      · omega
      · exact absurd h0 (hp.chunk_ne handle.side chunk (hlane ▸ List.mem_cons_self))
  · cases ha
    refine ⟨hr.setHandle hget rfl fun hne => absurd rfl hne, ?_, ?_⟩
    · rw [unread, unread, lane_setHandle, pendingOf_setHandle hget, if_pos rfl, pendingOf_eq hget,
        List.nil_append]
    · intro _
      refine ⟨?_, ⟨?_, lane_setHandle _ _ _ _⟩, hover⟩
      · rw [unread, pendingOf_eq hget, hpending, hlane]
        rfl
      · rw [pendingOf_setHandle hget, if_pos rfl, pendingOf_eq hget]

theorem drop (hr : p.Reader side h) (k : Nat) : (p.drop k).Reader side h := by
  unfold Pipe.drop
  split
  · exact hr
  · next handle hget =>
    have hgone : (p.setHandle k
        { handle with isLive := false, pending := [], listening := false }).Reader side h :=
      hr.setHandle hget rfl fun _ _ => ⟨rfl, rfl⟩
    dsimp only
    split
    · exact hgone
    · exact hgone.setLane [] handle.side

/-- Nothing unread is lost with another handle while the reader is there, nor with any handle once
all is read. -/
theorem sameStream_drop (hp : p.Sound) {k : Nat}
    (hkeep : (k ≠ h ∧ p.Holds side h) ∨ p.unread side h = []) :
    SameStream side h p (p.drop k) := by
  unfold Pipe.drop
  split
  · exact ⟨rfl, rfl⟩
  · next handle hget =>
    dsimp only
    rcases hkeep with ⟨hne, reader, hreader, hside, hlive⟩ | hempty
    · split
      · exact ⟨by rw [pendingOf_setHandle hget, if_neg hne.symm], lane_setHandle _ _ _ _⟩
      · next hheld =>
        -- The reader is alive, so the lane that is emptied is the far end's.
        have hfar : side ≠ handle.side := by
          rintro rfl
          refine hheld (isHeld_iff.2 ⟨h, reader, ?_, hlive, hside⟩)
          rw [getElem?_setHandle hget, if_neg hne.symm, hreader]
        refine ⟨?_, ?_⟩
        · rw [pendingOf_setLane, pendingOf_setHandle hget, if_neg hne.symm]
        · rw [lane_setLane, if_neg hfar, lane_setHandle]
    · obtain ⟨hpending, hflat⟩ := List.append_eq_nil_iff.1 hempty
      have hlane : p.lane side = [] := hp.lane_eq_nil hflat
      split
      · refine ⟨?_, lane_setHandle _ _ _ _⟩
        rw [pendingOf_setHandle hget, hpending, ite_self]
      · refine ⟨?_, ?_⟩
        · rw [pendingOf_setLane, pendingOf_setHandle hget, hpending, ite_self]
        · rw [lane_setLane, lane_setHandle, hlane, ite_self]

end Reader

/-! ## Ends where nobody receives yet -/

/-- No handle of the end waits for chunks or has any at hand. -/
def Quiet (p : Pipe) (side : Side) : Prop :=
  ∀ (j : Nat) (handle : Handle), p.handles[j]? = some handle → handle.side = side →
    handle.pending = [] ∧ handle.listening = false

/-- Nobody at the end is about to receive. -/
def NoneListening (p : Pipe) (side : Side) : Prop :=
  ∀ (k : Nat) (z : Handle), p.handles[k]? = some z → z.side = side → z.listening = false

namespace Quiet

variable {p p' : Pipe} {side : Side} {h : Nat}

theorem reader (hq : p.Quiet side) (hown : p.Owns side h) : p.Reader side h :=
  ⟨hown, fun hj hs _ => hq _ _ hj hs⟩

theorem unread (hq : p.Quiet side) (hown : p.Owns side h) :
    p.unread side h = (p.lane side).flatten := by
  obtain ⟨handle, hget, hside⟩ := hown
  rw [Pipe.unread, pendingOf_eq hget, (hq h handle hget hside).1, List.nil_append]

/-- A clone takes nothing over from the handle it was made of. -/
theorem clone (hq : p.Quiet side) (k : Nat) : (p.clone k).2.Quiet side := by
  intro j other hj hs
  unfold Pipe.clone at hj
  split at hj
  · exact hq j other hj hs
  · rw [List.getElem?_append] at hj
    split at hj
    · exact hq j other hj hs
    · rw [List.mem_singleton.1 (List.mem_of_getElem? hj)]
      exact ⟨rfl, rfl⟩

end Quiet

@[simp] theorem lane_clone (p : Pipe) (k : Nat) (side : Side) :
    (p.clone k).2.lane side = p.lane side := by
  unfold clone
  split <;> rfl

/-- A clone is a live handle of the same end, with a number of its own. -/
theorem clone_holds {p : Pipe} {side : Side} {k : Nat} (hown : p.Owns side k) :
    (p.clone k).2.Holds side (p.clone k).1 ∧ p.handles[(p.clone k).1]? = none := by
  obtain ⟨handle, hget, hside⟩ := hown
  simp only [clone, hget]
  exact ⟨⟨_, List.getElem?_concat_length, hside, rfl⟩, by simp⟩

/-! ## What an end is fed -/

/-- The bytes that a send call has taken of those it was offered. -/
def taken (data : Bytes) : Except Fault Nat → Bytes
  | .ok n => data.take n
  | .error _ => []

/-- From one end, some bytes have joined what is unread there, if they did not come after the pipe
was closed, and nothing else has changed but that the pipe may have been closed. -/
structure Appended (side : Side) (data : Bytes) (p p' : Pipe) : Prop where
  reader : ∀ {h : Nat}, p.Reader side h → p'.Reader side h
  unread : ∀ {h : Nat}, p.Reader side h → p'.unread side h = p.unread side h ++ data
  quiet : p.Quiet side → p'.Quiet side
  owns : ∀ {h : Nat}, p.Owns side h → p'.Owns side h
  holds : ∀ {h : Nat}, p.Holds side h → p'.Holds side h
  closed : p.isClosed = true → p'.isClosed = true ∧ data = []

theorem Untouched.appended {side : Side} {p p' : Pipe} (hu : Untouched side p p') :
    Appended side [] p p' where
  reader := hu.reader
  unread hr := by rw [(hu.sameStream hr).unread, List.append_nil]
  quiet hq j handle hj hs := hq j handle ((hu.handles j handle hs).1 hj) hs
  owns hown := by
    obtain ⟨handle, hget, hside⟩ := hown
    exact ⟨handle, (hu.handles _ handle hside).2 hget, hside⟩
  holds hlive := by
    obtain ⟨handle, hget, hside, hl⟩ := hlive
    exact ⟨handle, (hu.handles _ handle hside).2 hget, hside, hl⟩
  closed hc := ⟨hu.closed hc, rfl⟩

/-- A send that takes nothing does nothing. -/
theorem send_eq_of_taken_nil {p p' : Pipe} {k : Nat} {data : Bytes} {answer : Except Fault Nat}
    (hp : p.Sound) (hsend : p.send k data = some (answer, p')) (hnone : taken data answer = []) :
    p' = p := by
  obtain ⟨-, heq⟩ | ⟨-, heq⟩ | ⟨sender, hget, -, hdata, -, rfl, -⟩ := send_cases hsend
  · exact heq
  · exact heq
  · have hportion : sender.portion data = [] := by
      rw [← sender.take_length_portion data]
      exact hnone
    exact absurd hportion (hp.portion_ne hget hdata)

theorem Appended.trans {side : Side} {first second : Bytes} {p p' p'' : Pipe}
    (h₁ : Appended side first p p') (h₂ : Appended side second p' p'') :
    Appended side (first ++ second) p p'' where
  reader hr := h₂.reader (h₁.reader hr)
  unread hr := by rw [h₂.unread (h₁.reader hr), h₁.unread hr, List.append_assoc]
  quiet hq := h₂.quiet (h₁.quiet hq)
  owns hown := h₂.owns (h₁.owns hown)
  holds hlive := h₂.holds (h₁.holds hlive)
  closed hc := by
    obtain ⟨hc₁, rfl⟩ := h₁.closed hc
    obtain ⟨hc₂, rfl⟩ := h₂.closed hc₁
    exact ⟨hc₂, rfl⟩

/-- **A send adds to the back of what is unread at the far end exactly what it takes.** -/
theorem Appended.send {p p' : Pipe} {side : Side} {k : Nat} {data : Bytes}
    {answer : Except Fault Nat}
    (hp : p.Sound) (hown : p.Owns side.other k) (hsend : p.send k data = some (answer, p')) :
    Appended side (taken data answer) p p' := by
  have hkeeps : Keeps none p p' := Keeps.send hsend
  have hnone : ∀ {q : Pipe}, q = p → Appended side [] p q := by
    rintro q rfl
    exact (Untouched.refl side q).appended
  obtain ⟨rfl, heq⟩ | ⟨rfl, heq⟩ | ⟨sender, hget, hopen, -, -, rfl, hpush⟩ := send_cases hsend
  · exact hnone heq
  · exact hnone heq
  · obtain ⟨handle, hget', hside⟩ := hown
    cases hget.symm.trans hget'
    have htaken : taken data (.ok (sender.portion data).length) = sender.portion data :=
      sender.take_length_portion data
    rw [hside, Side.other_other] at hpush
    rw [htaken]
    obtain ⟨-, -, rfl⟩ | ⟨hcap, j, waiting, -, hj, -, hs, hpending, hlistening, rfl⟩ :=
      push_cases hpush
    · exact {
        reader := fun hr => hr.setLane _ _
        unread := fun hr => by
          rw [Pipe.unread, Pipe.unread, pendingOf_setLane, lane_setLane, if_pos rfl,
            List.flatten_append, List.flatten_singleton, List.append_assoc]
        quiet := fun hq j handle hj => hq j handle (by simpa using hj)
        owns := hkeeps.owns
        holds := fun hl => hkeeps.holds hl (by simp)
        closed := fun hc => by simp [hopen] at hc }
    · -- The only handle that can have been waiting is the reader.
      have hreader : ∀ {h : Nat}, p.Reader side h → j = h := by
        intro h hr
        by_cases hjh : j = h
        · exact hjh
        · rw [(hr.alone hj hs hjh).2] at hlistening
          cases hlistening
      have hlane : p.lane side = [] := by
        have hroom := hp.room 0 hcap side
        exact List.length_eq_zero_iff.1 (by omega)
      exact {
        reader := fun hr => hr.setHandle hj rfl fun hne => absurd (hreader hr) hne
        unread := fun hr => by
          rw [Pipe.unread, Pipe.unread, lane_setHandle, hlane, pendingOf_setHandle hj,
            if_pos (hreader hr).symm, ← hreader hr, pendingOf_eq hj, hpending]
          simp
        quiet := fun hq => by
          rw [(hq j waiting hj hs).2] at hlistening
          cases hlistening
        owns := hkeeps.owns
        holds := fun hl => hkeeps.holds hl (by simp)
        closed := fun hc => by simp [hopen] at hc }

end Pipe

end TextRelay
