import TextRelay.Host.AnyListener

/-!
# The sockets of listeners

Which sockets of a host listen, and what becomes of the socket of a listener when it is bound,
accepts and is closed. A listener that was closed holds no socket, and the one it held does not
listen any more.
-/

namespace TextRelay

namespace Host

/-- Whether somebody listens on a socket. -/
def isListening (w : Host) (id : Nat) : Bool := (w.sockets[id]?).any (·.isOpen)

variable {w w' : Host} {id other : Nat}

theorem lt_of_isListening (h : w.isListening id = true) : id < w.sockets.length := by
  refine Nat.lt_of_not_le fun hge => ?_
  rw [isListening, List.getElem?_eq_none hge] at h
  cases h

/-! ## What touches neither files nor sockets -/

/-- Two states of a host with the same files, in which the same sockets listen. -/
structure SameSockets (w w' : Host) : Prop where
  files : w'.files = w.files
  listening : ∀ id, w'.isListening id = w.isListening id

namespace SameSockets

theorem refl (w : Host) : w.SameSockets w := ⟨rfl, fun _ => rfl⟩

theorem trans {w₁ w₂ w₃ : Host} (h₁₂ : w₁.SameSockets w₂) (h₂₃ : w₂.SameSockets w₃) :
    w₁.SameSockets w₃ :=
  ⟨h₂₃.files.trans h₁₂.files, fun id => (h₂₃.listening id).trans (h₁₂.listening id)⟩

theorem of_eq (hfiles : w'.files = w.files) (hsockets : w'.sockets = w.sockets) :
    w.SameSockets w' := by
  refine ⟨hfiles, fun id => ?_⟩
  unfold isListening
  rw [hsockets]

end SameSockets

theorem same_closeStream (w : Host) (n : Nat) (wasAccepted : Bool) :
    w.SameSockets (w.closeStream n wasAccepted) := by
  unfold closeStream
  split
  · exact .refl w
  · exact .of_eq rfl rfl

theorem same_clone (w : Host) (h : Nat) : w.SameSockets (w.clone h).2 := by
  unfold clone
  split
  · exact .refl w
  · exact .of_eq rfl rfl

theorem same_drop (w : Host) (h : Nat) : w.SameSockets (w.drop h) := by
  unfold drop
  split
  · exact .refl w
  · next n s hstream =>
    have hgiven (handles : List Handle) : w.SameSockets { w with handles } := .of_eq rfl rfl
    dsimp only
    split
    · exact hgiven _
    · exact (hgiven _).trans (same_closeStream _ n true)

theorem same_refusal {call : Call} {fault : Fault} (h : w.refusal? call = some (fault, w')) :
    w.SameSockets w' := by
  obtain ⟨r, -, heq⟩ := Option.map_eq_some_iff.1 h
  cases heq
  exact .of_eq rfl rfl

/-- Taking a connection off the backlog of a socket leaves it listening, or not, as it was. -/
theorem same_setBacklog {socket : Socket} (hsocket : w.sockets[id]? = some socket)
    (backlog : List Nat) :
    w.SameSockets { w with sockets := w.sockets.set id { socket with backlog } } := by
  refine ⟨rfl, fun other => ?_⟩
  unfold isListening
  rw [List.getElem?_set]
  split
  · next heq =>
    subst heq
    have hlt : id < w.sockets.length := (List.getElem?_eq_some_iff.1 hsocket).1
    rw [if_pos hlt, hsocket]
    rfl
  · rfl

theorem same_acceptFrom {peer : String} {result : Except Fault Nat}
    (h : w.acceptFrom id peer = some (result, w')) : w.SameSockets w' := by
  unfold acceptFrom at h
  split at h
  · next hrefusal =>
    cases h
    exact same_refusal hrefusal
  · split at h
    · cases h
    · next socket hsocket =>
      split at h
      · cases h
      · next stream rest hbacklog =>
        cases h
        exact .trans (same_setBacklog hsocket rest) (.of_eq rfl rfl)

/-! ## Opening and closing sockets -/

theorem same_closeStreams (streams : List Nat) (w : Host) :
    w.SameSockets (streams.foldl (fun w n => w.closeStream n false) w) := by
  induction streams generalizing w with
  | nil => exact .refl w
  | cons n rest ih => exact (same_closeStream w n false).trans (ih _)

theorem closeSocket_files (w : Host) (id : Nat) : (w.closeSocket id).files = w.files := by
  unfold closeSocket
  split
  · rfl
  · exact (same_closeStreams _ _).files

/-- A socket that is closed does not listen; all others are as they were. -/
theorem isListening_closeSocket (w : Host) (id other : Nat) :
    (w.closeSocket id).isListening other = (w.isListening other && decide (other ≠ id)) := by
  unfold closeSocket
  split
  · next hnone =>
    by_cases heq : other = id
    · subst heq
      simp [isListening, hnone]
    · simp [heq]
  · next socket hsocket =>
    dsimp only
    -- The connections that waited are closed one by one, which no socket notices.
    rw [(same_closeStreams _ _).listening]
    unfold isListening
    rw [List.getElem?_set]
    by_cases heq : id = other
    · subst heq
      have hlt : id < w.sockets.length := (List.getElem?_eq_some_iff.1 hsocket).1
      simp [hlt]
    · simp [heq, Ne.symm heq]

theorem isListening_openSocket (w : Host) (address : Option Address) (id : Nat) :
    (w.openSocket address).2.isListening id =
      (w.isListening id || decide (id = w.sockets.length)) := by
  show ((w.sockets ++ [{ address := address }])[id]?).any (·.isOpen) = _
  unfold isListening
  rcases Nat.lt_trichotomy id w.sockets.length with hlt | heq | hgt
  · rw [List.getElem?_append_left hlt]
    simp [Nat.ne_of_lt hlt]
  · subst heq
    simp
  · rw [List.getElem?_append_right (Nat.le_of_lt hgt), List.getElem?_eq_none (Nat.le_of_lt hgt),
      List.getElem?_eq_none (by simp; omega)]
    simp [Nat.ne_of_gt hgt]

end Host

/-! ## Listeners -/

namespace PortListener

theorem socket_of_bind {l l' : PortListener} {w w' : Host} (h : l.bind w = (.ok (), l', w')) :
    l'.socket.isSome = true := by
  unfold bind at h
  split at h
  · cases h
  · cases h
    rfl

theorem of_accept {l l' : PortListener} {w w' : Host} {result : Except Fault Nat}
    (h : l.accept w = some (result, l', w')) : l' = l := by
  unfold accept at h
  split at h
  · cases h
    rfl
  · obtain ⟨⟨result', w₁⟩, -, heq⟩ := Option.map_eq_some_iff.1 h
    cases heq
    rfl

theorem of_close {l l' : PortListener} {w w' : Host} (h : l.close w = (l', w')) :
    l'.socket = none ∧ ∀ id, l.socket = some id → w'.isListening id = false := by
  unfold close at h
  split at h
  · next hnone =>
    cases h
    exact ⟨hnone, fun id hid => by rw [hnone] at hid; cases hid⟩
  · next id hsome =>
    cases h
    refine ⟨rfl, fun other hother => ?_⟩
    rw [hsome] at hother
    cases hother
    rw [Host.isListening_closeSocket]
    simp

end PortListener

end TextRelay
