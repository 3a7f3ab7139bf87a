import TextRelay.Proofs.Pipe.Attempts
import TextRelay.Proofs.Pipe.Stream

/-!
# Closed pipes run dry

Nothing can be sent into a closed pipe. So whatever is done to it, at either end and with any of its
handles, what a handle has not read yet does not become more (`Drains`), and a receive call of that
handle makes it less by what it returns. Nobody has to be the only reader of an end for this.
-/

namespace TextRelay

namespace Pipe

/-- What becomes of a handle's stream in a pipe that is closed, or is about to be. -/
structure Drains (side : Side) (h : Nat) (p p' : Pipe) : Prop where
  closed : p.isClosed = true → p'.isClosed = true
  owns : p.Owns side h → p'.Owns side h
  unread : p.isClosed = true → p.Owns side h →
    (p'.unread side h).length ≤ (p.unread side h).length

/-- Nothing is sent into a closed pipe. -/
theorem send_of_isClosed {p : Pipe} (hclosed : p.isClosed = true) (h : Nat) (data : Bytes) :
    p.send h data = some (.error broken, p) := by
  unfold send
  split
  · rfl
  · rw [if_pos hclosed]

theorem Owns.setHandle {p : Pipe} {side : Side} {h k : Nat} {old new : Handle}
    (hp : p.Owns side h) (hold : p.handles[k]? = some old) (hside : new.side = old.side) :
    (p.setHandle k new).Owns side h := by
  obtain ⟨handle, hget, rfl⟩ := hp
  by_cases hk : h = k
  · subst hk
    rw [hold] at hget
    cases hget
    exact ⟨new, by simp [getElem?_setHandle hold], hside⟩
  · exact ⟨handle, by simp [getElem?_setHandle hold, hk, hget], rfl⟩

theorem length_unread (p : Pipe) (side : Side) (h : Nat) :
    (p.unread side h).length = (p.pendingOf h).length + (p.lane side).flatten.length := by
  rw [unread, List.length_append]

namespace Drains

variable {p p' p'' : Pipe} {side : Side} {h : Nat}

theorem refl (side : Side) (h : Nat) (p : Pipe) : Drains side h p p :=
  ⟨id, id, fun _ _ => Nat.le_refl _⟩

theorem trans (h₁ : Drains side h p p') (h₂ : Drains side h p' p'') : Drains side h p p'' where
  closed hp := h₂.closed (h₁.closed hp)
  owns hp := h₂.owns (h₁.owns hp)
  unread hclosed hown :=
    Nat.le_trans (h₂.unread (h₁.closed hclosed) (h₁.owns hown)) (h₁.unread hclosed hown)

/-- A handle is replaced by one that has no more at hand. -/
theorem setHandle {k : Nat} {old new : Handle} (hold : p.handles[k]? = some old)
    (hside : new.side = old.side) (hpending : new.pending.length ≤ old.pending.length) :
    Drains side h p (p.setHandle k new) := by
  refine ⟨id, fun hown => hown.setHandle hold hside, fun _ _ => ?_⟩
  rw [length_unread, length_unread, lane_setHandle, pendingOf_setHandle hold]
  apply Nat.add_le_add_right
  split
  · next hk =>
    rw [hk, pendingOf_eq hold]
    exact hpending
  · exact Nat.le_refl _

theorem clear (x : Side) : Drains side h p (p.setLane [] x) := by
  refine ⟨?_, ?_, fun _ _ => ?_⟩
  · rw [setLane_isClosed]
    exact id
  · intro hown
    simpa [Owns] using hown
  · rw [length_unread, length_unread, pendingOf_setLane, lane_setLane]
    apply Nat.add_le_add_left
    split
    · exact Nat.zero_le _
    · exact Nat.le_refl _

theorem send {k : Nat} {data : Bytes} {answer : Except Fault Nat}
    (hsend : p.send k data = some (answer, p')) : Drains side h p p' := by
  refine ⟨fun hclosed => (send_keeps hsend).1.trans hclosed, (Keeps.send hsend).owns, ?_⟩
  intro hclosed _
  rw [send_of_isClosed hclosed] at hsend
  cases hsend
  exact Nat.le_refl _

theorem listen (k : Nat) : Drains side h p (p.listen k) := by
  unfold Pipe.listen
  split
  · exact refl side h p
  · next handle hget => exact setHandle hget rfl (Nat.le_refl _)

theorem limit (k most : Nat) : Drains side h p (p.limit k most) := by
  unfold Pipe.limit
  split
  · exact refl side h p
  · next handle hget => exact setHandle hget rfl (Nat.le_refl _)

theorem drop (k : Nat) : Drains side h p (p.drop k) := by
  unfold Pipe.drop
  split
  · exact refl side h p
  · next handle hget =>
    have hgone : Drains side h p (p.setHandle k
        { handle with isLive := false, pending := [], listening := false }) :=
      setHandle hget rfl (Nat.zero_le _)
    dsimp only
    split
    · exact hgone
    · exact hgone.trans (clear handle.side)

theorem close : Drains side h p p.close := by
  refine ⟨fun _ => rfl, fun hown => hown, fun _ _ => ?_⟩
  rw [length_unread, length_unread, lane_close]
  exact Nat.le_refl _

theorem clone (k : Nat) : Drains side h p (p.clone k).2 := by
  refine ⟨?_, (Keeps.clone p k).owns, fun _ hown => ?_⟩
  · rw [clone_isClosed]
    exact id
  · obtain ⟨handle, hget, -⟩ := hown
    have hsame : (p.clone k).2.pendingOf h = p.pendingOf h := by
      have hlt := (List.getElem?_eq_some_iff.1 hget).1
      unfold Pipe.clone pendingOf
      cases p.handles[k]? with
      | none => rfl
      | some other => simp [List.getElem?_append_left hlt]
    apply Nat.le_of_eq
    rw [length_unread, length_unread, lane_clone, hsame]

/-- What a receive call takes is missing afterwards. -/
theorem receive_own {size : Nat} {data : Bytes} (hown : p.Owns side h)
    (hreceive : p.receive h size = some (.ok data, p')) :
    (p'.unread side h).length + data.length ≤ (p.unread side h).length := by
  obtain ⟨handle, hget, rfl⟩ := hown
  rcases Nat.eq_zero_or_pos size with rfl | hsize
  · simp only [receive, hget, if_true, Option.some.injEq, Prod.mk.injEq,
      Except.ok.injEq] at hreceive
    obtain ⟨rfl, rfl⟩ := hreceive
    simp [length_unread, pendingOf_setHandle hget, pendingOf_eq hget]
  · simp only [length_unread]
    obtain ⟨-, hdata, rfl⟩ | ⟨-, chunk, rest, hlane, hdata, rfl⟩ | ⟨hnil, hlane, -, hdata, rfl⟩ :=
      receive_cases hget hsize hreceive
    · cases hdata
      simp only [pendingOf_setHandle hget, if_true, lane_setHandle, pendingOf_eq hget,
        List.length_drop, List.length_take]
      omega
    · cases hdata
      have hget' : (p.setLane rest handle.side).handles[h]? = some handle := by simpa using hget
      simp only [pendingOf_setHandle hget', if_true, lane_setHandle, lane_setLane, hlane,
        List.flatten_cons, List.length_append, List.length_drop, List.length_take]
      omega
    · cases hdata
      simp [pendingOf_setHandle hget, hnil, hlane]

theorem receive {k size : Nat} {answer : Except Fault Bytes}
    (hreceive : p.receive k size = some (answer, p')) : Drains side h p p' := by
  cases hget : p.handles[k]? with
  | none =>
    simp only [Pipe.receive, hget, Option.some.injEq, Prod.mk.injEq] at hreceive
    rw [← hreceive.2]
    exact refl side h p
  | some handle =>
    rcases Nat.eq_zero_or_pos size with rfl | hsize
    · simp only [Pipe.receive, hget, if_true, Option.some.injEq, Prod.mk.injEq] at hreceive
      rw [← hreceive.2]
      exact setHandle hget rfl (Nat.le_refl _)
    · refine ⟨fun hclosed => (receive_keeps hreceive).1.trans hclosed,
        (Keeps.receive ⟨handle, hget, rfl⟩ hsize hreceive).owns, fun _ hown => ?_⟩
      by_cases hk : h = k
      · subst hk
        obtain ⟨data, rfl⟩ := receive_ok hreceive
        exact Nat.le_of_add_right_le (receive_own hown hreceive)
      -- another handle may take chunks that were on their way to this one
      · simp only [length_unread]
        obtain ⟨-, -, rfl⟩ | ⟨-, chunk, rest, hlane, -, rfl⟩ | ⟨-, -, -, -, rfl⟩ :=
          receive_cases hget hsize hreceive
        · simp [pendingOf_setHandle hget, hk]
        · have hget' : (p.setLane rest handle.side).handles[k]? = some handle := by
            simpa using hget
          simp only [pendingOf_setHandle hget', hk, if_false, pendingOf_setLane, lane_setHandle,
            lane_setLane]
          split
          · next hside =>
            rw [hside, hlane]
            simp
          · exact Nat.le_refl _
        · simp [pendingOf_setHandle hget, hk]

end Drains

/-- A use that others make of a pipe: one step on one of its handles, as far as it goes. -/
def IsStep (change : Pipe → Pipe) : Prop :=
  ∃ (h : Nat) (step : Scenario.PipeStep), change = fun p => (step.attempt h p).pipe

/-- Whatever others do with a closed pipe, a handle's stream only drains. -/
theorem IsStep.drains {change : Pipe → Pipe} (hchange : IsStep change) (side : Side) (h : Nat)
    (p : Pipe) : Drains side h p (change p) := by
  obtain ⟨k, step, rfl⟩ := hchange
  refine Scenario.Preserved.attempt (P := Drains side h p) ?_ k step (.refl side h p)
  exact {
    send := fun hp _ hsend => hp.trans (.send hsend)
    receive := fun hp hreceive => hp.trans (.receive hreceive)
    listen := fun k hp => hp.trans (.listen k)
    clone := fun hp _ => hp.trans (.clone _)
    close := fun hp => hp.trans .close
    limit := fun k most hp => hp.trans (.limit k most)
    drop := fun k hp => hp.trans (.drop k) }

end Pipe

end TextRelay
