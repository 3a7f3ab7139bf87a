import TextRelay.Proofs.Pipe.Bisimulation
import TextRelay.Proofs.Pipe.Stream

/-!
# What is on its way to a reader stays on its way

While a handle is the only reader of its end, the text that it has read and has still to read only
grows at the back. It does so whatever is done to the pipe beside that handle (`IsOtherStep`), which
may be anything but to read at its end or to give it up.
-/

namespace TextRelay

open Medium (Agree agree_self)
open Scenario

namespace Pipe

/-- Whether a step neither reads at the end nor gives up its reader. -/
def keepsReader (side : Side) (reader : Nat) (p : Pipe) (k : Nat) : PipeStep → Bool
  | .receive _ => !((p.handles[k]?).map Handle.side == some side)
  | .drop => k != reader
  | _ => true

/-- A use that others make of a pipe beside the reader of an end: one step on one of the handles, if
it spares that reader. -/
def IsOtherStep (side : Side) (reader : Nat) (change : Pipe → Pipe) : Prop :=
  ∃ k step, change = fun p => if p.keepsReader side reader k step then (step.attempt k p).pipe
    else p

theorem keepsReader_receive {side : Side} {reader k size : Nat} {p : Pipe}
    (h : p.keepsReader side reader k (.receive size) = true) : ¬ p.Owns side k := by
  rintro ⟨z, hget, rfl⟩
  simp [keepsReader, hget] at h

/-- A relation between pipes outlives what is done to both of them beside a reader. -/
theorem IsOtherStep.of_bisimulation {side : Side} {reader : Nat} {change : Pipe → Pipe}
    (hchange : IsOtherStep side reader change) {R : Pipe → Pipe → Prop}
    {mayRead mayDrop : Pipe → Nat → Prop} (hR : Bisimulation R mayRead mayDrop)
    (hread : ∀ {p : Pipe} {k : Nat}, ¬ p.Owns side k → mayRead p k)
    (hdrop : ∀ {p : Pipe} {k : Nat}, k ≠ reader → mayDrop p k) {p p' : Pipe} (hp : R p p')
    (hsides : ∀ k : Nat, (p'.handles[k]?).map Handle.side = (p.handles[k]?).map Handle.side) :
    R (change p) (change p') := by
  obtain ⟨k, step, rfl⟩ := hchange
  have hkeepsReader : p'.keepsReader side reader k step = p.keepsReader side reader k step := by
    cases step with
    | receive size => rw [keepsReader, keepsReader, hsides]
    | _ => rfl
  dsimp only
  rw [hkeepsReader]
  split
  · next hkept =>
    refine (hR.attempt hp ?_ ?_).pipe
    · rintro size rfl
      exact hread (keepsReader_receive hkept)
    · rintro rfl
      exact hdrop (bne_iff_ne.1 hkept)
  · exact hp

/-- The handle alone reads at its end, and what it has read and has still to read begins with some
text. -/
structure ReadsText (side : Side) (h : Nat) (past text : Bytes) (p : Pipe) : Prop where
  sound : p.Sound
  reader : p.Reader side h
  holds : p.Holds side h
  text : text <+: past ++ p.unread side h

namespace ReadsText

variable {side : Side} {h : Nat} {past text : Bytes} {p p' : Pipe}

theorem appended (hc : ReadsText side h past text p) (hsound : p'.Sound) {data : Bytes}
    (happended : Appended side data p p') : ReadsText side h past text p' := by
  refine ⟨hsound, happended.reader hc.reader, happended.holds hc.holds, ?_⟩
  rw [happended.unread hc.reader, ← List.append_assoc]
  exact hc.text.trans (List.prefix_append _ _)

theorem untouched (hc : ReadsText side h past text p) (hsound : p'.Sound)
    (hu : Untouched side p p') : ReadsText side h past text p' :=
  hc.appended hsound hu.appended

theorem same (hc : ReadsText side h past text p) (hsound : p'.Sound) (hreader : p'.Reader side h)
    (hholds : p'.Holds side h) (hs : SameStream side h p p') : ReadsText side h past text p' :=
  ⟨hsound, hreader, hholds, by rw [hs.unread]; exact hc.text⟩

theorem send (hc : ReadsText side h past text p) {k : Nat} {data : Bytes}
    {answer : Except Fault Nat} (hsend : p.send k data = some (answer, p')) :
    ReadsText side h past text p' := by
  have hsound := hc.sound.send hsend
  cases hget : p.handles[k]? with
  | none =>
    simp only [Pipe.send, hget, Option.some.injEq, Prod.mk.injEq] at hsend
    rw [← hsend.2]
    exact hc
  | some handle =>
    by_cases hside : handle.side = side
    · exact hc.untouched hsound (.send hget hside hsend)
    · exact hc.appended hsound (.send hc.sound ⟨handle, hget, Side.eq_other_of_ne hside⟩ hsend)

theorem listen_own (hc : ReadsText side h past text p) : ReadsText side h past text (p.listen h) :=
  hc.same (hc.sound.listen h) hc.reader.listen ((Keeps.listen p h).holds hc.holds (by simp))
    hc.reader.sameStream_listen

theorem listen (hc : ReadsText side h past text p) {k : Nat} (hfar : ¬ p.Owns side k) :
    ReadsText side h past text (p.listen k) := by
  cases hget : p.handles[k]? with
  | none => simpa [Pipe.listen, hget] using hc
  | some handle =>
    have hside := Side.eq_other_of_ne fun hside => hfar ⟨handle, hget, hside⟩
    exact hc.untouched (hc.sound.listen k) (.listen hget hside)

theorem receive (hc : ReadsText side h past text p) {k size : Nat} (hfar : ¬ p.Owns side k)
    {answer : Except Fault Bytes} (hreceive : p.receive k size = some (answer, p')) :
    ReadsText side h past text p' := by
  have hsound := hc.sound.receive hreceive
  cases hget : p.handles[k]? with
  | none =>
    simp only [Pipe.receive, hget, Option.some.injEq, Prod.mk.injEq] at hreceive
    rw [← hreceive.2]
    exact hc
  | some handle =>
    have hside := Side.eq_other_of_ne fun hside => hfar ⟨handle, hget, hside⟩
    rcases Nat.eq_zero_or_pos size with rfl | hsize
    · simp only [Pipe.receive, hget, if_true, Option.some.injEq, Prod.mk.injEq] at hreceive
      rw [← hreceive.2] at hsound ⊢
      exact hc.untouched hsound (.setHandle hget hside rfl)
    · exact hc.untouched hsound (.receive hget hside hsize hreceive)

theorem clone (hc : ReadsText side h past text p) (k : Nat) :
    ReadsText side h past text (p.clone k).2 := by
  have hkeeps := Keeps.clone p k
  have hold : ∀ {j : Nat}, j < p.handles.length → (p.clone k).2.handles[j]? = p.handles[j]? := by
    intro j hj
    unfold Pipe.clone
    cases p.handles[k]? with
    | none => rfl
    | some handle => exact List.getElem?_append_left hj
  obtain ⟨reader, hget, -⟩ := hc.reader.own
  refine hc.same (hc.sound.clone k) ⟨hkeeps.owns hc.reader.own, ?_⟩
    (hkeeps.holds hc.holds (by simp)) ⟨?_, lane_clone p k side⟩
  · intro j other hj hs hne
    unfold Pipe.clone at hj
    split at hj
    · exact hc.reader.alone hj hs hne
    · rw [List.getElem?_append] at hj
      split at hj
      · exact hc.reader.alone hj hs hne
      · rw [List.mem_singleton.1 (List.mem_of_getElem? hj)]
        exact ⟨rfl, rfl⟩
  · rw [pendingOf, pendingOf, hold (List.getElem?_eq_some_iff.1 hget).1]

theorem close (hc : ReadsText side h past text p) : ReadsText side h past text p.close :=
  hc.untouched hc.sound.close .close

theorem limit (hc : ReadsText side h past text p) (k most : Nat) :
    ReadsText side h past text (p.limit k most) := by
  have hsound := hc.sound.limit k most
  unfold Pipe.limit at hsound ⊢
  split at hsound
  · exact hc
  · next handle hget =>
    refine hc.same hsound (hc.reader.setHandle hget rfl ?_) ?_ ⟨?_, lane_setHandle _ _ _ _⟩
    · intro hne hs
      have halone := hc.reader.alone hget hs hne
      exact halone
    · obtain ⟨reader, hreader, hside, hlive⟩ := hc.holds
      by_cases hk : h = k
      · subst hk
        cases hget.symm.trans hreader
        refine ⟨{ handle with limit := some (max most 1) }, ?_, hside, hlive⟩
        rw [getElem?_setHandle hget, if_pos rfl]
      · exact ⟨reader, by rw [getElem?_setHandle hget, if_neg hk, hreader], hside, hlive⟩
    · rw [pendingOf_setHandle hget]
      split
      · next hk => rw [hk, pendingOf_eq hget]
      · rfl

theorem drop (hc : ReadsText side h past text p) {k : Nat} (hk : k ≠ h) :
    ReadsText side h past text (p.drop k) :=
  hc.same (hc.sound.drop k) (hc.reader.drop k)
    ((Keeps.drop p k).holds hc.holds fun heq => hk (Option.some.inj heq))
    (Reader.sameStream_drop hc.sound (.inl ⟨hk, hc.holds⟩))

/-- A receive call of the reader itself takes the front of what it has still to read. -/
theorem receive_own (hc : ReadsText side h past text p) {size : Nat} (hsize : 0 < size)
    {data : Bytes} (hreceive : p.receive h size = some (.ok data, p')) :
    ReadsText side h (past ++ data) text p' ∧ (data = [] → text <+: past) := by
  obtain ⟨hreader, htaken, hnone⟩ := hc.reader.receive hc.sound hsize hreceive
  refine ⟨⟨hc.sound.receive hreceive, hreader, ?_, ?_⟩, ?_⟩
  · exact (Keeps.receive hc.reader.own hsize hreceive).holds hc.holds (by simp)
  · rw [List.append_assoc, htaken]
    exact hc.text
  · intro hdata
    have htext := hc.text
    rwa [(hnone hdata).1, List.append_nil] at htext

theorem bisimulation (side : Side) (h : Nat) (past text : Bytes) :
    Bisimulation (fun p p' => p' = p ∧ ReadsText side h past text p) (fun p k => ¬ p.Owns side k)
      (fun _ k => k ≠ h) where
  isLive hp k := by rw [hp.1]
  peer hp k := by rw [hp.1]
  isClosed hp := by rw [hp.1]
  send := by
    rintro p p' ⟨rfl, hc⟩ k data
    exact agree_self fun answer q hsend => ⟨rfl, hc.send hsend⟩
  listen := by
    rintro p p' ⟨rfl, hc⟩ k hfar
    exact ⟨rfl, hc.listen hfar⟩
  receive := by
    rintro p p' ⟨rfl, hc⟩ k size hfar
    exact agree_self fun answer q hreceive => ⟨rfl, hc.receive hfar hreceive⟩
  mayRead hfar hown := hfar (owns_of_listen hown)
  clone := by
    rintro p p' ⟨rfl, hc⟩ k
    exact ⟨rfl, rfl, hc.clone k⟩
  close := by
    rintro p p' ⟨rfl, hc⟩
    exact ⟨rfl, hc.close⟩
  limit := by
    rintro p p' ⟨rfl, hc⟩ k most
    exact ⟨rfl, hc.limit k most⟩
  drop := by
    rintro p p' ⟨rfl, hc⟩ k hk
    exact ⟨rfl, hc.drop hk⟩

end ReadsText

end Pipe

end TextRelay
