import TextRelay.Proofs.Pipe.Attempts

/-!
# The end of a stream

A receive call that brings nothing tells the end of the stream, and a relay stops at it. So it has
to be true and it has to stay true. `Ended` says what it means for a handle: nothing is at hand,
nothing is on its way, and nothing can be sent any more, because the pipe is closed or its far end
is gone. Nothing that can be done to a pipe revokes it: a closed pipe refuses every send, and an
end without handles has none to be cloned.
-/

namespace TextRelay

namespace Pipe

/-- The handle has nothing at hand, nothing is on its way to its end, and nothing can follow. -/
structure Ended (p : Pipe) (h : Nat) (handle : Handle) : Prop where
  get : p.handles[h]? = some handle
  pending : handle.pending = []
  lane : p.lane handle.side = []
  severed : p.isClosed = true ∨ p.isHeld handle.side.other = false

/-- The stream has ended for a handle, whatever else became of it. -/
def HasEnded (p : Pipe) (h : Nat) : Prop := ∃ handle, p.Ended h handle

namespace Ended

variable {p p' : Pipe} {h j : Nat} {handle : Handle}

/-- Replacing a handle by one of the same end that is no more alive and has nothing at hand. -/
theorem setHandle (he : p.Ended h handle) {old new : Handle} (hold : p.handles[j]? = some old)
    (hside : new.side = old.side) (hlive : new.isLive = true → old.isLive = true)
    (hpending : j = h → new.pending = []) : (p.setHandle j new).HasEnded h := by
  have hover : p.isClosed = true ∨ (p.setHandle j new).isHeld handle.side.other = false := by
    refine he.severed.imp_right fun hunheld => ?_
    rw [← Bool.not_eq_true, isHeld_iff] at hunheld ⊢
    rintro ⟨k, other, hk, hl, hs⟩
    apply hunheld
    rw [getElem?_setHandle hold] at hk
    split at hk
    · cases hk
      exact ⟨j, old, hold, hlive hl, hside ▸ hs⟩
    · exact ⟨k, other, hk, hl, hs⟩
  by_cases hjh : h = j
  · subst hjh
    have heq : old = handle := Option.some.inj (hold.symm.trans he.get)
    subst heq
    refine ⟨new, by simp [getElem?_setHandle hold], hpending rfl, ?_, ?_⟩
    · simpa [hside] using he.lane
    · simpa [hside] using hover
  · exact ⟨handle, by simp [getElem?_setHandle hold, hjh, he.get], he.pending,
      by simpa using he.lane, by simpa using hover⟩

/-- Replacing the chunks of a lane, if the handle's own lane stays empty. -/
theorem setLane (he : p.Ended h handle) {chunks : List Bytes} {side : Side}
    (hchunks : side = handle.side → chunks = []) : (p.setLane chunks side).HasEnded h := by
  refine ⟨handle, by simpa using he.get, he.pending, ?_, by simpa using he.severed⟩
  rw [lane_setLane]
  split
  · next hside => exact hchunks hside.symm
  · exact he.lane

/-- Nobody can send into a stream that has ended: whoever is left sits at its own end. -/
theorem send (he : p.Ended h handle) (hlive : p.IsLive j) {data : Bytes}
    {answer : Except Fault Nat} (hsend : p.send j data = some (answer, p')) : p'.HasEnded h := by
  obtain ⟨-, rfl⟩ | ⟨-, rfl⟩ | ⟨sender, hget, hopen, -, hheld, -, -⟩ := send_cases hsend
  · exact ⟨handle, he⟩
  · exact ⟨handle, he⟩
  · have hunheld : p.isHeld handle.side.other = false := by
      simpa [hopen] using he.severed
    by_cases hside : sender.side = handle.side
    · rw [hside, hunheld] at hheld
      cases hheld
    · have hheld' := hlive.isHeld hget
      rw [Side.eq_other_of_ne hside, hunheld] at hheld'
      cases hheld'

theorem receive (he : p.Ended h handle) {size : Nat} {answer : Except Fault Bytes}
    (hreceive : p.receive j size = some (answer, p')) : p'.HasEnded h := by
  cases hget : p.handles[j]? with
  | none =>
    simp only [Pipe.receive, hget, Option.some.injEq, Prod.mk.injEq] at hreceive
    exact hreceive.2 ▸ ⟨handle, he⟩
  | some taker =>
    have hself : j = h → taker = handle := by
      rintro rfl
      exact Option.some.inj (hget.symm.trans he.get)
    rcases Nat.eq_zero_or_pos size with rfl | hsize
    · simp only [Pipe.receive, hget, if_true, Option.some.injEq, Prod.mk.injEq] at hreceive
      rw [← hreceive.2]
      exact he.setHandle hget rfl id fun hjh => hself hjh ▸ he.pending
    · obtain ⟨hne, -, rfl⟩ | ⟨-, chunk, rest, hlane, -, rfl⟩ | ⟨hempty, -, -, -, rfl⟩ :=
        receive_cases hget hsize hreceive
      · refine he.setHandle hget rfl id fun hjh => ?_
        rw [hself hjh] at hne
        exact absurd he.pending hne
      · -- the handle's own lane is empty, so the chunk came from the other one
        have hside : taker.side ≠ handle.side := by
          intro hside
          rw [hside, he.lane] at hlane
          cases hlane
        obtain ⟨handle', he'⟩ := he.setLane fun hs => absurd hs hside
        have hget' : (p.setLane rest taker.side).handles[j]? = some taker := by simpa using hget
        exact he'.setHandle hget' rfl id fun hjh => absurd (congrArg Handle.side (hself hjh)) hside
      · exact he.setHandle hget rfl id fun _ => hempty

theorem listen (he : p.Ended h handle) (j : Nat) : (p.listen j).HasEnded h := by
  unfold Pipe.listen
  split
  · exact ⟨handle, he⟩
  · next waiting hget =>
    refine he.setHandle hget rfl id ?_
    rintro rfl
    exact Option.some.inj (hget.symm.trans he.get) ▸ he.pending

theorem clone (he : p.Ended h handle) (hlive : p.IsLive j) : (p.clone j).2.HasEnded h := by
  unfold Pipe.clone
  split
  · exact ⟨handle, he⟩
  · next source hget =>
    refine ⟨handle, ?_, he.pending, he.lane, he.severed.imp_right fun hunheld => ?_⟩
    · rw [List.getElem?_append_left (List.getElem?_eq_some_iff.1 he.get).1]
      exact he.get
    · have hside : source.side ≠ handle.side.other := by
        intro hs
        have hheld := hlive.isHeld hget
        rw [hs, hunheld] at hheld
        cases hheld
      rw [← hunheld]
      simp [isHeld, hside]

theorem close (he : p.Ended h handle) : p.close.HasEnded h :=
  ⟨handle, he.get, he.pending, by simpa using he.lane, .inl rfl⟩

theorem limit (he : p.Ended h handle) (j most : Nat) : (p.limit j most).HasEnded h := by
  unfold Pipe.limit
  split
  · exact ⟨handle, he⟩
  · next limited hget =>
    refine he.setHandle hget rfl id ?_
    rintro rfl
    exact Option.some.inj (hget.symm.trans he.get) ▸ he.pending

theorem drop (he : p.Ended h handle) (j : Nat) : (p.drop j).HasEnded h := by
  unfold Pipe.drop
  split
  · exact ⟨handle, he⟩
  · next dropped hget =>
    have hgone : (p.setHandle j
        { dropped with isLive := false, pending := [], listening := false }).HasEnded h :=
      he.setHandle hget rfl (by simp) fun _ => rfl
    dsimp only
    split
    · exact hgone
    · obtain ⟨handle', he'⟩ := hgone
      exact he'.setLane fun _ => rfl

end Ended

/-- The end of a stream is never revoked. -/
theorem preserved_hasEnded (h : Nat) : Scenario.Preserved (HasEnded · h) where
  send := fun ⟨_, he⟩ hlive hsend => he.send hlive hsend
  receive := fun ⟨_, he⟩ hreceive => he.receive hreceive
  listen := fun j ⟨_, he⟩ => he.listen j
  clone := fun ⟨_, he⟩ hlive => he.clone hlive
  close := fun ⟨_, he⟩ => he.close
  limit := fun j most ⟨_, he⟩ => he.limit j most
  drop := fun j ⟨_, he⟩ => he.drop j

end Pipe

namespace Scenario

open Pipe

/-! ## Receiving -/

/-- A receive call on a live handle. -/
theorem attempt_receive {p : Pipe} {h : Nat} (hlive : p.IsLive h) (size : Nat) :
    (PipeStep.receive size).attempt h p = (PipeStep.receive size).proceed h p := by
  have hany := isLive_iff_any.1 hlive
  simp [PipeStep.attempt, hany]

/-- A receive call that has an answer was made on a live handle. -/
theorem receive_of_attempt {p q : Pipe} {h size : Nat} {data : Bytes}
    (hattempt : (PipeStep.receive size).attempt h p = .finished (.received data) q) :
    p.IsLive h ∧ (p.listen h).receive h size = some (.ok data, q) := by
  by_cases hlive : p.IsLive h
  · refine ⟨hlive, ?_⟩
    rw [attempt_receive hlive, PipeStep.proceed] at hattempt
    cases hr : (p.listen h).receive h size with
    | none => simp [hr] at hattempt
    | some result =>
      obtain ⟨answer, p'⟩ := result
      cases answer with
      | error fault => simp [hr] at hattempt
      | ok bytes =>
        simp only [hr, PipeProgress.finished.injEq, PipeReply.received.injEq] at hattempt
        rw [hattempt.1, hattempt.2]
  · have hnot : (p.handles[h]?).any (·.isLive) = false := by
      simpa [isLive_iff_any] using hlive
    simp [PipeStep.attempt, hnot] at hattempt

/-- Nothing was received only because the stream has ended. -/
theorem hasEnded_of_received_nil {p q : Pipe} {h size : Nat} (hp : p.Sound) (hsize : 0 < size)
    (hattempt : (PipeStep.receive size).attempt h p = .finished (.received []) q) :
    p.HasEnded h := by
  obtain ⟨⟨handle, hget, hlive⟩, hreceive⟩ := receive_of_attempt hattempt
  have hget' : (p.listen h).handles[h]? = some { handle with listening := true } := by
    simp [getElem?_listen hget]
  obtain ⟨hne, ha, -⟩ | ⟨-, chunk, rest, hlane, ha, -⟩ | ⟨hpending, hlane, hover, -, -⟩ :=
    receive_cases hget' hsize hreceive
  · -- what was at hand cannot have been cut to nothing
    simp only [Except.ok.injEq, List.nil_eq, List.take_eq_nil_iff] at ha
    rcases ha with ha | ha
    · omega
    · exact absurd ha hne
  · simp only [Except.ok.injEq, List.nil_eq, List.take_eq_nil_iff] at ha
    rcases ha with ha | ha
    · omega
    · refine absurd ha (hp.chunk_ne handle.side chunk ?_)
      rw [lane_listen] at hlane
      rw [hlane]
      exact List.mem_cons_self
  · exact ⟨handle, hget, hpending, by simpa using hlane, by simpa using hover⟩

/-- Once the stream has ended, every receive call says so. -/
theorem received_nil_of_hasEnded {p : Pipe} {h size : Nat} (hsize : 0 < size) (he : p.HasEnded h)
    (hlive : p.IsLive h) :
    ∃ q, (PipeStep.receive size).attempt h p = .finished (.received []) q := by
  obtain ⟨handle, hget, hpending, hlane, hover⟩ := he
  have hget' : (p.listen h).handles[h]? = some { handle with listening := true } := by
    simp [getElem?_listen hget]
  have hreceive := receive_of_ended hget' hsize hpending (by simpa using hlane)
    (by simpa using hover)
  exact ⟨_, by rw [attempt_receive hlive, PipeStep.proceed, hreceive]⟩

theorem length_le_of_received {p q : Pipe} {h size : Nat} {data : Bytes}
    (hattempt : (PipeStep.receive size).attempt h p = .finished (.received data) q) :
    data.length ≤ size := by
  obtain ⟨-, hreceive⟩ := receive_of_attempt hattempt
  exact length_le_of_receive hreceive

/-! ## Shutting down -/

/-- Among some steps is a shutdown on a handle that was there to make it. -/
def WasShutDown (p : Pipe) (steps : List (Nat × PipeStep)) : Prop :=
  ∃ before h after, steps = before ++ (h, PipeStep.shutdown) :: after ∧
    (attempts p before).IsLive h

theorem wasShutDown_cons {p : Pipe} {h : Nat} {step : PipeStep} {rest : List (Nat × PipeStep)} :
    WasShutDown p ((h, step) :: rest) ↔
      (step = .shutdown ∧ p.IsLive h) ∨ WasShutDown (step.attempt h p).pipe rest := by
  constructor
  · rintro ⟨before, k, after, heq, hlive⟩
    cases before with
    | nil =>
      simp only [List.nil_append, List.cons.injEq, Prod.mk.injEq] at heq
      obtain ⟨⟨rfl, rfl⟩, rfl⟩ := heq
      exact .inl ⟨rfl, hlive⟩
    | cons x before =>
      simp only [List.cons_append, List.cons.injEq] at heq
      obtain ⟨rfl, rfl⟩ := heq
      exact .inr ⟨before, k, after, rfl, hlive⟩
  · rintro (⟨rfl, hlive⟩ | ⟨before, k, after, rfl, hlive⟩)
    · exact ⟨[], h, rest, rfl, hlive⟩
    · exact ⟨(h, step) :: before, k, after, rfl, hlive⟩

/-- Of all steps only a shutdown closes a pipe. -/
theorem isClosed_attempt {p : Pipe} {h : Nat} {step : PipeStep} :
    (step.attempt h p).pipe.isClosed = true ↔
      p.isClosed = true ∨ (step = .shutdown ∧ p.IsLive h) := by
  unfold PipeStep.attempt
  split
  · next hcond =>
    cases step with
    | send data =>
      cases hs : p.send h data with
      | none => simp [PipeStep.proceed, hs, PipeProgress.pipe]
      | some result =>
        obtain ⟨answer, p'⟩ := result
        have hclosed := (send_keeps hs).1
        cases answer <;> simp [PipeStep.proceed, hs, PipeProgress.pipe, hclosed]
    | sendAll d =>
      have hclosed : (Medium.sendAll h (d.data.length + 1) p d).after.isClosed = p.isClosed :=
        Medium.sendAll_keeps (P := fun q : Pipe => q.isClosed = p.isClosed)
          (fun hw hs => (send_keeps hs).1.trans hw) (d.data.length + 1) p d rfl
      cases hs : Medium.sendAll h (d.data.length + 1) p d with
      | ended result p' =>
        rw [hs, Medium.Sending.after] at hclosed
        cases result <;> simp [PipeStep.proceed, hs, PipeProgress.pipe, hclosed]
      | blocked left p' =>
        rw [hs, Medium.Sending.after] at hclosed
        simp [PipeStep.proceed, hs, PipeProgress.pipe, hclosed]
    | receive size =>
      cases hr : (p.listen h).receive h size with
      | none => simp [PipeStep.proceed, hr, PipeProgress.pipe]
      | some result =>
        obtain ⟨answer, p'⟩ := result
        have hclosed := (receive_keeps hr).1
        cases answer <;> simp [PipeStep.proceed, hr, PipeProgress.pipe, hclosed]
    | shutdown =>
      have hlive : p.IsLive h := by simpa [isLive_iff_any] using hcond
      simp [PipeStep.proceed, PipeProgress.pipe, hlive]
    | peer => simp [PipeStep.proceed, PipeProgress.pipe]
    | clone => simp [PipeStep.proceed, PipeProgress.pipe]
    | isClosed => simp [PipeStep.proceed, PipeProgress.pipe]
    | limit most => simp [PipeStep.proceed, PipeProgress.pipe]
    | drop => simp [PipeStep.proceed, PipeProgress.pipe]
  · next hcond =>
    have hlive : ¬p.IsLive h := by
      rw [isLive_iff_any]
      intro hany
      exact hcond (by simp [hany])
    simp [PipeProgress.pipe, hlive]

/-- A pipe is closed when, and only when, it was shut down. -/
theorem isClosed_attempts {p : Pipe} {steps : List (Nat × PipeStep)} :
    (attempts p steps).isClosed = true ↔ p.isClosed = true ∨ WasShutDown p steps := by
  induction steps generalizing p with
  | nil => simp [attempts, WasShutDown]
  | cons x rest ih =>
    obtain ⟨h, step⟩ := x
    rw [attempts, ih, isClosed_attempt, wasShutDown_cons, or_assoc]

/-- On a closed pipe a receive call returns at once. -/
theorem received_of_isClosed {p : Pipe} {h : Nat} (hclosed : p.isClosed = true)
    (hlive : p.IsLive h) (size : Nat) :
    ∃ data q, (PipeStep.receive size).attempt h p = .finished (.received data) q := by
  have hclosed' : (p.listen h).isClosed = true := by rw [listen_isClosed, hclosed]
  cases hr : (p.listen h).receive h size with
  | none => exact absurd hr (receive_of_isClosed hclosed' h size)
  | some result =>
    obtain ⟨answer, q⟩ := result
    obtain ⟨data, rfl⟩ := receive_ok hr
    exact ⟨data, q, by rw [attempt_receive hlive, PipeStep.proceed, hr]⟩

/-- Into a closed pipe nothing can be sent, not even nothing. -/
theorem sendFails_of_isClosed {p : Pipe} {h : Nat} (hclosed : p.isClosed = true)
    (hlive : p.IsLive h) (data : Bytes) :
    (PipeStep.send data).attempt h p = .finished (.failed broken) p := by
  have hsend : p.send h data = some (.error broken, p) := by
    obtain ⟨handle, hget, -⟩ := hlive
    simp [Pipe.send, hget, hclosed]
  have hany := isLive_iff_any.1 hlive
  simp [PipeStep.attempt, hany, PipeStep.proceed, hsend]

/-- **The end of a stream is true and final.** A receive call with room in its buffer brings
nothing only if nothing is at hand, nothing is on its way, and the pipe was shut down or its far
end is gone; from then on every receive call on that handle does the same, whatever else is done to
the pipe. No receive call brings more than its buffer holds. Once the pipe was shut down, from
either end, no call blocks any more and every send fails. -/
theorem endOfStream_final (capacity : Option Nat) (steps : List (Nat × PipeStep)) (h : Nat) :
    (∀ size q, 0 < size →
      (PipeStep.receive size).attempt h (attempts { capacity } steps)
        = .finished (.received []) q →
      (∃ handle, (attempts { capacity } steps).handles[h]? = some handle ∧
        handle.pending = [] ∧ (attempts { capacity } steps).lane handle.side = [] ∧
        (WasShutDown { capacity } steps ∨
          (attempts { capacity } steps).isHeld handle.side.other = false)) ∧
      ∀ later size', 0 < size' → (attempts q later).IsLive h →
        ∃ q', (PipeStep.receive size').attempt h (attempts q later)
          = .finished (.received []) q') ∧
    (∀ size data q, (PipeStep.receive size).attempt h (attempts { capacity } steps)
      = .finished (.received data) q → data.length ≤ size) ∧
    (WasShutDown { capacity } steps → (attempts { capacity } steps).IsLive h →
      (∀ size, ∃ data q, (PipeStep.receive size).attempt h (attempts { capacity } steps)
        = .finished (.received data) q) ∧
      ∀ data, ∃ fault q, (PipeStep.send data).attempt h (attempts { capacity } steps)
        = .finished (.failed fault) q ∧ fault.kind = .brokenPipe) := by
  have hclosed : (attempts { capacity } steps).isClosed = true ↔
      WasShutDown { capacity } steps := by
    simp [isClosed_attempts]
  refine ⟨?_, ?_, ?_⟩
  · intro size q hsize hattempt
    have hended := hasEnded_of_received_nil (sound_attempts capacity steps) hsize hattempt
    refine ⟨?_, ?_⟩
    · obtain ⟨handle, hget, hpending, hlane, hover⟩ := hended
      exact ⟨handle, hget, hpending, hlane, hover.imp_left hclosed.1⟩
    · intro later size' hsize' hlive
      have hq : q.HasEnded h := by
        have hafter := (preserved_hasEnded h).attempt h (.receive size) hended
        rwa [hattempt, PipeProgress.pipe] at hafter
      exact received_nil_of_hasEnded hsize' ((preserved_hasEnded h).attempts later hq) hlive
  · intro size data q hattempt
    exact length_le_of_received hattempt
  · intro hshut hlive
    refine ⟨received_of_isClosed (hclosed.2 hshut) hlive, fun data => ?_⟩
    exact ⟨broken, _, sendFails_of_isClosed (hclosed.2 hshut) hlive data, rfl⟩

/-- Two bytes are sent through a pipe that holds one chunk, it is shut down, and the far end takes
them one at a time: the third call finds the end, and so does a later one after more was tried. -/
theorem endOfStream_final_after_two :
    ∃ q, (PipeStep.receive 3).attempt 1 (attempts { capacity := some 1 }
        [(0, .send [0x68, 0x69]), (0, .shutdown), (1, .receive 1), (1, .receive 1)])
          = .finished (.received []) q ∧
      ∃ q', (PipeStep.receive 9).attempt 1 (attempts q [(0, .clone), (2, .send [0x68]), (0, .drop)])
          = .finished (.received []) q' :=
  ⟨_, rfl, ((endOfStream_final (some 1)
    [(0, .send [0x68, 0x69]), (0, .shutdown), (1, .receive 1), (1, .receive 1)] 1).1 3 _
      (by decide) rfl).2 [(0, .clone), (2, .send [0x68]), (0, .drop)] 9 (by decide) ⟨_, rfl, rfl⟩⟩

end Scenario

end TextRelay
