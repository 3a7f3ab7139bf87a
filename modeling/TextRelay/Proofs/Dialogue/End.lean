import TextRelay.Proofs.Dialogue.Basic
import TextRelay.Proofs.Session.Coordination

/-!
# A session on its end of a pipe

`Session.OnEnd` is what holds of a session on its end at every moment. Its inbound relay is the
only reader there, so what it has not read yet is one text. The relay leaves at the end of the
stream only, and that comes when the pipe is closed and this text is empty. A session never lets go
of its last handle before the pipe is closed, so that the other session is never told of an end of
stream while bytes may still come.

A move of a session is described from both ends (`Session.StepEffect`): at its own end it takes off
the front of the unread text what it is given, and at the far end it adds to the back what it sends.
-/

namespace TextRelay

open Pipe

/-- An inbound relay that has seen the end of its stream only if the stream is drained, and that has
seen no fault. -/
def Inbound.EndsOnlyIf (r : Inbound) (drained : Prop) : Prop :=
  match r.phase with
  | .receiving => True
  | .handling (.ok chunk) => chunk = [] → drained
  | .handling (.error _) => False
  | .leaving _ | .gone _ => drained

theorem Inbound.EndsOnlyIf.of_exit {r : Inbound} {drained : Prop} (hr : r.EndsOnlyIf drained)
    {exit : Exit} (hexit : r.exit? = some exit) : drained := by
  unfold EndsOnlyIf at hr
  unfold Inbound.exit? at hexit
  split at hexit <;> simp_all

theorem Inbound.EndsOnlyIf.mono {r : Inbound} {drained drained' : Prop} (hr : r.EndsOnlyIf drained)
    (himp : drained → drained') : r.EndsOnlyIf drained' := by
  unfold EndsOnlyIf at hr ⊢
  cases hphase : r.phase with
  | receiving => trivial
  | handling receipt =>
    rw [hphase] at hr
    cases receipt with
    | ok chunk => exact fun hchunk => himp (hr hchunk)
    | error fault => exact hr
  | leaving exit | gone exit =>
    rw [hphase] at hr
    exact himp hr

namespace Session

/-- A session on its end of a pipe. -/
structure OnEnd (p : Pipe) (side : Side) (s : Session) : Prop where
  reads : p.Reader side s.reader
  reader : p.Holds side s.reader ∨ ∃ exit, s.inbound.phase = .gone exit
  writer : p.Owns side s.writer
  closer : p.Owns side s.closer
  present : p.Holds side s.closer ∨ p.isClosed = true
  writer_ne : s.writer ≠ s.reader
  closer_ne : s.closer ≠ s.reader
  writer_ne_closer : s.writer ≠ s.closer
  closed : s.isReleased = true ∨ s.coordinator.isOver = true → p.isClosed = true
  buffer : 0 < s.inbound.bufferSize
  inbound : s.inbound.EndsOnlyIf (p.isClosed = true ∧ p.unread side s.reader = [])

/-- The session keeps its handles, and is past the shutdown only if the pipe is closed. -/
structure KeepsHandles (p : Pipe) (s s' : Session) : Prop where
  reader : s'.reader = s.reader
  writer : s'.writer = s.writer
  closer : s'.closer = s.closer
  closed : s'.isReleased = true ∨ s'.coordinator.isOver = true → p.isClosed = true

/-- What a session has done to a pipe, seen from both ends: at its own it was given some bytes, and
at the far end it left some. Where it was given nothing or left nothing, all there is as it was. -/
structure StepEffect (side : Side) (sent got : Bytes) (p : Pipe) (s : Session) (p' : Pipe)
    (s' : Session) : Prop where
  sound : p'.Sound
  onEnd : s'.OnEnd p' side
  reader : s'.reader = s.reader
  writer : s'.writer = s.writer
  flow : got ++ p'.unread side s.reader = p.unread side s.reader
  same : got = [] → SameStream side s.reader p p'
  far : Appended side.other sent p p'
  frame : sent = [] → Untouched side.other p p'
  sameHandles : SameHandles p p'
  capacity : p'.capacity = p.capacity
  sink : s'.inbound.sink.verdict = s.inbound.sink.verdict

variable {p p' p'' : Pipe} {side : Side} {s s' s'' : Session}

theorem StepEffect.trans {sent got : Bytes} (h₁ : StepEffect side sent got p s p' s')
    (h₂ : StepEffect side [] [] p' s' p'' s'') : StepEffect side sent got p s p'' s'' where
  sound := h₂.sound
  onEnd := h₂.onEnd
  reader := h₂.reader.trans h₁.reader
  writer := h₂.writer.trans h₁.writer
  flow := by
    have hflow := h₂.flow
    rw [h₁.reader, List.nil_append] at hflow
    rw [hflow, h₁.flow]
  same hnone := (h₁.same hnone).trans (h₁.reader ▸ h₂.same rfl)
  far := by
    have hfar := h₁.far.trans h₂.far
    rwa [List.append_nil] at hfar
  frame hnone := (h₁.frame hnone).trans (h₂.frame rfl)
  sameHandles := h₁.sameHandles.trans h₂.sameHandles
  capacity := h₂.capacity.trans h₁.capacity
  sink := h₂.sink.trans h₁.sink

namespace OnEnd

/-- Once its inbound relay is done, a session's end of the pipe is drained. -/
theorem drained (hs : s.OnEnd p side) {exit : Exit} (hexit : s.inbound.exit? = some exit) :
    p.isClosed = true ∧ p.unread side s.reader = [] :=
  hs.inbound.of_exit hexit

/-- The far end's doings: bytes may come as long as the pipe is open. -/
theorem appended (hs : s.OnEnd p side) {data : Bytes} (hf : Appended side data p p') :
    s.OnEnd p' side where
  reads := hf.reader hs.reads
  reader := hs.reader.imp_left hf.holds
  writer := hf.owns hs.writer
  closer := hf.owns hs.closer
  present := hs.present.imp hf.holds fun hc => (hf.closed hc).1
  writer_ne := hs.writer_ne
  closer_ne := hs.closer_ne
  writer_ne_closer := hs.writer_ne_closer
  closed h := (hf.closed (hs.closed h)).1
  buffer := hs.buffer
  inbound := hs.inbound.mono fun ⟨hc, hu⟩ => by
    obtain ⟨hc', rfl⟩ := hf.closed hc
    exact ⟨hc', by rw [hf.unread hs.reads, hu]; rfl⟩

/-! ## What a session does to itself -/

/-- The inbound relay goes on, and the pipe stays as it is. -/
theorem change (hs : s.OnEnd p side) (hp : p.Sound) (hstays : KeepsHandles p s s')
    (hgone : ∀ exit, s.inbound.phase = .gone exit → s'.inbound = s.inbound)
    (hbuffer : 0 < s'.inbound.bufferSize)
    (hsink : s'.inbound.sink.verdict = s.inbound.sink.verdict)
    (hinbound : s'.inbound.EndsOnlyIf (p.isClosed = true ∧ p.unread side s.reader = [])) :
    StepEffect side [] [] p s p s' where
  sound := hp
  onEnd := {
    reads := hstays.reader ▸ hs.reads
    reader := by
      rw [hstays.reader]
      rcases hs.reader with hlive | ⟨exit, hexit⟩
      · exact .inl hlive
      · exact .inr ⟨exit, by rw [hgone exit hexit, hexit]⟩
    writer := hstays.writer ▸ hs.writer
    closer := hstays.closer ▸ hs.closer
    present := hstays.closer ▸ hs.present
    writer_ne := by rw [hstays.writer, hstays.reader]; exact hs.writer_ne
    closer_ne := by rw [hstays.closer, hstays.reader]; exact hs.closer_ne
    writer_ne_closer := by rw [hstays.writer, hstays.closer]; exact hs.writer_ne_closer
    closed := hstays.closed
    buffer := hbuffer
    inbound := by rw [hstays.reader]; exact hinbound }
  reader := hstays.reader
  writer := hstays.writer
  flow := rfl
  same _ := ⟨rfl, rfl⟩
  far := (Untouched.refl side.other p).appended
  frame _ := Untouched.refl side.other p
  sameHandles := (Keeps.of_handles rfl : Keeps none p p).sameHandles
  capacity := rfl
  sink := hsink

/-- The inbound relay and the pipe stay as they are. -/
theorem still (hs : s.OnEnd p side) (hp : p.Sound) (hstays : KeepsHandles p s s')
    (hinbound : s'.inbound = s.inbound) : StepEffect side [] [] p s p s' := by
  refine hs.change hp hstays (fun _ _ => hinbound) ?_ ?_ ?_
  · exact hinbound ▸ hs.buffer
  · rw [hinbound]
  · exact hinbound ▸ hs.inbound

/-! ## What a session does to the pipe -/

theorem close (hs : s.OnEnd p side) (hp : p.Sound) : StepEffect side [] [] p s p.close s where
  sound := hp.close
  onEnd := hs.appended Untouched.close.appended
  reader := rfl
  writer := rfl
  flow := (Untouched.close.sameStream hs.reads).unread
  same _ := Untouched.close.sameStream hs.reads
  far := Untouched.close.appended
  frame _ := Untouched.close
  sameHandles := (Keeps.of_handles rfl : Keeps none p p.close).sameHandles
  capacity := rfl
  sink := rfl

theorem send (hs : s.OnEnd p side) (hp : p.Sound) {data : Bytes} {answer : Except Fault Nat}
    (hsend : p.send s.writer data = some (answer, p')) :
    StepEffect side (taken data answer) [] p s p' s := by
  obtain ⟨handle, hget, hside⟩ := hs.writer
  have hown : Untouched side p p' := Untouched.send hget hside hsend
  have hwriter : p.Owns side.other.other s.writer := by
    rw [Side.other_other]
    exact hs.writer
  exact {
    sound := hp.send hsend
    onEnd := hs.appended hown.appended
    reader := rfl
    writer := rfl
    flow := (hown.sameStream hs.reads).unread
    same := fun _ => hown.sameStream hs.reads
    far := Appended.send hp hwriter hsend
    frame := fun hnone => send_eq_of_taken_nil hp hsend hnone ▸ Untouched.refl side.other p'
    sameHandles := (Keeps.send hsend).sameHandles
    capacity := (send_keeps hsend).2
    sink := rfl }

theorem listen (hs : s.OnEnd p side) (hp : p.Sound) :
    StepEffect side [] [] p s (p.listen s.reader) s := by
  have hkeeps : Keeps none p (p.listen s.reader) := Keeps.listen p s.reader
  have hsame := hs.reads.sameStream_listen
  obtain ⟨handle, hget, hside⟩ := hs.reads.own
  have hfar : Untouched side.other p (p.listen s.reader) :=
    Untouched.listen hget (by rw [Side.other_other, hside])
  exact {
    sound := hp.listen s.reader
    onEnd := {
      hs with
      reads := hs.reads.listen
      reader := hs.reader.imp_left fun hlive => hkeeps.holds hlive (by simp)
      writer := hkeeps.owns hs.writer
      closer := hkeeps.owns hs.closer
      present := by
        rw [listen_isClosed]
        exact hs.present.imp_left fun hlive => hkeeps.holds hlive (by simp)
      closed := by simpa using hs.closed
      inbound := by
        rw [hsame.unread, listen_isClosed]
        exact hs.inbound }
    reader := rfl
    writer := rfl
    flow := hsame.unread
    same := fun _ => hsame
    far := hfar.appended
    frame := fun _ => hfar
    sameHandles := hkeeps.sameHandles
    capacity := listen_capacity p s.reader
    sink := rfl }

/-- A receive call that returns with nothing has found the pipe closed and drained, if the far end
is still there. -/
theorem receive (hs : s.OnEnd p side) (hp : p.Sound) (hphase : s.inbound.phase = .receiving)
    {receipt : Except Fault Bytes}
    (hreceive : p.receive s.reader s.inbound.bufferSize = some (receipt, p')) :
    ∃ data, receipt = .ok data ∧ StepEffect side [] data p s p' s ∧
      (data = [] → p.unread side s.reader = [] ∧ SameStream side s.reader p p' ∧
        (p.isClosed = true ∨ p.isHeld side.other = false)) := by
  obtain ⟨data, rfl⟩ := receive_ok hreceive
  obtain ⟨hreads, hflow, hend⟩ := hs.reads.receive hp hs.buffer hreceive
  have hkeeps : Keeps none p p' := Keeps.receive hs.reads.own hs.buffer hreceive
  have hclosed := (receive_keeps hreceive).1
  obtain ⟨handle, hget, hside⟩ := hs.reads.own
  have hfar : Untouched side.other p p' :=
    Untouched.receive hget (by rw [Side.other_other, hside]) hs.buffer hreceive
  refine ⟨data, rfl, ?_, hend⟩
  exact {
    sound := hp.receive hreceive
    onEnd := {
      hs with
      reads := hreads
      reader := hs.reader.imp_left fun hlive => hkeeps.holds hlive (by simp)
      writer := hkeeps.owns hs.writer
      closer := hkeeps.owns hs.closer
      present := by
        rw [hclosed]
        exact hs.present.imp_left fun hlive => hkeeps.holds hlive (by simp)
      closed := by
        rw [hclosed]
        exact hs.closed
      inbound := by
        unfold Inbound.EndsOnlyIf
        rw [hphase]
        trivial }
    reader := rfl
    writer := rfl
    flow := hflow
    same := fun hnone => (hend hnone).2.1
    far := hfar.appended
    frame := fun _ => hfar
    sameHandles := hkeeps.sameHandles
    capacity := (receive_keeps hreceive).2
    sink := rfl }

/-- A handle is given up that nothing depends on any more. -/
theorem drop (hs : s.OnEnd p side) (hp : p.Sound) {k : Nat} (hown : p.Owns side k)
    (hreader : k ≠ s.reader ∨ ∃ exit, s.inbound.phase = .gone exit)
    (hcloser : k ≠ s.closer ∨ p.isClosed = true) : StepEffect side [] [] p s (p.drop k) s := by
  have hkeeps : Keeps (some k) p (p.drop k) := Keeps.drop p k
  have hsame : SameStream side s.reader p (p.drop k) := by
    refine Reader.sameStream_drop hp ?_
    rcases hs.reader with hlive | ⟨exit, hexit⟩
    · rcases hreader with hne | ⟨exit, hexit⟩
      · exact .inl ⟨hne, hlive⟩
      · exact .inr (hs.drained (Inbound.exit?_of_gone hexit)).2
    · exact .inr (hs.drained (Inbound.exit?_of_gone hexit)).2
  obtain ⟨handle, hget, hside⟩ := hown
  have hfar : Untouched side.other p (p.drop k) :=
    Untouched.drop hget (by rw [Side.other_other, hside])
  exact {
    sound := hp.drop k
    onEnd := {
      hs with
      reads := hs.reads.drop k
      reader := by
        rcases hs.reader with hlive | hgone
        · rcases hreader with hne | hgone
          · exact .inl (hkeeps.holds hlive (by simpa using hne))
          · exact .inr hgone
        · exact .inr hgone
      writer := hkeeps.owns hs.writer
      closer := hkeeps.owns hs.closer
      present := by
        rw [drop_isClosed]
        rcases hs.present with hlive | hclosed
        · rcases hcloser with hne | hclosed
          · exact .inl (hkeeps.holds hlive (by simpa using hne))
          · exact .inr hclosed
        · exact .inr hclosed
      closed := by simpa using hs.closed
      inbound := by
        rw [hsame.unread, drop_isClosed]
        exact hs.inbound }
    reader := rfl
    writer := rfl
    flow := hsame.unread
    same := fun _ => hsame
    far := hfar.appended
    frame := fun _ => hfar
    sameHandles := hkeeps.sameHandles
    capacity := drop_capacity p k
    sink := rfl }

/-! ## Steps -/

/-- The bytes that are given to a session in a receive step are those that the call returns. -/
theorem receiveStep (hs : s.OnEnd p side) (hp : p.Sound)
    (hpeer : p.isClosed = true ∨ p.isHeld side.other = true)
    (h : s.receive p = some (s', p')) :
    StepEffect side [] (s.receives p (.act .receive)) p s p' s' := by
  obtain ⟨receipt, hphase, hreceive, rfl⟩ := of_receive h
  obtain ⟨data, rfl, heffect, hend⟩ := hs.receive hp hphase hreceive
  have hgot : s.receives p (.act .receive) = data := by
    have hcall : p.receive s.reader s.inbound.bufferSize = some (.ok data, p') := hreceive
    simp [receives, hcall]
  rw [hgot]
  refine heffect.trans (heffect.onEnd.change heffect.sound ⟨rfl, rfl, rfl, heffect.onEnd.closed⟩
    ?_ hs.buffer rfl ?_)
  · intro exit hexit
    rw [hphase] at hexit
    cases hexit
  · -- An empty chunk is the end of the stream: the far end is there, so the pipe is closed.
    intro hnil
    subst hnil
    obtain ⟨hunread, -, hover⟩ := hend rfl
    have hclosed : p.isClosed = true := by
      rcases hpeer with hclosed | hheld
      · exact hclosed
      · rcases hover with hclosed | hnone
        · exact hclosed
        · rw [hheld] at hnone
          cases hnone
    refine ⟨(receive_keeps hreceive).1.trans hclosed, ?_⟩
    have hflow := heffect.flow
    rw [List.nil_append, hunread] at hflow
    exact hflow

theorem handleStep (hs : s.OnEnd p side) (hp : p.Sound)
    (hsink : ∀ chunk, s.inbound.phase = .handling (.ok chunk) → chunk ≠ [] →
      s.inbound.sink.NeverBreaks)
    (h : s.handle p = some (s', p')) :
    StepEffect side [] [] p s p' s' := by
  obtain ⟨receipt, log, hphase, rfl, hnext⟩ := of_handle h
  have hendsOnlyIf := hs.inbound
  simp only [Inbound.EndsOnlyIf, hphase] at hendsOnlyIf
  have hgone : ∀ exit, s.inbound.phase = .gone exit →
      (s.inbound.handle s.signal.tripped).1 = s.inbound := by
    intro exit hexit
    rw [hphase] at hexit
    cases hexit
  cases receipt with
  | error fault => exact hendsOnlyIf.elim
  | ok chunk =>
    by_cases hchunk : chunk = []
    · subst hchunk
      rw [Inbound.handle_end hphase] at hgone hnext ⊢
      obtain ⟨hback, -⟩ | ⟨-, rfl⟩ := hnext
      · cases hback
      · exact hs.change hp ⟨rfl, rfl, rfl, hs.closed⟩ hgone hs.buffer rfl (hendsOnlyIf rfl)
    · rw [Inbound.handle_chunk (hsink chunk hphase hchunk) hphase hchunk] at hgone hnext ⊢
      have hshown : StepEffect side [] [] p s p { s with
          inbound := { s.inbound with
            bytes := s.inbound.bytes + chunk.length
            sink := (s.inbound.sink.display (Chunk.shown chunk)).2
            phase := .receiving }
          log := log } :=
        hs.change hp ⟨rfl, rfl, rfl, hs.closed⟩ hgone hs.buffer (Sink.display_verdict _ _) trivial
      obtain ⟨-, rfl⟩ | ⟨hback, -⟩ := hnext
      · exact hshown.trans (hshown.onEnd.listen hp)
      · exact absurd rfl hback

theorem reportInboundStep (hs : s.OnEnd p side) (hp : p.Sound)
    (h : s.reportInbound p = some (s', p')) : StepEffect side [] [] p s p' s' := by
  obtain ⟨exit, hphase, rfl, rfl⟩ := of_reportInbound h
  have hdrained := hs.drained (Inbound.exit?_of_leaving hphase)
  have hgone : StepEffect side [] [] p s p { s with
      inbound := { s.inbound with phase := .gone exit }
      signal := s.signal.report s.inboundReporter exit } := by
    refine hs.change hp ⟨rfl, rfl, rfl, hs.closed⟩ ?_ hs.buffer rfl hdrained
    intro exit' hexit
    rw [hphase] at hexit
    cases hexit
  refine hgone.trans (hgone.onEnd.drop hp hs.reads.own (.inr ⟨exit, rfl⟩) (.inl ?_))
  exact fun heq => hs.closer_ne heq.symm

theorem sendStep (hs : s.OnEnd p side) (hp : p.Sound) (h : s.send p = some (s', p')) :
    StepEffect side (s.sends p (.act .send)) [] p s p' s' := by
  obtain ⟨data, answer, log, hoffer, hsend, rfl⟩ := of_send h
  have hsent : s.sends p (.act .send) = taken data answer := by
    have hcall : p.send s.writer data = some (answer, p') := hsend
    simp [sends, hoffer, hcall]
  rw [hsent]
  have heffect := hs.send hp hsend
  exact heffect.trans (heffect.onEnd.still heffect.sound
    ⟨rfl, rfl, rfl, heffect.onEnd.closed⟩ rfl)

theorem reportOutboundStep (hs : s.OnEnd p side) (hp : p.Sound)
    (h : s.reportOutbound p = some (s', p')) : StepEffect side [] [] p s p' s' := by
  obtain ⟨exit, -, rfl, rfl⟩ := of_reportOutbound h
  have heffect := hs.drop hp hs.writer (.inl hs.writer_ne) (.inl hs.writer_ne_closer)
  exact heffect.trans (heffect.onEnd.still heffect.sound
    ⟨rfl, rfl, rfl, heffect.onEnd.closed⟩ rfl)

theorem shutDown (hs : s.OnEnd p side) (hp : p.Sound) :
    StepEffect side [] [] p s (s.shutDown p) s ∧ (s.shutDown p).isClosed = true := by
  unfold Session.shutDown
  split
  · next hreleased =>
    exact ⟨hs.still hp ⟨rfl, rfl, rfl, hs.closed⟩ rfl, hs.closed (.inl hreleased)⟩
  · exact ⟨hs.close hp, rfl⟩

/-- The coordinator shuts the pipe down and gives its handle up. -/
theorem shutDown_drop (hs : s.OnEnd p side) (hp : p.Sound) :
    StepEffect side [] [] p s ((s.shutDown p).drop s.closer) s ∧
      ((s.shutDown p).drop s.closer).isClosed = true := by
  obtain ⟨hshut, hclosed⟩ := hs.shutDown hp
  refine ⟨hshut.trans ?_, by rw [drop_isClosed, hclosed]⟩
  exact hshut.onEnd.drop hshut.sound hshut.onEnd.closer (.inl hs.closer_ne) (.inr hclosed)

theorem releaseStep (hs : s.OnEnd p side) (hp : p.Sound) (h : s.release p = some (s', p')) :
    StepEffect side [] [] p s p' s' := by
  obtain ⟨after, log, -, ⟨-, rfl, rfl⟩ | ⟨-, rfl, rfl⟩⟩ := of_release h
  · obtain ⟨hshut, hclosed⟩ := hs.shutDown hp
    exact hshut.trans (hshut.onEnd.still hshut.sound ⟨rfl, rfl, rfl, fun _ => hclosed⟩ rfl)
  · obtain ⟨hshut, hclosed⟩ := hs.shutDown_drop hp
    exact hshut.trans (hshut.onEnd.still hshut.sound ⟨rfl, rfl, rfl, fun _ => hclosed⟩ rfl)

theorem joinStep (hs : s.OnEnd p side) (hp : p.Sound) (h : s.join p = some (s', p')) :
    StepEffect side [] [] p s p' s' := by
  obtain ⟨initiator, inbound, outbound, log, -, -, -, rfl, rfl⟩ := of_join h
  obtain ⟨hshut, hclosed⟩ := hs.shutDown_drop hp
  exact hshut.trans (hshut.onEnd.still hshut.sound ⟨rfl, rfl, rfl, fun _ => hclosed⟩ rfl)

/-- The owner's calls and the coordinator's first steps come before the shutdown. -/
theorem coordinate (hs : s.OnEnd p side) (hp : p.Sound) (hstays : s'.reader = s.reader ∧
    s'.writer = s.writer ∧ s'.closer = s.closer ∧ s'.isReleased = s.isReleased)
    (hinbound : s'.inbound = s.inbound) (hnot : s'.coordinator.isOver = false) :
    StepEffect side [] [] p s p s' := by
  obtain ⟨hreader, hwriter, hcloser, hreleased⟩ := hstays
  refine hs.still hp ⟨hreader, hwriter, hcloser, ?_⟩ hinbound
  rintro (hr | hover)
  · exact hs.closed (.inl (hreleased ▸ hr))
  · exact absurd (hover.symm.trans hnot) Bool.noConfusion

/-- **Every move of a session takes from its own end's unread text what it is given, and adds to the
far end's what it sends.** -/
theorem move (hs : s.OnEnd p side) (hp : p.Sound)
    (hpeer : p.isClosed = true ∨ p.isHeld side.other = true)
    (hsink : ∀ chunk, s.inbound.phase = .handling (.ok chunk) → chunk ≠ [] →
      s.inbound.sink.NeverBreaks) {m : Dialogue.Move}
    (h : s.move p m = some (s', p')) :
    StepEffect side (s.sends p m) (s.receives p m) p s p' s' := by
  -- Steps that do not touch the pipe.
  have hlocal : ∀ {step : Option Session}, step.map (·, p) = some (s', p') →
      (step = some s' → StepEffect side [] [] p s p s') → StepEffect side [] [] p s p' s' := by
    intro step hstep heffect
    obtain ⟨hnext, rfl⟩ := of_map hstep
    exact heffect hnext
  cases m with
  | start => cases h
  | close =>
    refine hlocal h fun hcall => ?_
    obtain ⟨-, rfl⟩ := of_callClose hcall
    exact hs.coordinate hp ⟨rfl, rfl, rfl, rfl⟩ rfl rfl
  | wait =>
    refine hlocal h fun hcall => ?_
    obtain ⟨-, rfl⟩ := of_callWait hcall
    exact hs.coordinate hp ⟨rfl, rfl, rfl, rfl⟩ rfl rfl
  | drop =>
    refine hlocal h fun hcall => ?_
    obtain ⟨-, rfl⟩ := of_callDrop hcall
    exact hs.coordinate hp ⟨rfl, rfl, rfl, rfl⟩ rfl rfl
  | act action =>
    cases action with
    | readInput =>
      refine hlocal h fun hstep => ?_
      obtain ⟨pump, -, rfl⟩ := of_readInput hstep
      exact hs.still hp ⟨rfl, rfl, rfl, hs.closed⟩ rfl
    | dropInput =>
      refine hlocal h fun hstep => ?_
      obtain ⟨exit, pump, -, -, rfl⟩ := of_dropInput hstep
      exact hs.still hp ⟨rfl, rfl, rfl, hs.closed⟩ rfl
    | receive => exact hs.receiveStep hp hpeer h
    | handle => exact hs.handleStep hp hsink h
    | reportInbound => exact hs.reportInboundStep hp h
    | takeInput =>
      refine hlocal h fun hstep => ?_
      obtain ⟨event, pump, log, -, -, rfl⟩ := of_takeInput hstep
      exact hs.still hp ⟨rfl, rfl, rfl, hs.closed⟩ rfl
    | cancelInput =>
      refine hlocal h fun hstep => ?_
      obtain ⟨log, -, -, rfl⟩ := of_cancelInput hstep
      exact hs.still hp ⟨rfl, rfl, rfl, hs.closed⟩ rfl
    | checkSignal =>
      refine hlocal h fun hstep => ?_
      obtain ⟨line, log, -, rfl⟩ := of_checkSignal hstep
      exact hs.still hp ⟨rfl, rfl, rfl, hs.closed⟩ rfl
    | send => exact hs.sendStep hp h
    | judgeFault =>
      refine hlocal h fun hstep => ?_
      obtain ⟨fault, log, -, rfl⟩ := of_judgeFault hstep
      exact hs.still hp ⟨rfl, rfl, rfl, hs.closed⟩ rfl
    | reportOutbound => exact hs.reportOutboundStep hp h
    | takeFirst =>
      refine hlocal h fun hstep => ?_
      obtain ⟨exit, signal, log, -, -, rfl⟩ := of_takeFirst hstep
      exact hs.coordinate hp ⟨rfl, rfl, rfl, rfl⟩ rfl rfl
    | trip =>
      refine hlocal h fun hstep => ?_
      obtain ⟨after, -, rfl⟩ := of_trip hstep
      exact hs.coordinate hp ⟨rfl, rfl, rfl, rfl⟩ rfl rfl
    | release => exact hs.releaseStep hp h
    | join => exact hs.joinStep hp h

end OnEnd

/-- A pipe is closed by nothing but the release of a coordinator. -/
theorem OnEnd.of_isClosed_step (hs : s.OnEnd p side) {action : Action}
    (h : s.step p action = some (s', p')) (hclosed : p'.isClosed = true) :
    p.isClosed = true ∨ s'.isReleased = true ∧ ∃ after, s.coordinator = .releasing after := by
  cases action with
  | receive =>
    obtain ⟨receipt, -, hreceive, -⟩ := of_receive h
    rw [(receive_keeps hreceive).1] at hclosed
    exact .inl hclosed
  | handle =>
    obtain ⟨receipt, log, -, -, ⟨-, rfl⟩ | ⟨-, rfl⟩⟩ := of_handle h
    · exact .inl ((listen_isClosed p s.reader).symm.trans hclosed)
    · exact .inl hclosed
  | reportInbound =>
    obtain ⟨exit, -, rfl, -⟩ := of_reportInbound h
    exact .inl ((drop_isClosed p s.reader).symm.trans hclosed)
  | send =>
    obtain ⟨data, result, log, -, hsend, -⟩ := of_send h
    rw [(send_keeps hsend).1] at hclosed
    exact .inl hclosed
  | reportOutbound =>
    obtain ⟨exit, -, rfl, -⟩ := of_reportOutbound h
    exact .inl ((drop_isClosed p s.writer).symm.trans hclosed)
  | release =>
    have hrelease : s.release p = some (s', p') := h
    obtain ⟨after, log, hafter, ⟨-, -, rfl⟩ | ⟨-, -, rfl⟩⟩ := of_release hrelease
    · exact .inr ⟨rfl, after, hafter⟩
    · exact .inr ⟨rfl, after, hafter⟩
  | join =>
    obtain ⟨initiator, inbound, outbound, log, hjoining, -⟩ := of_join h
    exact .inl (hs.closed (.inr (by rw [hjoining]; rfl)))
  | readInput | dropInput | takeInput | cancelInput | checkSignal | judgeFault | takeFirst
  | trip =>
    rw [(of_map h).2] at hclosed
    exact .inl hclosed

end Session

end TextRelay
