import TextRelay.Proofs.Dialogue.End

/-!
# No byte is lost between two sessions

However two sessions on the ends of a pipe run, and however they end, what an inbound relay has
received is the front of what the far end's sends had accepted, and all of it once the relay is
done.

At every moment the bytes received at an end, followed by those unread there, are the bytes accepted
at the far end (`Dialogue.Sound`). Each move of either session keeps this, whichever end it is made
at. When a relay is done nothing is unread, and since the pipe is closed nothing will be.
-/

namespace TextRelay

open Pipe

/-! ## Ends without a session -/

/-- A sink that never breaks down, and a chunk size for which there is a buffer. -/
structure Dialogue.EndSpec.IsReliable (spec : EndSpec) : Prop where
  sink : spec.sink.NeverBreaks
  buffer : spec.settings.chunkSize.toNat ≤ Inbound.maxBuffer

/-- An end of the pipe whose session is not started yet. -/
structure Pipe.Unstarted (p : Pipe) (side : Side) : Prop where
  present : p.Holds side side.stream
  quiet : p.Quiet side

theorem Pipe.Unstarted.appended {p p' : Pipe} {side : Side} {data : Bytes} (hv : p.Unstarted side)
    (hf : Appended side data p p') : p'.Unstarted side :=
  ⟨hf.holds hv.present, hf.quiet hv.quiet⟩

theorem Pipe.unstarted_initial (capacity : Option Nat) (limits : Side → Option Nat) (side : Side) :
    (initial capacity limits).Unstarted side := by
  rw [initial_eq]
  refine ⟨?_, ?_⟩
  · cases side
    · exact ⟨_, rfl, rfl, rfl⟩
    · exact ⟨_, rfl, rfl, rfl⟩
  · intro j handle hget _
    have hmem := List.mem_of_getElem? hget
    simp only [List.mem_cons, List.not_mem_nil, or_false] at hmem
    obtain rfl | rfl := hmem
    · exact ⟨rfl, rfl⟩
    · exact ⟨rfl, rfl⟩

theorem Pipe.sound_initial (capacity : Option Nat) (limits : Side → Option Nat) :
    (initial capacity limits).Sound := by
  have hlimit : ∀ {p : Pipe} (side : Side) (most : Option Nat), p.Sound →
      (p.limitEnd side most).Sound := by
    intro p side most hp
    cases most with
    | none => exact hp
    | some most => exact hp.limit _ _
  exact hlimit .b _ (hlimit .a _ (Sound.fresh capacity))

/-- What a clone does at an end that is vacant. -/
structure Pipe.Cloned (side : Side) (p : Pipe) (k : Nat) (p' : Pipe) : Prop where
  sound : p.Sound → p'.Sound
  unstarted : p'.Unstarted side
  holds : p'.Holds side k
  new : p.handles[k]? = none
  lane : p'.lane side = p.lane side
  keeps : Keeps none p p'
  frame : Untouched side.other p p'
  capacity : p'.capacity = p.capacity
  isClosed : p'.isClosed = p.isClosed
  limit : ∀ {stream : Handle}, p.handles[side.stream]? = some stream →
    ∃ handle, p'.handles[k]? = some handle ∧ handle.limit = stream.limit

theorem Pipe.Unstarted.clone {p p' : Pipe} {side : Side} {k : Nat} (hv : p.Unstarted side)
    (h : p.clone side.stream = (k, p')) : Cloned side p k p' := by
  obtain ⟨rfl, rfl⟩ : (p.clone side.stream).1 = k ∧ (p.clone side.stream).2 = p' := by simp [h]
  have hkeeps := Keeps.clone p side.stream
  obtain ⟨hholds, hnew⟩ := clone_holds hv.present.owns
  obtain ⟨handle, hget, hside, -⟩ := hv.present
  exact {
    sound := fun hp => hp.clone side.stream
    unstarted := ⟨hkeeps.holds hv.present (by simp), hv.quiet.clone _⟩
    holds := hholds
    new := hnew
    lane := lane_clone _ _ _
    keeps := hkeeps
    frame := Untouched.clone hget (by rw [Side.other_other, hside])
    capacity := clone_capacity _ _
    isClosed := clone_isClosed _ _
    limit := fun hstream => by
      simp only [Pipe.clone, hstream]
      exact ⟨_, List.getElem?_concat_length, rfl⟩ }

theorem Pipe.clone_eq_of_ok {p p' : Pipe} {h k : Nat} (hclone : Medium.clone p h = (.ok k, p')) :
    p.clone h = (k, p') := by
  cases hclone
  rfl

theorem Pipe.Holds.ne_of_new {p : Pipe} {side : Side} {h k : Nat} (hh : p.Holds side h)
    (hk : p.handles[k]? = none) : h ≠ k := by
  rintro rfl
  obtain ⟨handle, hget, -, -⟩ := hh
  rw [hk] at hget
  cases hget

/-! ## Both sessions -/

namespace Dialogue

/-- What starting a session does to a pipe: the session takes its place, and is about to read what
is on its way to its end. -/
structure EndSpec.Entered (spec : EndSpec) (side : Side) (p : Pipe) (s : Session) (p' : Pipe) :
    Prop where
  sound : p'.Sound
  onEnd : s.OnEnd p' side
  pending : p'.pendingOf s.reader = p.pendingOf side.stream
  lane : p'.lane side = p.lane side
  frame : Untouched side.other p p'
  sameHandles : SameHandles p p'
  capacity : p'.capacity = p.capacity
  isClosed : p'.isClosed = p.isClosed
  limit : ∀ {stream : Handle}, p.handles[side.stream]? = some stream →
    ∃ handle, p'.handles[s.writer]? = some handle ∧ handle.limit = stream.limit
  waits : s.inbound.phase = .receiving

theorem EndSpec.entered {spec : EndSpec}
    (hbuffer : spec.settings.chunkSize.toNat ≤ Inbound.maxBuffer)
    {p p' : Pipe} {side : Side} {s : Session} (hp : p.Sound) (hv : p.Unstarted side)
    (h : spec.enter side p = (.ok s, p')) : spec.Entered side p s p' := by
  obtain ⟨reader, writer, p₁, p₂, log, -, hreader, hwriter, rfl, rfl⟩ := Session.of_start h
  have hclone₁ := clone_eq_of_ok hreader
  have hclone₂ := clone_eq_of_ok hwriter
  have hv₁ := hv.clone hclone₁
  have hv₂ := hv₁.unstarted.clone hclone₂
  have hreader₂ : p₂.Holds side reader := hv₂.keeps.holds hv₁.holds (by simp)
  have hkeeps₃ : Keeps none p₂ (p₂.listen reader) := Keeps.listen p₂ reader
  have hreads : p₂.Reader side reader := hv₂.unstarted.quiet.reader hreader₂.owns
  have hsound : p₂.Sound := hv₂.sound (hv₁.sound hp)
  have hphase : (Inbound.start (Medium.peer p₂ side.stream) spec.sink
      spec.settings.chunkSize.toNat).phase = .receiving := by
    have hroom : max spec.settings.chunkSize.toNat 1 ≤ Inbound.maxBuffer := by
      simp only [Inbound.maxBuffer] at hbuffer ⊢
      omega
    simp [Inbound.start, hroom]
  obtain ⟨handle, hget, hside⟩ := hreads.own
  exact {
    sound := hsound.listen _
    onEnd := {
      reads := hreads.listen
      reader := .inl (hkeeps₃.holds hreader₂ (by simp))
      writer := hkeeps₃.owns hv₂.holds.owns
      closer := hkeeps₃.owns hv₂.unstarted.present.owns
      present := .inl (hkeeps₃.holds hv₂.unstarted.present (by simp))
      writer_ne := (hv₁.holds.ne_of_new hv₂.new).symm
      closer_ne := hv.present.ne_of_new hv₁.new
      writer_ne_closer := (hv₁.unstarted.present.ne_of_new hv₂.new).symm
      closed := by simp [Session.Coordinator.isOver]
      buffer := Nat.lt_of_lt_of_le Nat.one_pos (Nat.le_max_right _ 1)
      inbound := by
        unfold Inbound.EndsOnlyIf
        rw [hphase]
        trivial }
    pending := by
      obtain ⟨stream, hstream, hside', -⟩ := hv.present
      have hquiet := (hv.quiet _ stream hstream hside').1
      have hquiet' := (hv₂.unstarted.quiet _ handle hget hside).1
      exact hreads.sameStream_listen.pending.trans
        (by rw [pendingOf_eq hget, pendingOf_eq hstream, hquiet, hquiet'])
    lane := hreads.sameStream_listen.lane.trans (hv₂.lane.trans hv₁.lane)
    frame := (hv₁.frame.trans hv₂.frame).trans
      (Untouched.listen hget (by rw [Side.other_other, hside]))
    sameHandles := (hv₁.keeps.sameHandles.trans hv₂.keeps.sameHandles).trans hkeeps₃.sameHandles
    capacity := (listen_capacity _ _).trans (hv₂.capacity.trans hv₁.capacity)
    isClosed := (listen_isClosed _ _).trans (hv₂.isClosed.trans hv₁.isClosed)
    limit := fun {stream} hstream => by
      obtain ⟨stream₁, hstream₁, -, hlimit₁⟩ := hv₁.keeps.sameHandles _ _ hstream
      obtain ⟨writer₂, hwriter₂, hlimit₂⟩ := hv₂.limit hstream₁
      obtain ⟨writer₃, hwriter₃, -, hlimit₃⟩ := hkeeps₃.sameHandles _ _ hwriter₂
      exact ⟨writer₃, hwriter₃, hlimit₃.trans (hlimit₂.trans hlimit₁)⟩
    waits := hphase }

/-- The handle that reads at an end, or will. -/
def reader (d : Dialogue) (side : Side) : Nat :=
  match d.session? side with
  | some s => s.reader
  | none => side.stream

theorem reader_eq {d : Dialogue} {side : Side} {s : Session} (hs : d.session? side = some s) :
    d.reader side = s.reader := by
  rw [reader, hs]

theorem reader_update_other (d : Dialogue) (side : Side) (s : Session) (p : Pipe)
    (sent got : Bytes) : (d.update side s p sent got).reader side.other = d.reader side.other := by
  rw [reader, reader, session?_update_other]

/-- What holds at every moment of a dialogue. -/
structure Sound (d : Dialogue) : Prop where
  pipe : d.pipe.Sound
  unstarted : ∀ side, d.session? side = none → d.pipe.Unstarted side
  onEnd : ∀ side s, d.session? side = some s → s.OnEnd d.pipe side
  flow : ∀ side, d.received side ++ d.pipe.unread side (d.reader side) = d.accepted side.other

namespace Sound

variable {specs : Side → EndSpec} {d d' : Dialogue}

theorem initial (capacity : Option Nat) (limits : Side → Option Nat) :
    Sound { pipe := initial capacity limits } where
  pipe := sound_initial capacity limits
  unstarted side _ := unstarted_initial capacity limits side
  onEnd side s hs := by cases hs
  flow side := by
    have hv := unstarted_initial capacity limits side
    have hunread := hv.quiet.unread hv.present.owns
    rw [initial_eq] at hunread ⊢
    exact hunread.trans (by cases side <;> rfl)

/-- As long as the pipe is open, both ends have somebody there. -/
theorem present (hd : d.Sound) (side : Side) :
    d.pipe.isClosed = true ∨ d.pipe.isHeld side = true := by
  cases hs : d.session? side with
  | none => exact .inr (hd.unstarted side hs).present.isHeld
  | some s =>
    rcases (hd.onEnd side s hs).present with hlive | hclosed
    · exact .inr hlive.isHeld
    · exact .inl hclosed

/-- The handle that reads at an end is the only one there that does. -/
theorem reads (hd : d.Sound) (side : Side) : d.pipe.Reader side (d.reader side) := by
  unfold reader
  cases hs : d.session? side with
  | none => exact (hd.unstarted side hs).quiet.reader (hd.unstarted side hs).present.owns
  | some s => exact (hd.onEnd side s hs).reads

/-- A move at one end, as the two ends see it. -/
theorem update (hd : d.Sound) {side : Side} {s : Session} {p : Pipe} {sent got : Bytes}
    (hp : p.Sound) (hs : s.OnEnd p side)
    (hflow : got ++ p.unread side s.reader = d.pipe.unread side (d.reader side))
    (hfar : Appended side.other sent d.pipe p) : (d.update side s p sent got).Sound := by
  have hother : ∀ {x : Side}, x ≠ side → (d.update side s p sent got).session? x = d.session? x :=
    fun hx => session?_update_of_ne d hx s p sent got
  have happended : ∀ {x : Side}, x ≠ side → Appended x sent d.pipe p :=
    fun hx => Side.eq_other_of_ne hx ▸ hfar
  refine ⟨hp, ?_, ?_, ?_⟩
  · intro x hx
    by_cases hxs : x = side
    · rw [hxs, session?_update] at hx
      cases hx
    · exact (hd.unstarted x (hother hxs ▸ hx)).appended (happended hxs)
  · intro x t hx
    by_cases hxs : x = side
    · subst hxs
      obtain rfl : s = t := by simpa using hx
      exact hs
    · exact (hd.onEnd x t (hother hxs ▸ hx)).appended (happended hxs)
  · intro x
    by_cases hxs : x = side
    · subst hxs
      rw [reader_eq (session?_update d x s p sent got)]
      simp only [Dialogue.update, append, if_true, Side.other_ne, if_false]
      rw [List.append_assoc, hflow, hd.flow]
    · obtain rfl := Side.eq_other_of_ne hxs
      rw [reader_update_other]
      simp only [Dialogue.update, append, Side.other_other, Side.other_ne, if_true, if_false]
      rw [hfar.unread (hd.reads side.other), ← List.append_assoc, hd.flow, Side.other_other]

/-- A session is started. -/
theorem enter (hd : d.Sound) {spec : EndSpec} {side : Side} {s : Session} {p : Pipe}
    (hbuffer : spec.settings.chunkSize.toNat ≤ Inbound.maxBuffer)
    (hnone : d.session? side = none) (hstart : spec.enter side d.pipe = (.ok s, p)) :
    (d.update side s p [] []).Sound := by
  have hentered := spec.entered hbuffer hd.pipe (hd.unstarted side hnone) hstart
  refine hd.update hentered.sound hentered.onEnd ?_ hentered.frame.appended
  rw [List.nil_append, unread, unread, hentered.pending, hentered.lane, reader, hnone]

/-- A session makes a move. -/
theorem move (hd : d.Sound) {side : Side} {s s' : Session} {p : Pipe} {sent got : Bytes}
    (hs : d.session? side = some s) (heffect : Session.StepEffect side sent got d.pipe s p s') :
    (d.update side s' p sent got).Sound := by
  refine hd.update heffect.sound heffect.onEnd ?_ heffect.far
  rw [heffect.reader, heffect.flow, reader, hs]

end Sound

/-- No session has a sink that might break down. -/
def NeverBreaks (d : Dialogue) : Prop :=
  ∀ side s, d.session? side = some s → s.inbound.sink.NeverBreaks

theorem NeverBreaks.update {d : Dialogue} (hd : d.NeverBreaks) {side : Side} {s : Session}
    {p : Pipe} {sent got : Bytes} (hs : s.inbound.sink.NeverBreaks) :
    (d.update side s p sent got).NeverBreaks := by
  intro x t hx
  by_cases hxs : x = side
  · subst hxs
    obtain rfl : s = t := by simpa using hx
    exact hs
  · rw [session?_update_of_ne d hxs] at hx
    exact hd x t hx

/-- Every move keeps a dialogue sound, if no sink breaks down. -/
theorem sound_step {specs : Side → EndSpec} (hspecs : ∀ side, (specs side).IsReliable)
    {d d' : Dialogue} (hd : d.Sound ∧ d.NeverBreaks) {side : Side} {move : Move}
    (h : d.step specs side move = some d') : d'.Sound ∧ d'.NeverBreaks := by
  obtain ⟨hsound, hneverBreaks⟩ := hd
  obtain ⟨s, p, hnone, -, hstart, rfl⟩ | ⟨s, s', p, hs, hmove, rfl⟩ := step_cases h
  · refine ⟨hsound.enter (hspecs side).buffer hnone hstart, hneverBreaks.update ?_⟩
    obtain ⟨reader, writer, p₁, p₂, log, -, -, -, -, rfl⟩ := Session.of_start hstart
    exact (hspecs side).sink
  · have heffect := (hsound.onEnd side s hs).move hsound.pipe (hsound.present side.other)
      (fun _ _ _ => hneverBreaks side s hs) hmove
    exact ⟨hsound.move hs heffect,
      hneverBreaks.update ((hneverBreaks side s hs).of_verdict heffect.sink)⟩

/-- **However two sessions on a pipe run, what an inbound relay has received is the front of what
the far end's sends had accepted, and all of it once the relay is done.** The pipe may have any
capacity and any limits on what one send takes; the sessions may start, be called and go on in any
order. -/
theorem received_of_accepted (capacity : Option Nat) (limits : Side → Option Nat)
    (specs : Side → EndSpec) (hspecs : ∀ side, (specs side).IsReliable) (moves : List (Side × Move))
    (d : Dialogue) (hrun : run specs { pipe := initial capacity limits } moves = some d)
    (side : Side) :
    d.received side <+: d.accepted side.other ∧
      ∀ s exit, d.session? side = some s → s.inbound.exit? = some exit →
        d.received side = d.accepted side.other := by
  have hinit : Sound { pipe := initial capacity limits } ∧
    NeverBreaks { pipe := initial capacity limits } :=
    ⟨Sound.initial capacity limits, fun _ _ hs => by cases hs⟩
  obtain ⟨hd, -⟩ := run_keeps (fun hd hstep => sound_step hspecs hd hstep) hinit hrun
  have hflow := hd.flow side
  refine ⟨⟨_, hflow⟩, ?_⟩
  intro s exit hs hexit
  have hdrained := ((hd.onEnd side s hs).drained hexit).2
  rw [reader, hs, hdrained, List.append_nil] at hflow
  exact hflow

/-- One end types a line, and its sends take two bytes each; the other end reads byte by byte. -/
def greeting : Side → EndSpec
  | .a => { source := .queue [.event (.line "hey")] true }
  | .b => { source := .queue [] true, settings := { chunkSize := 1 } }

/-- The line is sent and the pipe closed while the far end has read one byte. -/
def greetingMoves : List (Side × Move) :=
  [(.a, .start), (.a, .act .readInput), (.a, .act .takeInput), (.a, .act .checkSignal),
    (.b, .start), (.a, .act .send), (.b, .act .receive), (.a, .act .send), (.a, .close),
    (.a, .act .trip), (.a, .act .release), (.b, .act .handle), (.b, .act .receive),
    (.b, .act .handle), (.b, .act .receive), (.b, .act .handle), (.b, .act .receive),
    (.b, .act .handle)]

theorem greeting_isReliable (side : Side) : (greeting side).IsReliable := by
  cases side
  · exact ⟨fun _ _ => by simp [greeting], by decide⟩
  · exact ⟨fun _ _ => by simp [greeting], by decide⟩

theorem received_of_accepted_greeting :
    ∃ d s exit, run greeting { pipe := initial (some 1) fun _ => some 2 } greetingMoves = some d ∧
      d.session? .b = some s ∧ s.inbound.exit? = some exit ∧ d.accepted .a = [104, 101, 121] ∧
      d.received .b = d.accepted .a := by
  refine ⟨_, _, _, rfl, rfl, rfl, rfl, ?_⟩
  exact (received_of_accepted (some 1) (fun _ => some 2) greeting greeting_isReliable greetingMoves
    _ rfl .b).2 _ _ rfl rfl

end Dialogue

end TextRelay
