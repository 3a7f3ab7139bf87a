import TextRelay.Proofs.Pipe.Clones
import TextRelay.Proofs.Pipe.Erasure
import TextRelay.Proofs.Pipe.Unread
import TextRelay.Proofs.Session.Termination

/-!
# Sessions on a stream that was read before

A session does not read the handle it is started on. Its inbound relay reads a clone of it, and the
handle itself only serves to close the stream. So what its owner has left at hand is nothing to the
session, which goes the same way if it is forgotten (`System.exec_forget`). Whatever was still on
its way it shows, unless its relay is stopped before the stream ends (`ShowsText`).
-/

namespace TextRelay

open Medium (Agree)

/-! ## Agreeing on more than one operation -/

namespace Medium

variable {κ α β : Type} {R : κ → κ → Prop} {w w' : κ}

theorem Agree.map {a b : Option (α × κ)} (h : Agree R a b) (f : α → β) :
    Agree R (a.map fun x => (f x.1, x.2)) (b.map fun x => (f x.1, x.2)) := by
  cases h with
  | none => exact .none
  | some hab => exact .some ⟨congrArg f hab.1, hab.2⟩

theorem agree_of_map (hw : R w w') (next : Option α) :
    Agree R (next.map (·, w)) (next.map (·, w')) := by
  cases next with
  | none => exact .none
  | some x => exact .some ⟨rfl, hw⟩

end Medium

namespace Session

open Pipe

variable {s s' : Session} {p p' : Pipe} {side : Side} {n : Nat}

/-! ## Sessions on two pipes -/

/-- A pipe that was shut down before is left alone. -/
theorem shut_agree (s : Session) (he : Erases side n p p') :
    (s.shut p).1 = (s.shut p').1 ∧ Erases side n (s.shut p).2 (s.shut p').2 := by
  unfold shut
  cases s.isReleased with
  | true => exact ⟨rfl, he⟩
  | false => exact ⟨rfl, he.close⟩

theorem dropHandles_agree (hs : s = s') (he : Erases side n p p') :
    (s.dropHandles p).1 = (s'.dropHandles p').1 ∧
    Erases side n (s.dropHandles p).2 (s'.dropHandles p').2 := by
  subst hs
  exact ⟨rfl, he.drop s.closer⟩

theorem discard_agree (s : Session) (he : Erases side n p p') :
    (s.discard p).1 = (s.discard p').1 ∧ Erases side n (s.discard p).2 (s.discard p').2 := by
  have hshut := { s with signal := s.signal.trip.2 }.shut_agree he
  exact dropHandles_agree hshut.1 hshut.2

/-- A session whose inbound relay reads a later handle does not miss what is forgotten. -/
theorem step_agree (he : Erases side n p p') (hreader : n ≤ s.reader) (action : Action) :
    Agree (Erases side n) (s.step p action) (s.step p' action) := by
  have hlate : ∀ q : Pipe, IsLate side n q s.reader := fun _ _ => hreader
  cases action with
  | readInput | dropInput | takeInput | cancelInput | checkSignal | judgeFault | takeFirst | trip =>
    exact Medium.agree_of_map he _
  | receive =>
    simp only [step, receive]
    split
    · have hreceive : Agree (Erases side n) (Medium.receive p s.reader s.inbound.bufferSize)
          (Medium.receive p' s.reader s.inbound.bufferSize) := he.receive (hlate p) _
      exact hreceive.map fun receipt => { s with inbound := s.inbound.receive receipt }
    · exact .none
  | handle =>
    simp only [step, handle]
    split
    · refine .some ⟨rfl, ?_⟩
      dsimp only
      split
      · exact he.listen (hlate p)
      · exact he
    · exact .none
  | reportInbound =>
    simp only [step, reportInbound]
    split
    · exact .some ⟨rfl, he.drop s.reader⟩
    · exact .none
  | send =>
    simp only [step, send]
    cases s.outbound.offer? with
    | none => exact .none
    | some data =>
      have hsend : Agree (Erases side n) (Medium.send p s.writer data)
          (Medium.send p' s.writer data) := he.send s.writer data
      exact hsend.map fun result => s.setOutbound (s.outbound.answer result)
  | reportOutbound =>
    simp only [step, reportOutbound]
    split
    · exact .some ⟨rfl, he.drop s.writer⟩
    · exact .none
  | release =>
    simp only [step, release]
    split
    · next after _ =>
      have hshut := s.shut_agree he
      cases after with
      | idle | joining => exact .some ⟨by rw [hshut.1], hshut.2⟩
      | dropped => exact .some (dropHandles_agree (by rw [hshut.1]) hshut.2)
    · exact .none
  | join =>
    simp only [step, join]
    split
    · exact .some (discard_agree _ he)
    · exact .none

theorem undergo_agree (he : Erases side n p p') (hreader : n ≤ s.reader) {event : Event Pipe}
    (hothers : ∀ change, event = .elsewhere change → IsOtherStep side n change) :
    Agree (Erases side n) (s.undergo p event) (s.undergo p' event) := by
  cases event with
  | close | wait | drop | crash => exact Medium.agree_of_map he _
  | act action => exact step_agree he hreader action
  | elsewhere change =>
    have hsides : ∀ k : Nat,
        (p'.handles[k]?).map Handle.side = (p.handles[k]?).map Handle.side := by
      intro k
      rw [he.getElem?, Option.map_map]
      cases p.handles[k]? <;> simp
    refine .some ⟨rfl, ?_⟩
    refine (hothers change rfl).of_bisimulation (Erases.bisimulation side n) ?_ ?_ he hsides
    · intro q k hfar hown
      exact absurd hown hfar
    · exact fun _ => trivial
  | input change => exact .some ⟨rfl, he⟩

namespace System

/-- A system without what the first handles of an end of its pipe have at hand. -/
def forget (side : Side) (n : Nat) (c : System Pipe) : System Pipe :=
  { c with medium := c.medium.forget side n }

variable {c c' : System Pipe}

/-- The second system is the first one without what the first handles of an end have at hand, and
the session does not read them. -/
structure Forgets (side : Side) (n : Nat) (c c' : System Pipe) : Prop where
  eq : c' = c.forget side n
  erases : Erases side n c.medium c'.medium
  reader : n ≤ c.session.reader

theorem Forgets.step (hb : Forgets side n c c') {event : Event Pipe}
    (hothers : ∀ change, event = .elsewhere change → IsOtherStep side n change) :
    Option.Rel (Forgets side n) (c.step event) (c'.step event) := by
  have hsession : c'.session = c.session := by rw [hb.eq, forget]
  have hclosed : c'.closed = c.closed := by rw [hb.eq, forget]
  have hwaited : c'.waited = c.waited := by rw [hb.eq, forget]
  have hdropped : c'.dropped = c.dropped := by rw [hb.eq, forget]
  have hbroken : c'.broken = c.broken := by rw [hb.eq, forget]
  have hundergo := undergo_agree hb.erases hb.reader hothers
  unfold System.step
  rw [hsession, hclosed, hwaited, hdropped, hbroken]
  cases hfirst : c.session.undergo c.medium event with
  | none =>
    rw [hfirst] at hundergo
    cases hsecond : c.session.undergo c'.medium event with
    | none => exact .none
    | some b =>
      rw [hsecond] at hundergo
      cases hundergo
  | some a =>
    rw [hfirst] at hundergo
    cases hsecond : c.session.undergo c'.medium event with
    | none =>
      rw [hsecond] at hundergo
      cases hundergo
    | some b =>
      rw [hsecond] at hundergo
      obtain ⟨s, q⟩ := a
      obtain ⟨s', q'⟩ := b
      obtain @⟨-, -, rfl, he⟩ := hundergo
      refine .some ⟨?_, he, ?_⟩
      · have heq : q' = q.forget side n := he.eq
        rw [heq]
        rfl
      · dsimp only
        rw [(handles_undergo hfirst).1]
        exact hb.reader

theorem Forgets.run (hb : Forgets side n c c') {events : List (Event Pipe)}
    (hothers : ∀ change, .elsewhere change ∈ events → IsOtherStep side n change) :
    Option.Rel (Forgets side n) (c.run events) (c'.run events) := by
  induction events generalizing c c' with
  | nil => exact .some hb
  | cons event rest ih =>
    have hstep := hb.step fun change heq => hothers change (heq ▸ List.mem_cons_self)
    unfold System.run
    generalize c.step event = a, c'.step event = b at hstep ⊢
    cases hstep with
    | none => exact .none
    | some hnext => exact ih hnext fun change hmem => hothers change (List.mem_cons_of_mem _ hmem)

/-- A session starts alike on both pipes. -/
theorem forgets_init (settings : Settings) (source : Source) (sink : Sink) {stream : Nat}
    (he : Erases side n p p') (hlate : n ≤ (p.clone stream).1) :
    (∃ s q q', start settings source sink stream p = (.ok s, q) ∧
      start settings source sink stream p' = (.ok s, q') ∧
      Forgets side n (init s q) (init s q')) ∨
    ∃ e q q', start settings source sink stream p = (.error e, q) ∧
      start settings source sink stream p' = (.error e, q') := by
  obtain ⟨hreader, he₁⟩ := he.clone stream
  obtain ⟨hwriter, he₂⟩ := he₁.clone stream
  have hpeer := (Erases.bisimulation side n).peer he₂ stream
  have hclone : ∀ q : Pipe, Medium.clone q stream = (.ok (q.clone stream).1, (q.clone stream).2) :=
    fun _ => rfl
  have hname : ∀ q : Pipe, Medium.peer q stream = q.peer stream := fun _ => rfl
  have hopen := he₂.listen (k := (p.clone stream).1) fun _ => hlate
  unfold start
  cases settings.validate with
  | error e => exact .inr ⟨e, _, _, rfl, rfl⟩
  | ok =>
    simp only [hclone, hname, hreader, hwriter, hpeer]
    exact .inl ⟨_, _, _, rfl, rfl, congrArg (init _) hopen.eq, hopen, hlate⟩

/-- **A session goes the same way on a pipe without what was at hand at its end.** -/
theorem exec_forget (settings : Settings) (source : Source) (sink : Sink) {stream : Nat}
    (hown : p.Owns side stream) (hactive : p.NoneListening side) {events : List (Event Pipe)}
    (hothers : ∀ change, .elsewhere change ∈ events → IsOtherStep side p.handles.length change) :
    exec settings source sink stream (p.forget side p.handles.length) events =
      (exec settings source sink stream p events).map (forget side p.handles.length) := by
  have he : Erases side p.handles.length p (p.forget side p.handles.length) :=
    ⟨rfl, Nat.le_refl _, fun k z _ => hactive k z⟩
  have hnumber : (p.clone stream).1 = p.handles.length := by
    obtain ⟨handle, hget, -⟩ := hown
    rw [Pipe.clone, hget]
  unfold exec
  obtain ⟨s, q, q', hfirst, hsecond, hforgets⟩ | ⟨e, q, q', hfirst, hsecond⟩ :=
    forgets_init settings source sink he (Nat.le_of_eq hnumber.symm)
  · rw [hfirst, hsecond]
    have hrun := hforgets.run hothers
    dsimp only
    generalize (init s q).run events = a, (init s q').run events = b at hrun ⊢
    cases hrun with
    | none => rfl
    | some hend => rw [hend.eq, Option.map_some]
  · rw [hfirst, hsecond]
    rfl

end System

/-! ## What was on its way is shown -/

/-- Where a text is that was on its way to a relay, by the relay's phase: what was shown, the chunk
at hand and the unread bytes make up something that begins with it, and once the stream has ended
what was shown does. -/
def TextInv (side : Side) (reader : Nat) (text shown : Bytes) (p : Pipe) : Inbound.Phase → Prop
  | .receiving => ReadsText side reader shown text p
  | .handling (.ok []) => text <+: shown
  | .handling (.ok chunk) => ReadsText side reader (shown ++ chunk) text p
  | .handling (.error _) => False
  | .leaving exit | .gone exit =>
    exit.cause = .peerClosed ∨ exit.cause = .cancelled → text <+: shown

/-- A relay that has broken down has nothing to answer for. -/
theorem TextInv.broken {reader : Nat} {text shown : Bytes} (dir : Direction) :
    TextInv side reader text shown p (.leaving (.panicked dir)) := by
  rintro (hcause | hcause) <;> cases hcause

theorem TextInv.mono {reader : Nat} {text shown : Bytes} {phase : Inbound.Phase}
    (hkeep : ∀ past, ReadsText side reader past text p → ReadsText side reader past text p')
    (hc : TextInv side reader text shown p phase) :
    TextInv side reader text shown p' phase := by
  unfold TextInv at hc ⊢
  split at hc
  · exact hkeep _ hc
  · exact hc
  · exact hkeep _ hc
  · exact hc
  · exact hc
  · exact hc

/-- A session over a pipe, one of whose ends it has: its sink was offered some chunks after whatever
it was offered before, and a text that was on its way to it is where it should be. -/
structure ShowsText (side : Side) (text : Bytes) (before : List String) (shown : List Bytes)
    (s : Session) (p : Pipe) : Prop where
  size : 0 < s.inbound.bufferSize
  writer : s.writer ≠ s.reader
  closer : s.closer ≠ s.reader
  offered : s.inbound.sink.offered = before ++ shown.map Chunk.shown
  textInv : TextInv side s.reader text shown.flatten p s.inbound.phase

namespace ShowsText

variable {text : Bytes} {before : List String} {shown : List Bytes} {event : Event Pipe}

/-- What the rest of the session does to the pipe keeps what is on its way. -/
theorem readsText_undergo {past : Bytes} (hc : ReadsText side s.reader past text p)
    (hwriter : s.writer ≠ s.reader) (hcloser : s.closer ≠ s.reader)
    (hothers : ∀ change, event = .elsewhere change → IsOtherStep side s.reader change)
    (hof : event.isOf .inbound = false) (h : s.undergo p event = some (s', p')) :
    ReadsText side s.reader past text p' := by
  have hshut : ReadsText side s.reader past text (s.shutDown p) := by
    unfold shutDown
    split
    · exact hc
    · exact hc.close
  cases event with
  | close | wait | drop | crash =>
    rw [(of_map h).2]
    exact hc
  | input change =>
    cases h
    exact hc
  | elsewhere change =>
    cases h
    exact ((hothers change rfl).of_bisimulation (ReadsText.bisimulation side s.reader past text)
      id id ⟨rfl, hc⟩ fun _ => rfl).2
  | act action =>
    cases action with
    | receive | handle | reportInbound => cases hof
    | send =>
      obtain ⟨data, result, log, -, hsend, -⟩ := of_send h
      exact hc.send hsend
    | reportOutbound =>
      obtain ⟨exit, -, rfl, -⟩ := of_reportOutbound h
      exact hc.drop hwriter
    | release =>
      have hrelease : s.release p = some (s', p') := h
      obtain ⟨after, log, -, ⟨-, rfl, -⟩ | ⟨-, rfl, -⟩⟩ := of_release hrelease
      · exact hshut
      · exact hshut.drop hcloser
    | join =>
      obtain ⟨initiator, inbound, outbound, log, -, -, -, rfl, -⟩ := of_join h
      exact hshut.drop hcloser
    | readInput | dropInput | takeInput | cancelInput | checkSignal | judgeFault | takeFirst
    | trip =>
      rw [(of_map h).2]
      exact hc

/-- The numbers of the handles and the size of the buffer are fixed. -/
theorem advance (hs : ShowsText side text before shown s p) (h : s.undergo p event = some (s', p'))
    (hsize : s'.inbound.bufferSize = s.inbound.bufferSize) {shown' : List Bytes}
    (hoffered : s'.inbound.sink.offered = before ++ shown'.map Chunk.shown)
    (hwhere : TextInv side s.reader text shown'.flatten p' s'.inbound.phase) :
    ShowsText side text before shown' s' p' := by
  obtain ⟨hreader, hwriter, hcloser⟩ := handles_undergo h
  refine ⟨?_, ?_, ?_, hoffered, ?_⟩
  · rw [hsize]
    exact hs.size
  · rw [hwriter, hreader]
    exact hs.writer
  · rw [hcloser, hreader]
    exact hs.closer
  · rw [hreader]
    exact hwhere

/-- What the relay has received it shows, and goes on or breaks down over it; or it has seen the
end. -/
theorem handle (hs : ShowsText side text before shown s p)
    (h : s.undergo p (.act .handle) = some (s', p')) {receipt : Except Fault Bytes}
    (hphase : s.inbound.phase = .handling receipt)
    (hnext : s'.inbound = (s.inbound.handle s.signal.tripped).1) :
    ∃ shown', ShowsText side text before shown' s' p' := by
  have hwhere := hs.textInv
  have hsize : s'.inbound.bufferSize = s.inbound.bufferSize := by
    rw [hnext, Inbound.handle_bufferSize]
  rw [hphase] at hwhere
  cases receipt with
  | error fault => exact hwhere.elim
  | ok chunk =>
    cases chunk with
    | nil =>
      have hend := Inbound.handle_end hphase s.signal.tripped
      refine ⟨shown, hs.advance h hsize ?_ ?_⟩
      · rw [hnext, hend]
        exact hs.offered
      · rw [hnext, hend]
        exact fun _ => hwhere
    | cons byte rest =>
      obtain ⟨hoffered, hphase'⟩ := Inbound.offered_handle hphase s.signal.tripped
      rw [← hnext] at hoffered hphase'
      refine ⟨shown ++ [byte :: rest], hs.advance h hsize ?_ ?_⟩
      · rw [hoffered, hs.offered, List.map_append, List.append_assoc]
        rfl
      · rcases hphase' with hphase' | hphase'
        · obtain ⟨-, -, -, -, ⟨-, rfl⟩ | ⟨hne, -⟩⟩ := of_handle h
          · rw [hphase', List.flatten_append, List.flatten_singleton]
            exact ReadsText.listen_own hwhere
          · exact absurd hphase' hne
        · rw [hphase']
          exact .broken .inbound

theorem undergo (hs : ShowsText side text before shown s p)
    (hothers : ∀ change, event = .elsewhere change → IsOtherStep side s.reader change)
    (h : s.undergo p event = some (s', p')) :
    ∃ shown', ShowsText side text before shown' s' p' := by
  have hwhere := hs.textInv
  cases inboundMove h with
  | rests hof hsame =>
    refine ⟨shown, hs.advance h ?_ ?_ ?_⟩
    · rw [hsame]
    · rw [hsame, hs.offered]
    · rw [hsame]
      apply hwhere.mono
      intro past hc
      exact readsText_undergo hc hs.writer hs.closer hothers hof h
  | @receives receipt _ hphase hreceive hnext =>
    obtain ⟨data, rfl⟩ := receive_ok hreceive
    rw [hphase] at hwhere
    obtain ⟨hreads, hend⟩ := ReadsText.receive_own hwhere hs.size hreceive
    refine ⟨shown, hs.advance h ?_ ?_ ?_⟩
    · rw [hnext, Inbound.receive]
    · rw [hnext, Inbound.receive, hs.offered]
    · rw [hnext]
      cases data with
      | nil => exact hend rfl
      | cons byte rest => exact hreads
  | handles hevent hphase hnext =>
    subst hevent
    exact hs.handle h hphase hnext
  | reports _ hphase hnext =>
    rw [hphase] at hwhere
    refine ⟨shown, hs.advance h ?_ ?_ ?_⟩
    · rw [hnext]
    · rw [hnext, hs.offered]
    · rw [hnext]
      exact hwhere
  | crashes _ _ hnext =>
    refine ⟨shown, hs.advance h ?_ ?_ ?_⟩
    · rw [hnext]
    · rw [hnext, hs.offered]
    · rw [hnext]
      exact .broken .inbound

/-- Until the relay ends, what was on its way is shown, or at hand, or unread. -/
theorem unfinished (hs : ShowsText side text before shown s p) (hexit : s.exit? .inbound = none) :
    text <+: shown.flatten ++ s.inHand.flatten ++ p.unread side s.reader := by
  have hwhere := hs.textInv
  unfold TextInv at hwhere
  simp only [exit?, Inbound.exit?] at hexit
  unfold inHand
  split at hwhere
  · next hphase => simpa [hphase] using hwhere.text
  · next hphase =>
    simp only [hphase, asPiece_nil, List.flatten_nil, List.append_nil]
    exact hwhere.trans (List.prefix_append _ _)
  · next chunk hne hphase =>
    have hchunk : chunk ≠ [] := fun heq => hne (heq ▸ rfl)
    simpa [hphase, asPiece_of_ne hchunk] using hwhere.text
  · exact hwhere.elim
  · next hphase => simp [hphase] at hexit
  · next hphase => simp [hphase] at hexit

/-- When the relay has seen the end of the stream, everything was shown. -/
theorem finished (hs : ShowsText side text before shown s p) {exit : Exit}
    (hexit : s.exit? .inbound = some exit)
    (hcause : exit.cause = .peerClosed ∨ exit.cause = .cancelled) : text <+: shown.flatten := by
  have hwhere := hs.textInv
  unfold TextInv at hwhere
  simp only [exit?, Inbound.exit?] at hexit
  split at hwhere
  · next hphase => simp [hphase] at hexit
  · exact hwhere
  · next hphase => simp [hphase] at hexit
  · exact hwhere.elim
  · next hphase =>
    simp only [hphase, Option.some.injEq] at hexit
    exact hwhere (hexit ▸ hcause)
  · next hphase =>
    simp only [hphase, Option.some.injEq] at hexit
    exact hwhere (hexit ▸ hcause)

/-- At the start nothing was shown, and everything on its way is unread. -/
theorem init {settings : Settings} {source : Source} {sink : Sink} {stream : Nat}
    (hp : p.Sound) (hquiet : p.Quiet side) (hown : p.Owns side stream)
    (hstart : start settings source sink stream p = (.ok s, p')) :
    ShowsText side (p.lane side).flatten sink.offered [] s p' := by
  obtain ⟨reader, writer, p₁, p₂, log, -, hreader, hwriter, rfl, rfl⟩ := of_start hstart
  cases hreader
  cases hwriter
  obtain ⟨hholds, hfresh⟩ := clone_holds hown
  have hown₁ : (p.clone stream).2.Owns side stream := (Keeps.clone p stream).owns hown
  obtain ⟨-, hfresh₁⟩ := clone_holds hown₁
  have hholds₂ : ((p.clone stream).2.clone stream).2.Holds side (p.clone stream).1 :=
    (Keeps.clone _ _).holds hholds (by simp)
  have hquiet₂ := (hquiet.clone stream).clone stream
  refine ⟨Nat.lt_of_lt_of_le Nat.zero_lt_one (Nat.le_max_right _ _), ?_, ?_,
    (List.append_nil _).symm, ?_⟩
  · intro heq
    obtain ⟨handle, hget, -⟩ := hholds
    have hsame : (p.clone stream).1 = ((p.clone stream).2.clone stream).1 := heq.symm
    rw [hsame, hfresh₁] at hget
    cases hget
  · intro heq
    obtain ⟨handle, hget, -⟩ := hown
    rw [show stream = (p.clone stream).1 from heq, hfresh] at hget
    cases hget
  · have hreads : ReadsText side (p.clone stream).1 [] (p.lane side).flatten
        ((p.clone stream).2.clone stream).2 := by
      refine ⟨(hp.clone stream).clone stream, hquiet₂.reader hholds₂.owns, hholds₂, ?_⟩
      rw [hquiet₂.unread hholds₂.owns, lane_clone, lane_clone]
      exact List.prefix_refl _
    dsimp only [Inbound.start]
    by_cases hbuffer : max settings.chunkSize.toNat 1 ≤ Inbound.maxBuffer
    · rw [if_pos hbuffer]
      exact hreads.listen_own
    · rw [if_neg hbuffer]
      exact .broken .inbound

end ShowsText

namespace System

variable {c : System Pipe}

/-- Whatever was on its way when a session was started is shown by it, or is on its way to be. -/
theorem showsText_of_exec {settings : Settings} {source : Source} {sink : Sink} {stream : Nat}
    (hp : p.Sound) (hown : p.Owns side stream) (hactive : p.NoneListening side)
    {events : List (Event Pipe)}
    (hothers : ∀ change, .elsewhere change ∈ events → IsOtherStep side p.handles.length change)
    (hexec : exec settings source sink stream p events = some c) :
    c.session.reader = p.handles.length ∧
      ∃ shown, ShowsText side (p.lane side).flatten sink.offered shown c.session
        (c.medium.forget side p.handles.length) := by
  -- the same run on the pipe where nobody has anything at hand
  have hforgets := exec_forget settings source sink hown hactive hothers
  rw [hexec, Option.map_some] at hforgets
  obtain ⟨s, q, hstart, hrun⟩ := of_exec hforgets
  have hown' : (p.forget side p.handles.length).Owns side stream := by
    obtain ⟨handle, hget, hside⟩ := hown
    refine ⟨handle.forget side p.handles.length stream, ?_, by rwa [Handle.forget_side]⟩
    rw [getElem?_forget, hget, Option.map_some]
  have hinit := ShowsText.init (hp.forget side p.handles.length) (quiet_forget hactive) hown' hstart
  rw [lane_forget] at hinit
  have hreader : s.reader = p.handles.length := by
    obtain ⟨handle, hget, -⟩ := hown'
    obtain ⟨reader, writer, p₁, p₂, log, -, hreader, -, -, rfl⟩ := of_start hstart
    cases hreader
    change ((p.forget side p.handles.length).clone stream).1 = p.handles.length
    rw [Pipe.clone, hget, length_forget]
  exact run_keeps (P := fun c => c.session.reader = p.handles.length ∧
      ∃ shown, ShowsText side (p.lane side).flatten sink.offered shown c.session c.medium)
    (by
      rintro event hmem c c' ⟨hreader, shown, hshows⟩ hstep
      obtain ⟨hundergo, -⟩ := of_step hstep
      refine ⟨(handles_undergo hundergo).1.trans hreader, hshows.undergo ?_ hundergo⟩
      intro change heq
      rw [hreader]
      exact hothers change (heq ▸ hmem))
    ⟨hreader, [], hinit⟩ hrun

end System

/-! ## Clones -/

open Scenario

/-- **A clone reads what its handle would read after what that has at hand.** In any later course of
things the handle is answered with the bytes at hand, and from then on as its clone would be if it
were read instead; so the clone is answered as the handle is if there are none, and never gets them
if there are some. A session that is started on the handle reads a clone of it: it goes the same way
without those bytes, and shows all that was on its way when it was started, unless its inbound relay
ends before the stream does. -/
theorem clones_read_past_leftovers (capacity : Option Nat) (earlier : List (Nat × PipeStep))
    {p : Pipe} (hp : p = attempts { capacity } earlier) {h : Nat} {handle : Handle}
    (hget : p.handles[h]? = some handle) (hlive : handle.isLive = true)
    (hactive : p.NoneListening handle.side) :
    (∀ later own clones, OnlyReads handle.side h (p.clone h).1 (p.clone h).2 later →
      own = trace (p.clone h).2 later →
      clones = trace (p.clone h).2 (redirect h (p.clone h).1 handle.pending later) →
      Redirected h (p.clone h).1 handle.pending own clones ∧
      (handle.pending = [] → own.map Prod.snd = clones.map Prod.snd) ∧
      ∃ front rest, handle.pending = front ++ rest ∧
        receivedBy h own = front ++ receivedBy (p.clone h).1 clones ∧
        (rest ≠ [] → receivedBy (p.clone h).1 clones = [])) ∧
    ∀ (settings : Settings) (source : Source) (sink : Sink) (events : List (Event Pipe)),
      (∀ change, .elsewhere change ∈ events → IsOtherStep handle.side (p.clone h).1 change) →
      System.exec settings source sink h (p.forget handle.side p.handles.length) events =
        (System.exec settings source sink h p events).map
          (System.forget handle.side p.handles.length) ∧
      ∀ c, System.exec settings source sink h p events = some c →
        ∃ shown : List Bytes,
          c.session.inbound.sink.offered = sink.offered ++ shown.map Chunk.shown ∧
          (c.session.exit? .inbound = none → (p.lane handle.side).flatten <+:
            shown.flatten ++ c.session.inHand.flatten ++
              c.medium.unread handle.side c.session.reader) ∧
          ∀ exit, c.session.exit? .inbound = some exit →
            exit.cause = .peerClosed ∨ exit.cause = .cancelled →
            (p.lane handle.side).flatten <+: shown.flatten := by
  have hclone : (p.clone h).1 = p.handles.length := by rw [Pipe.clone, hget]
  have hsound : p.Sound := hp ▸ sound_attempts capacity earlier
  rw [hclone]
  refine ⟨?_, ?_⟩
  · rintro later own clones hlater rfl rfl
    have hredirected := redirected_trace (SameUpToReader.start hget hlive hactive) hlater
    refine ⟨hredirected, ?_, hredirected.receivedBy_eq⟩
    intro hnil
    rw [hnil] at hredirected ⊢
    exact hredirected.replies_eq
  · intro settings source sink events hothers
    refine ⟨System.exec_forget settings source sink ⟨handle, hget, rfl⟩ hactive hothers, ?_⟩
    intro c hexec
    obtain ⟨hreader, shown, hshows⟩ :=
      System.showsText_of_exec hsound ⟨handle, hget, rfl⟩ hactive hothers hexec
    refine ⟨shown, hshows.offered, ?_, ?_⟩
    · intro hexit
      have htext := hshows.unfinished hexit
      rwa [unread_forget (Nat.le_of_eq hreader.symm)] at htext
    · exact fun exit => hshows.finished

/-- Six bytes were sent to end `b`, and four of them read there. -/
def halfRead : List (Nat × PipeStep) :=
  [(0, .send [0x61, 0x62, 0x63, 0x64, 0x65, 0x66]), (1, .receive 4)]

/-- Two more bytes follow. -/
def followedUp : List (Nat × PipeStep) := halfRead ++ [(0, .send [0x67, 0x68])]

/-- A session receives once, the far end closes the pipe, and the session receives once more. -/
def lastReceipts : List (Event Pipe) :=
  [.act .receive, .act .handle,
    .elsewhere fun p =>
      if p.keepsReader .b 2 0 .shutdown then (PipeStep.attempt 0 p .shutdown).pipe else p,
    .act .receive, .act .handle]

def takenOver (p : Pipe) : Option (System Pipe) :=
  System.exec {} (.ofLines []) {} 1 p lastReceipts

theorem clones_read_past_leftovers_half_read :
    ∃ p, p = attempts {} followedUp ∧ p.pendingOf 1 = [0x65, 0x66] ∧
      Redirected 1 2 [0x65, 0x66]
        (trace (p.clone 1).2 [(1, .receive 2), (0, .shutdown), (1, .receive 64), (1, .receive 64)])
        (trace (p.clone 1).2 [(0, .shutdown), (2, .receive 64), (2, .receive 64)]) ∧
      takenOver (p.forget .b 2) = (takenOver p).map (System.forget .b 2) ∧
      ∃ c, takenOver p = some c ∧ c.session.inbound.sink.offered = ["gh"] ∧
        ∃ shown : List Bytes, c.session.inbound.sink.offered = shown.map Chunk.shown ∧
          [0x67, 0x68] <+: shown.flatten := by
  have hget : (attempts {} followedUp).handles[1]? =
      some { side := .b, pending := [0x65, 0x66] } := by decide
  have hactive : (attempts {} followedUp).NoneListening .b := by
    intro k z hk
    have hall : ∀ z ∈ (attempts {} followedUp).handles,
        z.side = .b → z.listening = false := by decide
    exact hall z (List.mem_of_getElem? hk)
  obtain ⟨hclone, hsession⟩ := clones_read_past_leftovers none followedUp rfl hget rfl hactive
  refine ⟨_, rfl, by decide, ?_, ?_⟩
  · refine (hclone [(1, .receive 2), (0, .shutdown), (1, .receive 64), (1, .receive 64)] _ _ ?_ rfl
      rfl).1
    simp [OnlyReads]
  · obtain ⟨hsame, hshown⟩ := hsession {} (.ofLines []) {} lastReceipts (by
      intro change hmem
      obtain rfl : change = _ := by simpa [lastReceipts] using hmem
      exact ⟨0, .shutdown, rfl⟩)
    obtain ⟨c, hexec⟩ := Option.isSome_iff_exists.1
      (show (takenOver (attempts {} followedUp)).isSome by decide +kernel)
    have hfacts : (takenOver (attempts {} followedUp)).map (fun c =>
        (c.session.inbound.sink.offered, c.session.exit? .inbound)) =
        some (["gh"], some ⟨.inbound, .peerClosed, 2⟩) := by
      decide +kernel
    rw [hexec, Option.map_some, Option.some.injEq, Prod.mk.injEq] at hfacts
    obtain ⟨shown, hoffered, -, hall⟩ := hshown c hexec
    exact ⟨hsame, c, hexec, hfacts.1, shown, hoffered, hall _ hfacts.2 (.inl rfl)⟩

/-- A clone of a handle that has read only a part of its chunk misses the rest, and so does a
session that is started on the handle. -/
theorem leftovers_lost_to_clones :
    (trace ((attempts {} halfRead).clone 1).2 [(0, .shutdown), (1, .receive 64)]).map Prod.snd =
      [.done, .received [0x65, 0x66]] ∧
    (trace ((attempts {} halfRead).clone 1).2 [(0, .shutdown), (2, .receive 64)]).map Prod.snd =
      [.done, .received []] ∧
    (System.exec {} (.ofLines []) {} 1 (attempts {} (halfRead ++ [(0, .shutdown)]))
        [.act .receive, .act .handle]).map (fun c => (c.session.exit? .inbound,
          c.session.inbound.sink.offered)) = some (some ⟨.inbound, .peerClosed, 0⟩, []) := by
  decide +kernel

end Session

end TextRelay
