import Mathlib.Order.Monotone.Basic
import TextRelay.Proofs.Pipe.Draining
import TextRelay.Proofs.Session.Receiving
import TextRelay.Proofs.Session.Shutdown

/-!
# Relays leave once the pipe is closed

A session over a pipe that has shut it down. Wherever its relays are by then (in a receive, in a
wait for input, between the wait and the look at the signal, or in a send that was blocked) each of
them has a step that it can take, and each step brings it nearer to its end: the inbound relay has
to drain what is unread, which only shrinks, and the outbound one cannot send any more. What the far
end does, or anybody else with a handle of the pipe, does not make the way longer
(`PipeClosed.stepsLeft_undergo`).

So every relay is gone after boundedly many steps of its own, and there is nothing that the
coordinator could wait for in vain when it joins them.
-/

namespace TextRelay

/-! ## What is left to a relay -/

theorem Inbound.rank_handle {r : Inbound} {receipt : Except Fault Bytes}
    (hphase : r.phase = .handling receipt) (shuttingDown : Bool) :
    (r.handle shuttingDown).1.rank < r.rank := by
  match receipt with
  | .ok [] =>
    rw [handle_end hphase]
    simp [rank, hphase]
  | .ok (byte :: rest) =>
    have hrank : r.rank = 4 := by simp [rank, hphase]
    simp only [handle, hphase, showChunk, hrank]
    split <;> simp [rank]
  | .error fault =>
    have hrank : r.rank = 4 := by simp [rank, hphase]
    simp only [handle, hphase, hrank]
    split
    · simp [rank]
    · simp [rank, failedStream, leave]

namespace Outbound

/-- How many steps are left to an outbound relay, at most, if it can send no more. -/
def stepsLeft (r : Outbound) : Nat :=
  match r.phase with
  | .waiting => 4
  | .holding _ | .sending _ _ => 3
  | .failing _ => 2
  | .leaving _ => 1
  | .gone _ => 0

variable {r : Outbound}

theorem stepsLeft_take (event : InputEvent) : (r.take event).1.stepsLeft ≤ 3 := by
  cases event with
  | line text => exact Nat.le_refl 3
  | ended | failed => exact Nat.le_add_right 1 2

theorem stepsLeft_check {line : String} (hphase : r.phase = .holding line) :
    (r.check true).1.stepsLeft = 1 := by
  simp only [check, hphase, if_true]
  rfl

theorem stepsLeft_answer {line : String} {d : Delivery} {fault : Fault}
    (hphase : r.phase = .sending line d) (hkind : fault.kind ≠ .interrupted) :
    (r.answer (.error fault)).1.stepsLeft = 2 := by
  simp [answer, hphase, Delivery.feed, hkind, stepsLeft]

theorem stepsLeft_judge {fault : Fault} (hphase : r.phase = .failing fault) (shuttingDown : Bool) :
    (r.judge shuttingDown).1.stepsLeft = 1 := by
  simp only [judge, hphase]
  rfl

end Outbound

namespace Session

/-- How many steps are left to a relay, at most, when the pipe is closed. -/
def stepsLeft (side : Pipe.Side) (s : Session) (p : Pipe) : Direction → Nat
  | .inbound => 2 * (p.unread side s.reader).length + s.inbound.rank
  | .outbound => s.outbound.stepsLeft

variable {s s' : Session} {p p' : Pipe} {side : Pipe.Side} {event : Event Pipe}

/-! ## The pipe of a session -/

theorem drains_shutDown (s : Session) (p : Pipe) (k : Nat) :
    Pipe.Drains side k p (s.shutDown p) := by
  unfold shutDown
  split
  · exact .refl side k p
  · exact .close

theorem drains_step {action : Action} (h : s.step p action = some (s', p')) (k : Nat) :
    Pipe.Drains side k p p' := by
  cases action with
  | receive =>
    obtain ⟨receipt, -, hreceive, -⟩ := of_receive h
    exact .receive hreceive
  | handle =>
    obtain ⟨receipt, log, -, -, ⟨-, rfl⟩ | ⟨-, rfl⟩⟩ := of_handle h
    · exact .listen s.reader
    · exact .refl side k _
  | reportInbound =>
    obtain ⟨exit, -, rfl, -⟩ := of_reportInbound h
    exact .drop s.reader
  | send =>
    obtain ⟨data, result, log, -, hsend, -⟩ := of_send h
    exact .send hsend
  | reportOutbound =>
    obtain ⟨exit, -, rfl, -⟩ := of_reportOutbound h
    exact .drop s.writer
  | release =>
    have hrelease : s.release p = some (s', p') := h
    obtain ⟨after, log, -, ⟨-, rfl, -⟩ | ⟨-, rfl, -⟩⟩ := of_release hrelease
    · exact drains_shutDown s p k
    · exact (drains_shutDown s p k).trans (.drop s.closer)
  | join =>
    obtain ⟨initiator, inbound, outbound, log, -, -, -, rfl, -⟩ := of_join h
    exact (drains_shutDown s p k).trans (.drop s.closer)
  | readInput | dropInput | takeInput | cancelInput | checkSignal | judgeFault | takeFirst | trip =>
    rw [(of_map h).2]
    exact .refl side k p

/-- Whatever happens, the stream of a handle in a closed pipe only drains. -/
theorem drains_undergo (side : Pipe.Side) (k : Nat) (h : s.undergo p event = some (s', p'))
    (hothers : ∀ change, event = .elsewhere change → Pipe.IsStep change) :
    Pipe.Drains side k p p' := by
  cases event with
  | close | wait | drop | crash =>
    rw [(of_map h).2]
    exact .refl side k p
  | act action => exact drains_step h k
  | elsewhere change =>
    cases h
    exact (hothers change rfl).drains side k p
  | input change =>
    cases h
    exact .refl side k p

/-- A session that has shut its pipe down. -/
structure PipeClosed (side : Pipe.Side) (s : Session) (p : Pipe) : Prop where
  closed : p.isClosed = true
  tripped : s.signal.tripped = true
  cancelled : s.signal.isCancelled = true
  owns : p.Owns side s.reader

namespace PipeClosed

theorem undergo (hs : s.PipeClosed side p) (h : s.undergo p event = some (s', p'))
    (hothers : ∀ change, event = .elsewhere change → Pipe.IsStep change) :
    s'.PipeClosed side p' := by
  have hdrains := drains_undergo side s.reader h hothers
  obtain ⟨htripped, hcancelled, -⟩ := mono_undergo h
  refine ⟨hdrains.closed hs.closed, htripped hs.tripped, hcancelled hs.cancelled, ?_⟩
  rw [(handles_undergo h).1]
  exact hdrains.owns hs.owns

/-! ## Every step of a relay leaves it less to do -/

theorem stepsLeft_inbound (hs : s.PipeClosed side p) (h : s.undergo p event = some (s', p'))
    (hothers : ∀ change, event = .elsewhere change → Pipe.IsStep change) :
    s'.stepsLeft side p' .inbound + (event.isOf .inbound).toNat ≤ s.stepsLeft side p .inbound := by
  have hunread := (drains_undergo side s.reader h hothers).unread hs.closed hs.owns
  have hone := Bool.toNat_le (event.isOf .inbound)
  simp only [stepsLeft, (handles_undergo h).1]
  cases inboundMove h with
  | rests hof hsame =>
    rw [hof, hsame, Bool.toNat_false]
    omega
  | receives _ hphase hreceive hnext =>
    obtain ⟨data, rfl⟩ := Pipe.receive_ok hreceive
    -- the bytes that were received are no longer unread
    have hrest := Pipe.Drains.receive_own hs.owns hreceive
    rw [hnext]
    cases data with
    | nil =>
      simp only [Inbound.rank, Inbound.receive, hphase, List.length_nil] at hrest ⊢
      omega
    | cons byte rest =>
      simp only [Inbound.rank, Inbound.receive, hphase, List.length_cons] at hrest ⊢
      omega
  | handles _ hphase hnext =>
    have hrank := Inbound.rank_handle hphase s.signal.tripped
    rw [hnext]
    omega
  | reports _ hphase hnext | crashes _ hphase hnext =>
    simp only [Inbound.rank, hphase, hnext]
    omega

theorem stepsLeft_outbound (hs : s.PipeClosed side p) (h : s.undergo p event = some (s', p')) :
    s'.stepsLeft side p' .outbound + (event.isOf .outbound).toNat ≤
      s.stepsLeft side p .outbound := by
  have hone := Bool.toNat_le (event.isOf .outbound)
  -- it suffices that the relay is one step nearer to its end
  have hnearer : s'.outbound.stepsLeft < s.outbound.stepsLeft →
      s'.stepsLeft side p' .outbound + (event.isOf .outbound).toNat ≤
        s.stepsLeft side p .outbound := by
    intro hless
    simp only [stepsLeft]
    omega
  cases outboundMove h with
  | rests hof hsame =>
    simp only [stepsLeft, hof, hsame, Bool.toNat_false, Nat.add_zero, Nat.le_refl]
  | @takes input _ hphase hnext =>
    have htake := s.outbound.stepsLeft_take input
    apply hnearer
    simp only [Outbound.stepsLeft, hphase, hnext] at htake ⊢
    omega
  | cancels _ hphase _ hnext =>
    apply hnearer
    simp [Outbound.stepsLeft, Outbound.cancel, Outbound.leave, hphase, hnext]
  | checks _ hphase hnext =>
    apply hnearer
    rw [hnext, hs.tripped, Outbound.stepsLeft_check hphase]
    simp [Outbound.stepsLeft, hphase]
  | sends _ hphase hsend hnext =>
    -- a closed pipe takes nothing, not even from a send that was waiting for room
    cases (Pipe.send_of_isClosed hs.closed s.writer _).symm.trans hsend
    apply hnearer
    rw [hnext, Outbound.stepsLeft_answer hphase (by decide)]
    simp [Outbound.stepsLeft, hphase]
  | judges _ hphase hnext =>
    apply hnearer
    rw [hnext, Outbound.stepsLeft_judge hphase]
    simp [Outbound.stepsLeft, hphase]
  | reports _ hphase hnext | crashes _ hphase hnext =>
    apply hnearer
    simp [Outbound.stepsLeft, hphase, hnext]

/-- **A step of a relay leaves it less to do, and nothing else leaves it more.** -/
theorem stepsLeft_undergo (hs : s.PipeClosed side p) (h : s.undergo p event = some (s', p'))
    (hothers : ∀ change, event = .elsewhere change → Pipe.IsStep change) (dir : Direction) :
    s'.stepsLeft side p' dir + (event.isOf dir).toNat ≤ s.stepsLeft side p dir := by
  cases dir with
  | inbound => exact hs.stepsLeft_inbound h hothers
  | outbound => exact hs.stepsLeft_outbound h

/-! ## A relay that is not gone can go on -/

theorem enabled_inbound (hs : s.PipeClosed side p) (hgone : s.gone? .inbound = none) :
    ∃ action : Action, action.relay? = some .inbound ∧ (s.step p action).isSome = true := by
  cases hphase : s.inbound.phase with
  | receiving =>
    have hready := Pipe.receive_of_isClosed hs.closed s.reader s.inbound.bufferSize
    obtain ⟨result, hreceive⟩ := Option.ne_none_iff_exists'.1 hready
    have hmedium : Medium.receive p s.reader s.inbound.bufferSize = some result := hreceive
    exact ⟨.receive, rfl, by simp [step, receive, hphase, hmedium]⟩
  | handling receipt => exact ⟨.handle, rfl, by simp [step, handle, hphase]⟩
  | leaving exit => exact ⟨.reportInbound, rfl, by simp [step, reportInbound, hphase]⟩
  | gone exit => simp [gone?, Inbound.gone?, hphase] at hgone

theorem enabled_outbound (hs : s.PipeClosed side p) (hgone : s.gone? .outbound = none) :
    ∃ action : Action, action.relay? = some .outbound ∧ (s.step p action).isSome = true := by
  cases hphase : s.outbound.phase with
  | waiting => exact ⟨.cancelInput, rfl, by simp [step, cancelInput, hphase, hs.cancelled]⟩
  | holding line => exact ⟨.checkSignal, rfl, by simp [step, checkSignal, hphase]⟩
  | sending line d =>
    have hmedium : Medium.send p s.writer d.remaining = some (.error Pipe.broken, p) :=
      Pipe.send_of_isClosed hs.closed s.writer d.remaining
    exact ⟨.send, rfl, by simp [step, send, Outbound.offer?, hphase, hmedium]⟩
  | failing fault => exact ⟨.judgeFault, rfl, by simp [step, judgeFault, hphase]⟩
  | leaving exit => exact ⟨.reportOutbound, rfl, by simp [step, reportOutbound, hphase]⟩
  | gone exit => simp [gone?, Outbound.gone?, hphase] at hgone

theorem enabled (hs : s.PipeClosed side p) {dir : Direction} (hgone : s.gone? dir = none) :
    ∃ action : Action, action.relay? = some dir ∧ (s.step p action).isSome = true := by
  cases dir with
  | inbound => exact hs.enabled_inbound hgone
  | outbound => exact hs.enabled_outbound hgone

end PipeClosed

namespace System

variable {c c' : System Pipe}

def stepsLeft (side : Pipe.Side) (c : System Pipe) : Direction → Nat :=
  c.session.stepsLeft side c.medium

/-- The session of a system has the pipe's one end, and has closed the pipe if it says so. -/
structure OnPipe (side : Pipe.Side) (c : System Pipe) : Prop where
  owns : c.medium.Owns side c.session.reader
  closed : c.session.isReleased = true → c.medium.isClosed = true
  ordered : c.session.ShutdownOrdered

namespace OnPipe

theorem init {settings : Settings} {source : Source} {sink : Sink} {stream : Nat}
    (hstream : p.Owns side stream)
    (hstart : Session.start settings source sink stream p = (.ok s, p')) :
    (System.init s p').OnPipe side := by
  refine ⟨?_, ?_, .start hstart⟩
  · obtain ⟨reader, writer, p₁, p₂, log, -, hreader, hwriter, rfl, rfl⟩ := of_start hstart
    cases hreader
    cases hwriter
    have hown := (Pipe.clone_holds hstream).1.owns
    exact (Pipe.Keeps.listen _ _).owns ((Pipe.Keeps.clone _ _).owns hown)
  · obtain ⟨reader, writer, p₁, p₂, log, -, -, -, -, rfl⟩ := of_start hstart
    intro hreleased
    cases hreleased

theorem step (hc : c.OnPipe side) {event : Event Pipe} (h : c.step event = some c')
    (hothers : ∀ change, event = .elsewhere change → Pipe.IsStep change) : c'.OnPipe side := by
  obtain ⟨hundergo, -⟩ := of_step h
  have hdrains := drains_undergo side c.session.reader hundergo hothers
  refine ⟨?_, fun hreleased => ?_, hc.ordered.undergo hundergo⟩
  · rw [(handles_undergo hundergo).1]
    exact hdrains.owns hc.owns
  · cases hbefore : c.session.isReleased with
    | true => exact hdrains.closed (hc.closed hbefore)
    | false =>
      have hnew := release_or_join_of_new hundergo (by rw [hbefore, hreleased]; decide)
      have hshut : (c.session.shutDown c.medium).isClosed = true := by
        rw [shutDown, hbefore]
        rfl
      rcases hnew with hrelease | hjoin
      · obtain ⟨after, log, -, ⟨-, hmedium, -⟩ | ⟨-, hmedium, -⟩⟩ := of_release hrelease
        · rw [hmedium, hshut]
        · rw [hmedium]
          exact (Pipe.drop_isClosed _ _).trans hshut
      · obtain ⟨initiator, inbound, outbound, log, -, -, -, hmedium, -⟩ := of_join hjoin
        rw [hmedium]
        exact (Pipe.drop_isClosed _ _).trans hshut

theorem pipeClosed (hc : c.OnPipe side) (hreleased : c.session.isReleased = true) :
    c.session.PipeClosed side c.medium := by
  have htripped := hc.ordered.released hreleased
  exact ⟨hc.closed hreleased, htripped, hc.ordered.cancelled htripped, hc.owns⟩

end OnPipe

/-! ## Runs -/

def CanMove (c : System Pipe) (dir : Direction) : Prop :=
  ∃ action : Action, action.relay? = some dir ∧ (c.step (.act action)).isSome = true

/-- A system goes on for ever, in which others use the pipe as they can. -/
structure InfiniteRun (system : Nat → System Pipe) (event : Nat → Event Pipe) : Prop where
  step : ∀ n, (system n).step (event n) = some (system (n + 1))
  others : ∀ n change, event n = .elsewhere change → Pipe.IsStep change

/-- A relay that can take a step from some moment on takes one. -/
def Fair (system : Nat → System Pipe) (event : Nat → Event Pipe) : Prop :=
  ∀ dir n, (∀ m, n ≤ m → (system m).CanMove dir) → ∃ m, n ≤ m ∧ (event m).isOf dir = true

theorem isSome_step_act (action : Action) :
    (c.step (.act action)).isSome = (c.session.step c.medium action).isSome := by
  simp [step, undergo]

theorem canMove_of_pipeClosed (hc : c.session.PipeClosed side c.medium) {dir : Direction}
    (hgone : c.session.gone? dir = none) : c.CanMove dir := by
  obtain ⟨action, hrelay, henabled⟩ := hc.enabled hgone
  exact ⟨action, hrelay, (isSome_step_act action).trans henabled⟩

/-- In a run the steps of a relay are paid for by what was left to it. -/
theorem countP_run_le {later : List (Event Pipe)}
    (hothers : ∀ change, .elsewhere change ∈ later → Pipe.IsStep change)
    (hc : c.session.PipeClosed side c.medium) (hrun : c.run later = some c') (dir : Direction) :
    later.countP (·.isOf dir) + c'.stepsLeft side dir ≤ c.stepsLeft side dir := by
  induction later generalizing c with
  | nil =>
    cases hrun
    simp
  | cons event rest ih =>
    obtain ⟨c₁, hfirst, hrest⟩ := Option.bind_eq_some_iff.1 hrun
    obtain ⟨hundergo, -⟩ := of_step hfirst
    have huse : ∀ change, event = .elsewhere change → Pipe.IsStep change := by
      rintro change rfl
      exact hothers change List.mem_cons_self
    have hfewer := hc.stepsLeft_undergo hundergo huse dir
    have hlater := ih (fun change hmem => hothers change (List.mem_cons_of_mem _ hmem))
      (hc.undergo hundergo huse) hrest
    rw [List.countP_cons]
    cases hof : event.isOf dir with
    | true =>
      simp only [stepsLeft, hof, Bool.toNat_true, if_true] at hfewer hlater ⊢
      omega
    | false =>
      simp only [stepsLeft, hof, Bool.toNat_false] at hfewer hlater ⊢
      simp only [Bool.false_eq_true, if_false]
      omega

namespace InfiniteRun

variable {system : Nat → System Pipe} {event : Nat → Event Pipe}

theorem pipeClosed (hinfinite : InfiniteRun system event)
    (hstart : (system 0).session.PipeClosed side (system 0).medium) (n : Nat) :
    (system n).session.PipeClosed side (system n).medium := by
  induction n with
  | zero => exact hstart
  | succ n ih => exact ih.undergo (of_step (hinfinite.step n)).1 (hinfinite.others n)

theorem stepsLeft_antitone (hinfinite : InfiniteRun system event)
    (hstart : (system 0).session.PipeClosed side (system 0).medium) (dir : Direction) :
    Antitone fun n => (system n).stepsLeft side dir := by
  refine antitone_nat_of_succ_le fun n => ?_
  have hstep := (hinfinite.pipeClosed hstart n).stepsLeft_undergo (of_step (hinfinite.step n)).1
    (hinfinite.others n) dir
  exact (Nat.le_add_right _ _).trans hstep

theorem gone_mono (hinfinite : InfiniteRun system event) {dir : Direction} {n m : Nat} (hle : n ≤ m)
    (hgone : (system n).session.gone? dir ≠ none) : (system m).session.gone? dir ≠ none := by
  induction hle with
  | refl => exact hgone
  | @step m _ ih =>
    obtain ⟨exit, hexit⟩ := Option.ne_none_iff_exists'.1 ih
    rw [gone?_mono (of_step (hinfinite.step m)).1 hexit]
    exact Option.some_ne_none exit

/-- A relay that gets its turns is gone some time: it could go on until then, and each of its steps
takes something of what is left to it. -/
theorem exists_gone (hinfinite : InfiniteRun system event) (hfair : Fair system event)
    (hstart : (system 0).session.PipeClosed side (system 0).medium) (dir : Direction) (n : Nat) :
    ∃ m, (system m).session.gone? dir ≠ none := by
  induction hleft : (system n).stepsLeft side dir using Nat.strong_induction_on generalizing n with
  | _ k ih =>
    by_contra hnever
    have hpresent : ∀ m, (system m).session.gone? dir = none := by
      intro m
      by_contra hgone
      exact hnever ⟨m, hgone⟩
    obtain ⟨m, hle, hof⟩ := hfair dir n fun m _ =>
      canMove_of_pipeClosed (hinfinite.pipeClosed hstart m) (hpresent m)
    have hless := (hinfinite.pipeClosed hstart m).stepsLeft_undergo (of_step (hinfinite.step m)).1
      (hinfinite.others m) dir
    have hdrains : (system m).stepsLeft side dir ≤ (system n).stepsLeft side dir :=
      hinfinite.stepsLeft_antitone hstart dir hle
    rw [hof, Bool.toNat_true] at hless
    have hdown : (system (m + 1)).stepsLeft side dir < k := by
      rw [← hleft]
      exact Nat.lt_of_lt_of_le hless hdrains
    exact hnever (ih _ hdown (m + 1) rfl)

theorem eventually_gone (hinfinite : InfiniteRun system event) (hfair : Fair system event)
    (hstart : (system 0).session.PipeClosed side (system 0).medium) :
    ∃ n, ∀ m, n ≤ m → ∀ dir, (system m).session.gone? dir ≠ none := by
  obtain ⟨i, hinbound⟩ := hinfinite.exists_gone hfair hstart .inbound 0
  obtain ⟨o, houtbound⟩ := hinfinite.exists_gone hfair hstart .outbound 0
  refine ⟨max i o, fun m hle dir => ?_⟩
  cases dir with
  | inbound => exact hinfinite.gone_mono ((Nat.le_max_left i o).trans hle) hinbound
  | outbound => exact hinfinite.gone_mono ((Nat.le_max_right i o).trans hle) houtbound

end InfiniteRun

/-- **Once a session has closed its pipe, its relays leave, whatever anybody does with the pipe.** A
relay that is not gone can take a step; its steps are no more than what is left to it, and no other
event adds to that. If both get their turns both are gone in the end, and nothing keeps the
coordinator from joining them. -/
theorem relays_leave_once_released {settings : Settings} {source : Source} {sink : Sink}
    {stream : Nat} {p : Pipe} {side : Pipe.Side} (hstream : p.Owns side stream)
    {events : List (Event Pipe)}
    (hothers : ∀ change, .elsewhere change ∈ events → Pipe.IsStep change) {c : System Pipe}
    (hexec : exec settings source sink stream p events = some c)
    (hreleased : c.session.isReleased = true) :
    (∀ dir, c.session.gone? dir = none → c.CanMove dir) ∧
    (∀ later c', (∀ change, .elsewhere change ∈ later → Pipe.IsStep change) →
      c.run later = some c' →
      ∀ dir, later.countP (·.isOf dir) + c'.stepsLeft side dir ≤ c.stepsLeft side dir) ∧
    (∀ system event, system 0 = c → InfiniteRun system event → Fair system event →
      ∃ n, ∀ m, n ≤ m → ∀ dir, (system m).session.gone? dir ≠ none) ∧
    (∀ initiator, c.session.coordinator = .joining initiator →
      (∀ dir, c.session.gone? dir ≠ none) → (c.step (.act .join)).isSome = true) := by
  obtain ⟨s, p', hstart, hrun⟩ := of_exec hexec
  have hpiped : c.OnPipe side := by
    refine run_keeps (P := OnPipe side) ?_ (.init hstream hstart) hrun
    intro event hmem c c' hc hstep
    exact hc.step hstep fun change heq => hothers change (heq ▸ hmem)
  have hpipeClosed := hpiped.pipeClosed hreleased
  refine ⟨fun dir => canMove_of_pipeClosed hpipeClosed, ?_, ?_, ?_⟩
  · intro later c' huses hlater
    exact countP_run_le huses hpipeClosed hlater
  · rintro system event rfl hinfinite hfair
    exact hinfinite.eventually_gone hfair hpipeClosed
  · intro initiator hjoining hgone
    exact (isSome_step_act .join).trans (enabled_join hjoining hgone)

/-- There is room for one piece either way, and the writer's are of one byte: a piece waits to be
read, and a line is stuck half sent. -/
def halfSent (later : List (Event Pipe)) : Option (System Pipe) :=
  exec {} (.ofLines ["hi"]) {} 0 { capacity := some 1 }
    ([.elsewhere fun p => (Scenario.PipeStep.attempt 1 p (.send [0x78])).pipe,
      .elsewhere fun p => (Scenario.PipeStep.attempt 3 p (.limit 1)).pipe,
      .act .readInput, .act .takeInput, .act .checkSignal, .act .send] ++ later)

theorem relays_leave_once_released_half_sent :
    (halfSent []).any (fun c => c.session.outbound.offer? = some [0x69] &&
      (c.step (.act .send)).isNone) = true ∧
    ∃ c, halfSent [.close, .act .trip, .act .release] = some c ∧ (∀ dir, c.CanMove dir) ∧
      ∀ later c', (∀ change, .elsewhere change ∈ later → Pipe.IsStep change) →
        c.run later = some c' →
        later.countP (·.isOf .inbound) ≤ 5 ∧ later.countP (·.isOf .outbound) ≤ 3 := by
  refine ⟨by decide +kernel, ?_⟩
  obtain ⟨c, hexec⟩ := Option.isSome_iff_exists.1
    (show (halfSent [.close, .act .trip, .act .release]).isSome by decide +kernel)
  have hfacts : (halfSent [.close, .act .trip, .act .release]).map (fun c =>
      (c.session.isReleased, c.session.gone? .inbound, c.session.gone? .outbound,
        c.stepsLeft .a .inbound, c.stepsLeft .a .outbound)) = some (true, none, none, 5, 3) := by
    decide +kernel
  rw [hexec] at hfacts
  simp only [Option.map_some, Option.some.injEq, Prod.mk.injEq] at hfacts
  obtain ⟨hreleased, hinbound, houtbound, hleftIn, hleftOut⟩ := hfacts
  have hstream : Pipe.Owns { capacity := some 1 } .a 0 := ⟨_, rfl, rfl⟩
  obtain ⟨hmove, hcount, -⟩ := relays_leave_once_released hstream (fun change hmem => by
    obtain rfl | rfl := by simpa using hmem
    · exact ⟨1, .send [0x78], rfl⟩
    · exact ⟨3, .limit 1, rfl⟩) hexec hreleased
  refine ⟨c, hexec, fun dir => ?_, fun later c' huses hrun => ?_⟩
  · cases dir with
    | inbound => exact hmove .inbound hinbound
    | outbound => exact hmove .outbound houtbound
  · have hin := hcount later c' huses hrun .inbound
    have hout := hcount later c' huses hrun .outbound
    omega

end System

end Session

end TextRelay
