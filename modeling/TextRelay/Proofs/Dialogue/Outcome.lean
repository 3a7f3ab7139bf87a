import TextRelay.Proofs.Dialogue.OneWay
import TextRelay.Proofs.Session.Quiescence

/-!
# The outcome of a dialogue in which one end sends

Every move of such a dialogue lowers its rank, so it goes on for so many moves at most, whoever
makes them. The sender needs nobody else to come to its end, and closes the pipe on its way; that
brings the receiver to its end too. So when no move is left, both sessions have reported. Whatever
the order was, the reports say the same, and so does what the receiver was shown.
-/

namespace TextRelay

open Pipe

namespace Dialogue

/-- Settings that are in order at both ends, some lines for one end to say, and for the other one an
input that stays silent and a sink that never breaks down. -/
structure OneWaySpec (specs : Side → EndSpec) (me : Side) (lines : List String) : Prop where
  valid : ∀ side, (specs side).settings.validate = .ok ()
  buffer : ∀ side, (specs side).settings.chunkSize.toNat ≤ Inbound.maxBuffer
  source : (specs me).source.Yields (specs me).settings.sentinel lines
  silent : (specs me.other).source.read = none
  sink : (specs me.other).sink.NeverBreaks

variable {specs : Side → EndSpec} {me side : Side} {lines : List String} {t : Progress}
    {d d' : Dialogue}
  {s : Session} {report : Report}

/-! ## Every run -/

theorem OneWay.fresh (specs : Side → EndSpec) (me : Side) (lines : List String) :
    OneWay specs me lines ⟨[], lines, []⟩ { pipe := {} } where
  sound := Sound.initial none fun _ => none
  capacity := rfl
  senderEnd s hs := by cases hs
  senderUnstarted _ := by
    refine ⟨rfl, rfl, { side := me }, ?_, rfl⟩
    cases me <;> rfl
  receiverEnd s hs := by cases hs
  receiverUnstarted _ := rfl
  stream := backlog_of_unread_nil (Sound.fresh none) (by cases me <;> rfl)
  quiet := by cases me <;> rfl
  closed hclosed := by cases hclosed

theorem OneWay.step (hspecs : OneWaySpec specs me lines) (hd : OneWay specs me lines t d)
    {move : Move} (hmove : move.onlyWaits = true) (h : d.step specs side move = some d') :
    ∃ t', OneWay specs me lines t' d' ∧ rank me t' d' < rank me t d := by
  by_cases hside : side = me
  · subst hside
    obtain ⟨s, p, hnone, -, hstart, rfl⟩ | ⟨s, s', p, hs, hmoved, rfl⟩ := step_cases h
    · exact hd.senderEnd_enters hnone (hspecs.buffer side) hspecs.source hstart
    · cases move with
      | start => cases hmoved
      | close | drop => cases hmove
      | wait =>
        obtain ⟨hwait, rfl⟩ := Session.of_map hmoved
        exact hd.senderEnd_waits hs hwait
      | act action => exact hd.send_line hs hmoved
  · obtain rfl := Side.eq_other_of_ne hside
    obtain ⟨s, p, hnone, -, hstart, rfl⟩ | ⟨s, s', p, hs, hmoved, rfl⟩ := step_cases h
    · exact hd.receiverEnd_enters hnone (hspecs.buffer me.other) hspecs.silent hspecs.sink hstart
    · cases move with
      | start => cases hmoved
      | close | drop => cases hmove
      | wait =>
        obtain ⟨hwait, rfl⟩ := Session.of_map hmoved
        exact hd.receiverEnd_waits hs hwait
      | act action => exact hd.listen hs hmoved

theorem OneWay.run (hspecs : OneWaySpec specs me lines) :
    ∀ {moves : List (Side × Move)} {d : Dialogue} {t : Progress}, OneWay specs me lines t d →
      (∀ m ∈ moves, m.2.onlyWaits = true) → run specs d moves = some d' →
      ∃ t', OneWay specs me lines t' d' ∧ moves.length + rank me t' d' ≤ rank me t d := by
  intro moves
  induction moves with
  | nil =>
    intro d t hd _ hrun
    cases hrun
    exact ⟨t, hd, by simp⟩
  | cons first rest ih =>
    intro d t hd hwaits hrun
    obtain ⟨d₁, hfirst, hrest⟩ := Option.bind_eq_some_iff.1 hrun
    obtain ⟨t₁, hd₁, hrank₁⟩ := hd.step hspecs (hwaits first List.mem_cons_self) hfirst
    obtain ⟨t', hd', hrank⟩ := ih hd₁ (fun m hm => hwaits m (List.mem_cons_of_mem _ hm)) hrest
    refine ⟨t', hd', ?_⟩
    rw [List.length_cons]
    omega

/-! ## When no move is left -/

/-- No session can be started or waited for any more, and none goes on by itself. -/
def Quiescent (specs : Side → EndSpec) (d : Dialogue) : Prop :=
  ∀ side move, move.onlyWaits = true → d.step specs side move = none

theorem Quiescent.started (h : d.Quiescent specs)
    (hvalid : (specs side).settings.validate = .ok ()) : ∃ s, d.session? side = some s := by
  cases hs : d.session? side with
  | some s => exact ⟨s, rfl⟩
  | none =>
    have hstart := h side .start rfl
    simp [step, hs, EndSpec.enter, Session.start, hvalid, Medium.clone] at hstart

theorem Quiescent.session (h : d.Quiescent specs) (hs : d.session? side = some s) :
    s.Quiescent d.pipe ∧ s.coordinator ≠ .idle := by
  refine ⟨?_, ?_⟩
  · intro action
    have hact := h side (.act action) rfl
    simpa [step, hs, Session.move] using hact
  · intro hidle
    have hwait := h side .wait rfl
    simp [step, hs, Session.move, Session.callWait, hidle] at hwait

namespace OneWay

/-- The sender comes to its end by itself, and has closed the pipe by then. -/
theorem senderEnd_finished (hd : OneWay specs me lines t d) (hquiescent : d.Quiescent specs)
    (hs : d.session? me = some s) :
    d.pipe.isClosed = true ∧ ∃ report, s.report? = some report := by
  obtain ⟨hrest, hcalled⟩ := hquiescent.session hs
  have hsenderEnd := hd.senderEnd s hs
  have honEnd := hd.sound.onEnd me s hs
  obtain ⟨outbound, hout⟩ := hrest.outbound_gone hsenderEnd.senderInv
    fun data hoffer hdata hnone => by
    have hsend := hd.send_eq hs hoffer hdata
    rw [show d.pipe.send s.writer data = none from hnone] at hsend
    cases hsend
  have hreleased := hrest.released hsenderEnd.led hcalled hout
  have hclosed := honEnd.closed (.inl hreleased)
  obtain ⟨inbound, hin⟩ := hrest.inbound_gone (receive_of_isClosed hclosed _ _)
  exact ⟨hclosed, hrest.reported hsenderEnd.led hreleased hin hout⟩

/-- The receiver comes to its end once the pipe is closed. -/
theorem receiverEnd_finished (hd : OneWay specs me lines t d) (hquiescent : d.Quiescent specs)
    (hs : d.session? me.other = some s) (hclosed : d.pipe.isClosed = true) :
    ∃ report, s.report? = some report := by
  obtain ⟨hrest, hcalled⟩ := hquiescent.session hs
  have hreceiverEnd := hd.receiverEnd s hs
  obtain ⟨inbound, hin⟩ := hrest.inbound_gone (receive_of_isClosed hclosed _ _)
  have hreleased := hrest.released hreceiverEnd.led hcalled hin
  have htripped := (hreceiverEnd.led.of_released hreleased).1
  have hcancelled := hreceiverEnd.led.cancelled.trans (hreceiverEnd.led.tripped.symm.trans htripped)
  obtain ⟨outbound, hout⟩ := hrest.outbound_cancelled hreceiverEnd.sendsNothing hcancelled
  exact hrest.reported hreceiverEnd.led hreleased hin hout

theorem finished (hspecs : OneWaySpec specs me lines) (hd : OneWay specs me lines t d)
    (hquiescent : d.Quiescent specs) (side : Side) :
    ∃ s report, d.session? side = some s ∧ s.report? = some report := by
  obtain ⟨senderEnd, hsenderEnd⟩ := hquiescent.started (hspecs.valid me)
  obtain ⟨hclosed, hreport⟩ := hd.senderEnd_finished hquiescent hsenderEnd
  by_cases hside : side = me
  · subst hside
    obtain ⟨report, hreport⟩ := hreport
    exact ⟨senderEnd, report, hsenderEnd, hreport⟩
  · obtain rfl := Side.eq_other_of_ne hside
    obtain ⟨receiverEnd, hreceiverEnd⟩ := hquiescent.started (hspecs.valid me.other)
    obtain ⟨report, hreport⟩ := hd.receiverEnd_finished hquiescent hreceiverEnd hclosed
    exact ⟨receiverEnd, report, hreceiverEnd, hreport⟩

/-! ## The reports -/

/-- The sender's outbound relay has sent the lines that are due by the time that it is gone. -/
theorem sent_of_gone (hd : OneWay specs me lines t d) (hs : d.session? me = some s) {exit : Exit}
    (hgone : s.gone? .outbound = some exit) :
    t.sent = linesToSend (specs me).settings.sentinel lines ∧
      exit = finalExit (specs me).settings.sentinel lines := by
  have hphaseInv := (hd.senderEnd s hs).senderInv.phaseInv
  rw [Outbound.gone?_eq_some_iff.1 hgone] at hphaseInv
  exact hphaseInv

theorem senderEnd_report (hd : OneWay specs me lines t d) (hs : d.session? me = some s)
    (hreport : s.report? = some report) :
    report.initiator = report.outbound ∧
      report.outbound = finalExit (specs me).settings.sentinel lines ∧
      report.inbound.cause = .cancelled ∧
      report.stages = [.connected, .shuttingDown, .closed] ∧ report.exitCode = 0 := by
  have hsenderEnd := hd.senderEnd s hs
  obtain ⟨hinit, hin, hout, hstages⟩ := hsenderEnd.led.of_report hreport
  have hinbound := (hsenderEnd.receivesNothing.exit (Session.exit?_of_gone? hin)).1
  have houtbound := (hd.sent_of_gone hs hout).2
  have hcause : report.outbound.cause ≠ .panicked := by
    rw [houtbound, finalExit]
    dsimp only
    split <;> simp
  refine ⟨Option.some.inj (hinit.symm.trans hout), houtbound, by rw [hinbound], hstages, ?_⟩
  simp [Report.exitCode, Report.isClean, hinbound, hcause]

/-- When the receiver's inbound relay is gone, all lines that are due were shown. -/
theorem received_of_gone (hd : OneWay specs me lines t d) (hs : d.session? me.other = some s)
    {exit : Exit} (hgone : s.gone? .inbound = some exit) :
    t.shown = pieces (specs me.other).settings.chunkSize.toNat
      (linesToSend (specs me).settings.sentinel lines) := by
  -- The pipe is closed, so the sender has nothing more to send; and nothing is left in the pipe.
  obtain ⟨hclosed, hunread⟩ :=
    (hd.sound.onEnd me.other s hs).drained (Session.exit?_of_gone? hgone)
  obtain ⟨senderEnd, hsenderEnd, hreleased⟩ := hd.closed hclosed
  obtain ⟨_, hout⟩ := ((hd.senderEnd senderEnd hsenderEnd).led.of_released hreleased).2
  have hinHand : s.inHand = [] := by simp [Session.inHand, Inbound.gone?_eq_some_iff.1 hgone]
  have hstream := hd.stream
  rwa [inHand_eq hs, reader_eq hs, hinHand, backlog_of_unread_nil hd.sound.pipe hunread,
    List.append_nil, List.append_nil, (hd.sent_of_gone hsenderEnd hout).1] at hstream

theorem receiverEnd_report (hspecs : OneWaySpec specs me lines) (hd : OneWay specs me lines t d)
    (hs : d.session? me.other = some s) (hreport : s.report? = some report) :
    report.initiator = report.inbound ∧
      report.inbound = ⟨.inbound, .peerClosed,
        (encodeAll (linesToSend (specs me).settings.sentinel lines)).length⟩ ∧
      report.outbound.cause = .cancelled ∧
      s.inbound.sink.offered = (specs me.other).sink.offered ++
        (pieces (specs me.other).settings.chunkSize.toNat
          (linesToSend (specs me).settings.sentinel lines)).map Chunk.shown ∧
      report.stages = [.connected, .shuttingDown, .closed] ∧ report.exitCode = 0 := by
  have hreceiverEnd := hd.receiverEnd s hs
  obtain ⟨hinit, hin, hout, hstages⟩ := hreceiverEnd.led.of_report hreport
  have hshown := hd.received_of_gone hs hin
  have hinbound := hreceiverEnd.receiverInv.exit _ (Session.exit?_of_gone? hin)
  have houtbound := (hreceiverEnd.sendsNothing.exit (Session.exit?_of_gone? hout)).1
  have hoffered := hreceiverEnd.receiverInv.offered
  rw [hshown] at hoffered
  rw [hshown, flatten_pieces (Settings.chunkSize_pos (hspecs.valid me.other))] at hinbound
  refine ⟨Option.some.inj (hinit.symm.trans hin), hinbound, by rw [houtbound], hoffered, hstages,
    ?_⟩
  simp [Report.exitCode, Report.isClean, hinbound, houtbound]

end OneWay

/-- **If one end is given some lines, and the other one has nothing to say, the outcome does not
depend on the order of events.** The dialogue is over after so many moves at most, and when no move
is left, both sessions have reported. The sender was ended by the sentinel, or else by the end of
its input; the receiver, by its peer. Both count the bytes of the lines up to the first sentinel,
and the receiver was shown these, line by line, in pieces that fit its buffer. -/
theorem reports_of_oneWay (hspecs : OneWaySpec specs me lines) (moves : List (Side × Move))
    (hwaits : ∀ m ∈ moves, m.2.onlyWaits = true)
    (hrun : run specs { pipe := {} } moves = some d) :
    moves.length ≤ 2 * (encodeAll lines).length + 4 * lines.length + 28 ∧
    (d.Quiescent specs → ∀ side, ∃ s report, d.session? side = some s ∧ s.report? = some report) ∧
    (∀ s report, d.session? me = some s → s.report? = some report →
      report.initiator = report.outbound ∧
      report.outbound = ⟨.outbound,
        if (specs me).settings.sentinel ∈ lines then .localSentinel else .inputClosed,
        (encodeAll (linesToSend (specs me).settings.sentinel lines)).length⟩ ∧
      report.inbound.cause = .cancelled ∧
      report.stages = [.connected, .shuttingDown, .closed] ∧ report.exitCode = 0) ∧
    (∀ s report, d.session? me.other = some s → s.report? = some report →
      report.initiator = report.inbound ∧
      report.inbound = ⟨.inbound, .peerClosed,
        (encodeAll (linesToSend (specs me).settings.sentinel lines)).length⟩ ∧
      report.outbound.cause = .cancelled ∧
      s.inbound.sink.offered = (specs me.other).sink.offered ++
        (pieces (specs me.other).settings.chunkSize.toNat
          (linesToSend (specs me).settings.sentinel lines)).map Chunk.shown ∧
      report.stages = [.connected, .shuttingDown, .closed] ∧ report.exitCode = 0) := by
  have hfresh := OneWay.fresh specs me lines
  obtain ⟨t, hd, hrank⟩ := hfresh.run hspecs hwaits hrun
  have hfirst : rank me ⟨[], lines, []⟩ { pipe := {} } = cost lines + 28 := by
    cases me <;> rfl
  refine ⟨?_, hd.finished hspecs, ?_, ?_⟩
  · rw [hfirst, cost] at hrank
    omega
  · intro s report hs hreport
    exact hd.senderEnd_report hs hreport
  · intro s report hs hreport
    exact hd.receiverEnd_report hspecs hs hreport

/-- One end says a line that the other one's buffer cuts in the middle of a character, an empty
line, and the sentinel; after that its input breaks down. -/
def parting : Side → EndSpec
  | .a => {
      source := .queue [.event (.line "hé"), .event (.line ""), .event (.line "end"), .broke] true
      settings := { sentinel := "end" } }
  | .b => { source := .queue [] true, settings := { chunkSize := 2 } }

/-- The receiver is slow: the sender has reported before the first piece is shown. -/
def partingMoves : List (Side × Move) :=
  [(.a, .start), (.a, .act .readInput), (.a, .act .takeInput), (.a, .act .checkSignal),
    (.b, .start), (.b, .wait), (.a, .act .send), (.b, .act .receive), (.a, .act .readInput),
    (.a, .act .takeInput), (.a, .act .checkSignal), (.a, .act .readInput), (.a, .act .takeInput),
    (.a, .act .checkSignal), (.a, .act .send), (.a, .act .reportOutbound), (.a, .act .readInput),
    (.a, .wait), (.a, .act .takeFirst), (.a, .act .trip), (.a, .act .release), (.a, .act .receive),
    (.a, .act .handle), (.a, .act .reportInbound), (.a, .act .join), (.b, .act .handle),
    (.b, .act .receive), (.b, .act .handle), (.b, .act .receive), (.b, .act .handle),
    (.b, .act .receive), (.b, .act .handle), (.b, .act .receive), (.b, .act .handle),
    (.b, .act .reportInbound), (.b, .act .takeFirst), (.b, .act .trip), (.b, .act .cancelInput),
    (.b, .act .release), (.b, .act .reportOutbound), (.b, .act .join)]

theorem parting_oneWay : OneWaySpec parting .a ["hé", "", "end"] where
  valid side := by cases side <;> rfl
  buffer side := by cases side <;> decide
  source := ⟨_, rfl, .inr ⟨_, rfl, .inr ⟨_, rfl, .inl rfl⟩⟩⟩
  silent := rfl
  sink := fun _ _ => by simp [parting, Side.other]

theorem parting_quiescent :
    ∃ d, run parting { pipe := {} } partingMoves = some d ∧ d.Quiescent parting := by
  obtain ⟨d, hrun⟩ : ∃ d, run parting { pipe := {} } partingMoves = some d :=
    Option.isSome_iff_exists.1 (by decide +kernel)
  refine ⟨d, hrun, ?_⟩
  intro side move _
  have hnone : ((run parting { pipe := {} } partingMoves).bind fun d =>
      d.step parting side move).isNone := by
    cases side <;> cases move with
    | act action => cases action <;> decide +kernel
    | start | close | wait | drop => decide +kernel
  rw [hrun] at hnone
  exact Option.isNone_iff_eq_none.1 hnone

theorem reports_of_oneWay_parting :
    ∃ d first second senderEnd receiverEnd,
      run parting { pipe := {} } partingMoves = some d ∧ d.Quiescent parting ∧
      d.session? .a = some first ∧ first.report? = some senderEnd ∧
      d.session? .b = some second ∧ second.report? = some receiverEnd ∧
      senderEnd.initiator = ⟨.outbound, .localSentinel, 6⟩ ∧
      receiverEnd.initiator = ⟨.inbound, .peerClosed, 6⟩ ∧
      second.inbound.sink.offered = ["h\uFFFD", "\uFFFD", "en", "d"] := by
  obtain ⟨d, hrun, hquiescent⟩ := parting_quiescent
  obtain ⟨-, hfinished, hsenderEnd, hreceiverEnd⟩ :=
    reports_of_oneWay parting_oneWay partingMoves (by decide) hrun
  obtain ⟨first, senderEnd, hfirst, hreport⟩ := hfinished hquiescent .a
  obtain ⟨second, receiverEnd, hsecond, hreport'⟩ := hfinished hquiescent .b
  obtain ⟨hinit, hout, -⟩ := hsenderEnd first senderEnd hfirst hreport
  obtain ⟨hinit', hin, -, hoffered, -⟩ := hreceiverEnd second receiverEnd hsecond hreport'
  refine ⟨d, first, second, senderEnd, receiverEnd, hrun, hquiescent, hfirst, hreport, hsecond,
    hreport', ?_, ?_, ?_⟩
  · rw [hinit, hout]
    decide +kernel
  · rw [hinit', hin]
    decide +kernel
  · rw [hoffered]
    decide +kernel

end Dialogue

end TextRelay
