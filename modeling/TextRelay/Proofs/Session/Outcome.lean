import TextRelay.Proofs.Session.FirstReport

/-!
# Who ended the session

The line that tells how a session ended goes by the exit of the relay that was the first to report.
What the line can be is therefore read off the observations that were made before that report.
-/

namespace TextRelay

/-- The end is neither of the local user's making nor worth a warning. -/
def Cause.isPeerDeparture (cause : Cause) : Bool := !cause.isLocal && !cause.isUnexpected

theorem Report.message_outcome (r : Report) : r.outcome.message =
    if r.initiator.cause.isLocal then "session ended locally"
    else if r.initiator.cause.isUnexpected then "connection lost" else "peer disconnected" := by
  unfold outcome endedLocally
  cases r.initiator.cause.isLocal with
  | true => simp
  | false => cases hwarn : r.initiator.cause.isUnexpected <;> simp [hwarn]

theorem Report.message_local_iff (r : Report) :
    r.outcome.message = "session ended locally" ↔ r.initiator.cause.isLocal = true := by
  rw [message_outcome]
  cases r.initiator.cause.isLocal with
  | true => simp
  | false => cases r.initiator.cause.isUnexpected <;> simp

theorem Report.message_peer_iff (r : Report) :
    r.outcome.message = "peer disconnected" ↔ r.initiator.cause.isPeerDeparture = true := by
  rw [message_outcome, Cause.isPeerDeparture]
  cases r.initiator.cause.isLocal with
  | true => simp
  | false => cases r.initiator.cause.isUnexpected <;> simp

namespace Session

variable {κ : Type} [Medium κ] {s : Session} {w w' : κ} {event : Event κ}

/-! ## What the causes say -/

/-- The peer has ended its stream, or a call on it has failed in one of the ways in which peers
disappear. -/
def PeerLeft (dir : Direction) (observations : List Observation) : Prop :=
  dir = .inbound ∧ .peerClosed ∈ observations ∨
    ∃ kind, .failed dir kind ∈ observations ∧ Closure.classify kind false = .expected

theorem classify_of_expected {kind : FaultKind} (hkind : Closure.classify kind false = .expected)
    (tripped : Bool) : Closure.classify kind tripped = .expected := by
  cases tripped with
  | true => rfl
  | false => exact hkind

namespace Justified

variable {dir : Direction} {cause : Cause} {own : List Observation}

theorem isLocal_iff (hw : Justified dir cause own) :
    cause.isLocal = true ↔ dir = .outbound ∧ (.sentinelSent ∈ own ∨ .inputEnded ∈ own) := by
  cases hw <;> simp [Cause.isLocal]

theorem isPeerDeparture_of_peerLeft (hw : Justified dir cause own) (hleft : PeerLeft dir own) :
    cause.isPeerDeparture = true := by
  cases hw with
  | streamFault dir kind tripped =>
    have hkind : Closure.classify kind false = .expected := by simpa [PeerLeft] using hleft
    rw [classify_of_expected hkind tripped]
    rfl
  | streamEnd | severedFault | earlyEnd | severedEnd | cancelled => rfl
  | sentinel | inputEnd | inputFault | breakdown => simp [PeerLeft] at hleft

/-- Without a shutdown, a departure of the peer was observed. -/
theorem peerLeft_of_isPeerDeparture (hw : Justified dir cause own)
    (hdeparture : cause.isPeerDeparture = true)
    (huntripped : cause.Untripped) (hunsevered : .severed dir ∉ own) : PeerLeft dir own := by
  cases hw with
  | streamEnd => exact .inl ⟨rfl, List.mem_singleton.2 rfl⟩
  | streamFault dir kind tripped =>
    refine .inr ⟨kind, List.mem_singleton.2 rfl, ?_⟩
    rw [huntripped.closure kind _ rfl] at hdeparture
    cases hclosure : Closure.classify kind false with
    | expected => rfl
    | unexpected =>
      rw [hclosure] at hdeparture
      cases hdeparture
  | earlyEnd | cancelled => exact absurd rfl huntripped.uncancelled
  | severedFault | severedEnd => exact absurd (List.mem_singleton.2 rfl) hunsevered
  | sentinel | inputEnd | inputFault | breakdown => cases hdeparture

/-- What else goes with the cause of a departure is a fault or the session's own shutdown. -/
theorem severed_or_failed (hw : Justified dir cause own) (hdeparture : cause.isPeerDeparture = true)
    (hleft : ¬ PeerLeft dir own) {seen : Observation} (hseen : seen ∈ own) :
    seen = .severed dir ∨ ∃ kind, seen = .failed dir kind := by
  cases hw with
  | streamEnd | earlyEnd => exact absurd (.inl ⟨rfl, List.mem_singleton.2 rfl⟩) hleft
  | streamFault dir kind => exact .inr ⟨kind, List.mem_singleton.1 hseen⟩
  | severedFault | severedEnd => exact .inl (List.mem_singleton.1 hseen)
  | cancelled => cases hseen
  | sentinel | inputEnd | inputFault | breakdown => cases hdeparture

/-- A relay that only the session's own shutdown can have ended has ended as if the peer had
departed, and knew of it. -/
theorem of_severed (hw : Justified dir cause own) (hown : ∀ seen ∈ own, seen = .severed dir)
    (hwhole : cause ≠ .panicked) :
    cause.isPeerDeparture = true ∧ (cause = .cancelled ∨ .severed dir ∈ own) := by
  cases hw with
  | severedFault | severedEnd => exact ⟨rfl, .inr (List.mem_singleton.2 rfl)⟩
  | cancelled => exact ⟨rfl, .inl rfl⟩
  | breakdown => exact absurd rfl hwhole
  | sentinel | inputEnd | inputFault | streamEnd | streamFault | earlyEnd =>
    cases hown _ (List.mem_singleton.2 rfl)

end Justified

/-! ## The outcome -/

namespace System

variable {c c' : System κ}

/-- What is known of a system from the observations so far. -/
structure TraceSound (past : List Observation) (c : System κ) : Prop where
  reports : c.session.ReportsSound
  exits : c.ExitsSound
  ordered : c.session.ShutdownOrdered
  traced : ∀ dir, c.session.Traced dir (ofRelay dir past)
  stage : NoneReported past c.session ∨ ∃ before dir exit,
    FirstReported past c.session before dir exit

theorem TraceSound.init {settings : Settings} {source : Source} {sink : Sink} {stream : Nat}
    (h : Session.start settings source sink stream w = (.ok s, w')) :
    TraceSound [] (System.init s w') where
  reports := .start h
  exits := .init h
  ordered := .start h
  traced dir := by
    obtain ⟨reader, writer, w₁, w₂, log, -, -, -, -, rfl⟩ := of_start h
    cases dir with
    | inbound =>
      simp only [Traced, System.init, Inbound.start]
      split
      · exact .receiving
      · exact .leaving (.breakdown .inbound)
    | outbound => exact .waiting
  stage := .inl (.start h)

theorem TraceSound.step {past : List Observation} (hc : TraceSound past c)
    (h : c.step event = some c') :
    TraceSound (past ++ c.session.observations c.medium event) c' := by
  obtain ⟨hundergo, -⟩ := of_step h
  refine ⟨hc.reports.undergo hundergo, hc.exits.step h, hc.ordered.undergo hundergo, ?_, ?_⟩
  · intro dir
    rw [ofRelay, List.filter_append]
    exact traced_undergo hc.ordered (hc.traced dir) hundergo
  · rcases hc.stage with hnoneReported | ⟨before, dir, exit, hfirstReported⟩
    · cases hown : event.isCoordination with
      | true => exact .inl (hnoneReported.controlStep hc.reports hc.ordered hundergo hown)
      | false => exact hnoneReported.relay hc.reports hc.ordered hc.traced hundergo hown
    · exact .inr ⟨before, dir, exit, hfirstReported.undergo hundergo⟩

/-- The observations of a session from its start. -/
def execTrace (settings : Settings) (source : Source) (sink : Sink) (stream : Nat) (w : κ)
    (events : List (Event κ)) : List Observation :=
  match Session.start settings source sink stream w with
  | (.ok s, w) => (init s w).trace events
  | (.error _, _) => []

theorem traceSound_of_exec {settings : Settings} {source : Source} {sink : Sink} {stream : Nat}
    {events : List (Event κ)} (hexec : exec settings source sink stream w events = some c) :
    TraceSound (execTrace settings source sink stream w events) c := by
  obtain ⟨s, w', hstart, hrun⟩ := of_exec hexec
  have hsound := run_trace (P := TraceSound) (fun past c c' event hc h => hc.step h)
    (.init hstart) hrun
  rwa [List.nil_append, ← show execTrace settings source sink stream w events =
    (System.init s w').trace events by rw [execTrace, hstart]] at hsound

theorem mem_ofRelay {dir : Direction} {seen : Observation} {observations : List Observation}
    (hseen : seen.relay? = some dir) : seen ∈ ofRelay dir observations ↔ seen ∈ observations := by
  rw [ofRelay, List.mem_filter, and_iff_left (decide_eq_true hseen)]

theorem peerLeft_ofRelay {dir : Direction} {observations : List Observation} :
    PeerLeft dir (ofRelay dir observations) ↔ PeerLeft dir observations := by
  refine or_congr (and_congr_right ?_) (exists_congr fun kind => and_congr_left fun _ => ?_)
  · rintro rfl
    exact mem_ofRelay rfl
  · exact mem_ofRelay rfl

/-- **The outcome tells what ended the relay that was the first to report,** whatever interleaving,
medium, input and breakdowns a session went through. It says that the session ended locally exactly
if that relay had sent the sentinel or had come to the end of the input. It says that the peer
disconnected if the peer did; but it says the same if the owner had called for a close and nothing
but the session's own shutdown had happened to the relay, and only after such a call can it say so
although the peer did not. -/
theorem outcome_of_first_end {settings : Settings} {source : Source} {sink : Sink} {stream : Nat}
    {events : List (Event κ)} (hexec : exec settings source sink stream w events = some c)
    {report : Report} (hreport : c.session.report? = some report) :
    ∃ before dir rest,
      execTrace settings source sink stream w events = before ++ .reported dir :: rest ∧
      (∀ x, .reported x ∉ before) ∧
      report.initiator = report.exit dir ∧
      (report.outcome.message = "session ended locally" ↔
        dir = .outbound ∧ (.sentinelSent ∈ before ∨ .inputEnded ∈ before)) ∧
      (PeerLeft dir before → report.outcome.message = "peer disconnected") ∧
      (report.outcome.message = "peer disconnected" → PeerLeft dir before ∨
        .closing ∈ before ∧ ∀ seen ∈ before, seen.relay? = some dir →
          seen = .severed dir ∨ ∃ kind, seen = .failed dir kind) ∧
      (dir ∉ c.broken → (∀ seen ∈ before, seen.relay? = some dir → seen = .severed dir) →
        .closing ∈ before ∧ report.outcome.message = "peer disconnected") := by
  have hsound := traceSound_of_exec hexec
  have hfinished := of_report? hreport
  obtain ⟨hgone, -⟩ := hsound.reports.report report hfinished
  rcases hsound.stage with hnoneReported | ⟨before, dir, exit, hfirstReported⟩
  · cases (hnoneReported.present .inbound).symm.trans (hgone .inbound)
  obtain ⟨rest, htrace⟩ := hfirstReported.trace
  have hinitiator : report.initiator = exit :=
    hfirstReported.takenFirst.initiator _ (by rw [hfinished]; rfl)
  have hexit : exit = report.exit dir :=
    Option.some.inj (hfirstReported.gone.symm.trans (hgone dir))
  have hjustified := hfirstReported.justified
  have hactive : .closing ∉ before → exit.cause.Untripped ∧ ∀ x, .severed x ∉ before :=
    hfirstReported.active (by rw [hfinished]; exact nofun)
  rw [report.message_local_iff, report.message_peer_iff, hinitiator]
  refine ⟨before, dir, rest, htrace, hfirstReported.unreported, hexit, ?_, fun hleft => ?_,
    fun hdeparture => ?_, fun hwhole hown => ?_⟩
  · rw [hjustified.isLocal_iff]
    refine and_congr_right ?_
    rintro rfl
    rw [mem_ofRelay rfl, mem_ofRelay rfl]
  · exact hjustified.isPeerDeparture_of_peerLeft (peerLeft_ofRelay.2 hleft)
  · by_cases hleft : PeerLeft dir before
    · exact .inl hleft
    · refine .inr ⟨?_, fun seen hseen hdir => ?_⟩
      · refine Decidable.byContradiction fun hclosing => ?_
        obtain ⟨huntripped, hunsevered⟩ := hactive hclosing
        have hown : .severed dir ∉ ofRelay dir before :=
          fun hmem => hunsevered dir ((mem_ofRelay rfl).1 hmem)
        exact hleft
          (peerLeft_ofRelay.1 (hjustified.peerLeft_of_isPeerDeparture hdeparture huntripped hown))
      · exact hjustified.severed_or_failed hdeparture (mt peerLeft_ofRelay.1 hleft)
          ((mem_ofRelay hdir).2 hseen)
  · have hpanicked : exit.cause ≠ .panicked := fun hcause =>
      hwhole (hsound.exits.whole dir exit (exit?_of_gone? hfirstReported.gone) hcause)
    have hsevered : ∀ seen ∈ ofRelay dir before, seen = .severed dir := by
      intro seen hseen
      obtain ⟨hmem, hdir⟩ := List.mem_filter.1 hseen
      exact hown seen hmem (of_decide_eq_true hdir)
    obtain ⟨hdeparture, hcause⟩ := hjustified.of_severed hsevered hpanicked
    refine ⟨?_, hdeparture⟩
    refine Decidable.byContradiction fun hclosing => ?_
    obtain ⟨huntripped, hunsevered⟩ := hactive hclosing
    rcases hcause with hcancelled | hmem
    · exact huntripped.uncancelled hcancelled
    · exact hunsevered dir ((mem_ofRelay rfl).1 hmem)

/-- The sentinel is out, and the peer ends its stream in answer to it. Both relays have come to
their end, and the outbound one is the first to report. -/
def answeredSentinel : List (Event Pipe) :=
  [.act .readInput, .act .takeInput, .act .checkSignal, .act .send,
    .elsewhere fun p => (Medium.shutdown p 1).2, .act .receive, .act .handle, .act .reportOutbound,
    .act .reportInbound, .wait, .act .takeFirst, .act .trip, .act .release, .act .join]

theorem outcome_of_first_end_answered_sentinel :
    ∃ c report, exec {} (.ofLines ["break"]) {} 0 ({} : Pipe) answeredSentinel = some c ∧
      c.session.report? = some report ∧
      execTrace {} (.ofLines ["break"]) {} 0 ({} : Pipe) answeredSentinel =
        [.sentinelSent, .peerClosed, .reported .outbound, .reported .inbound] ∧
      report.initiator = report.exit .outbound ∧
      report.outcome.message = "session ended locally" := by
  have hsome : (exec {} (.ofLines ["break"]) {} 0 ({} : Pipe) answeredSentinel).any
      (·.session.report?.isSome) = true := by
    decide +kernel
  have hobservations : execTrace {} (.ofLines ["break"]) {} 0 ({} : Pipe) answeredSentinel =
      [.sentinelSent, .peerClosed, .reported .outbound, .reported .inbound] := by
    decide +kernel
  cases hexec : exec {} (.ofLines ["break"]) {} 0 ({} : Pipe) answeredSentinel with
  | none =>
    rw [hexec] at hsome
    cases hsome
  | some c =>
    rw [hexec] at hsome
    obtain ⟨report, hreport⟩ := Option.isSome_iff_exists.1 hsome
    obtain ⟨before, dir, rest, htrace, hunreported, hinitiator, hlocal, -⟩ :=
      outcome_of_first_end hexec hreport
    -- the first report in the trace is the third of them
    obtain ⟨rfl, rfl⟩ : before = [.sentinelSent, .peerClosed] ∧ dir = .outbound := by
      rw [hobservations] at htrace
      rcases before with _ | ⟨first, _ | ⟨second, _ | ⟨third, more⟩⟩⟩
      · cases htrace
      · cases htrace
      · cases htrace
        exact ⟨rfl, rfl⟩
      · simp only [List.cons_append, List.cons.injEq] at htrace
        obtain ⟨-, -, rfl, -⟩ := htrace
        exact absurd (by simp) (hunreported .outbound)
    exact ⟨c, report, rfl, hreport, hobservations, hinitiator, hlocal.2 ⟨rfl, .inl (by simp)⟩⟩

/-- The owner closes a session and waits for it. Its peer does nothing, and its user types nothing.
-/
def ownersClose : List (Event Pipe) :=
  [.close, .act .trip, .act .release, .act .receive, .act .handle, .act .reportInbound,
    .act .cancelInput, .act .reportOutbound, .wait, .act .takeFirst, .act .trip, .act .release,
    .act .join]

theorem owners_close_reported_as_peers :
    execTrace {} (.ofLines []) {} 0 ({} : Pipe) ownersClose =
      [.closing, .severed .inbound, .reported .inbound, .reported .outbound] ∧
    (exec {} (.ofLines []) {} 0 ({} : Pipe) ownersClose).map (fun c =>
      (c.broken, c.session.report?.map (·.outcome.message))) =
        some ([], some "peer disconnected") := by
  decide +kernel

end System

end Session

end TextRelay
