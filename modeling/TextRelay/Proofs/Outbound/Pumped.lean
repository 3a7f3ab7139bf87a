import TextRelay.Proofs.Input.Intake
import TextRelay.Proofs.Outbound.System

/-!
# The outbound relay behind a pump

A pumped relay is an intake whose receiver is the outbound relay, with the stream that the relay
sends over. Pump and relay make their moves in any order; the relay receives while it waits for
input, and goes away as a receiver once it is done.

Over a stream that never trips the signal and takes something at every call, it
`SenderInv`: some lines are out, a part of one more may be, and the rest is still with the source.
Every move is a step forward (`progress`), so that no order of moves keeps a line back for ever.
-/

namespace TextRelay

/-! ## Streams that always accept -/

namespace SendScript

/-- The signal is not tripped and never will be, and every call takes something. -/
structure AlwaysAccepts (s : SendScript) : Prop where
  tripped : s.tripped = false
  steps : ∀ step ∈ s.steps, ∃ n, step = .accept (n + 1)

variable {s : SendScript} {data : Bytes}

/-- A call takes something, and all there is once the script is over. -/
theorem AlwaysAccepts.send (hs : s.AlwaysAccepts) (hdata : data ≠ []) :
    (s.send data).2.AlwaysAccepts ∧ ∃ n, (s.send data).1 = .ok (n + 1) ∧
      (data.length ≤ n + 1 ∨ (s.send data).2.steps.length + 1 = s.steps.length) ∧
      (s.send data).2.steps.length ≤ s.steps.length := by
  have hpos : 0 < data.length := List.length_pos_iff.2 hdata
  cases hsteps : s.steps with
  | nil =>
    rw [send_nil hsteps]
    refine ⟨⟨hs.tripped, hs.steps⟩, data.length - 1, ?_, .inl ?_, ?_⟩
    · rw [Nat.sub_add_cancel hpos]
    · omega
    · simp [hsteps]
  | cons step rest =>
    obtain ⟨n, rfl⟩ := hs.steps step (hsteps ▸ List.mem_cons_self)
    rw [send_accept hsteps]
    refine ⟨⟨hs.tripped, fun step hmem => hs.steps step (hsteps ▸ List.mem_cons_of_mem _ hmem)⟩,
      min (n + 1) data.length - 1, ?_, .inr rfl, Nat.le_succ _⟩
    rw [Nat.sub_add_cancel (by omega)]

end SendScript

/-! ## Lines up to the sentinel -/

theorem mem_linesToSend {sentinel : String} {lines : List String} :
    sentinel ∈ linesToSend sentinel lines ↔ sentinel ∈ lines := by
  induction lines with
  | nil => exact Iff.rfl
  | cons line rest ih =>
    rw [linesToSend]
    split
    · next heq => simp [heq]
    · rw [List.mem_cons, List.mem_cons, ih]

theorem linesToSend_isPrefix {sentinel : String} {first second : List String}
    (h : first <+: second) : linesToSend sentinel first <+: linesToSend sentinel second := by
  induction first generalizing second with
  | nil => exact List.nil_prefix
  | cons line rest ih =>
    obtain ⟨more, rfl⟩ := h
    rw [List.cons_append, linesToSend, linesToSend]
    split
    · exact List.prefix_refl _
    · exact List.cons_prefix_cons.2 ⟨rfl, ih (List.prefix_append rest more)⟩

theorem length_linesToSend_le (sentinel : String) (lines : List String) :
    (linesToSend sentinel lines).length ≤ lines.length := by
  induction lines with
  | nil => exact Nat.le_refl 0
  | cons line rest ih =>
    rw [linesToSend]
    split
    · simp
    · exact Nat.succ_le_succ ih

/-- The lines that are sent begin with those that came first, up to the sentinel. -/
theorem isPrefix_linesToSend {sentinel : String} {sent first lines : List String}
    (hsent : sentinel ∉ sent) (hfirst : first.length ≤ 1) (hlines : sent ++ first <+: lines) :
    sent ++ first <+: linesToSend sentinel lines := by
  obtain ⟨more, rfl⟩ := hlines
  rw [List.append_assoc, linesToSend_append hsent]
  apply List.prefix_append_right_inj _ |>.2
  match first with
  | [] => exact List.nil_prefix
  | [line] =>
    rw [List.singleton_append, linesToSend]
    split
    · exact List.prefix_refl _
    · exact List.cons_prefix_cons.2 ⟨rfl, List.nil_prefix⟩

/-! ## Pumped relays -/

/-- An outbound relay, the intake that it receives from, and its stream. -/
structure PumpedOutbound where
  intake : Intake
  relay : Outbound
  stream : SendScript

namespace PumpedOutbound

inductive Move where
  | read
  | take
  | cancel
  | check
  | send
  | judge
  | drop
  | giveUp
  deriving DecidableEq, Repr

/-- One move, unless the relay is not at the point for it. A relay to which nothing more comes takes
that for the end of the input. -/
def step (f : PumpedOutbound) : Move → Option PumpedOutbound
  | .read => (f.intake.step .read).map fun intake => { f with intake }
  | .take =>
    match f.relay.phase with
    | .waiting => f.intake.receive.map fun (event?, intake) =>
        { f with intake, relay := (f.relay.take (event?.getD .ended)).1 }
    | _ => none
  | .cancel =>
    match f.relay.phase with
    | .waiting => if f.stream.tripped then some { f with relay := f.relay.cancel.1 } else none
    | _ => none
  | .check =>
    match f.relay.phase with
    | .holding _ => some { f with relay := (f.relay.check f.stream.tripped).1 }
    | _ => none
  | .send => f.relay.offer?.map fun data =>
      { f with
        relay := (f.relay.answer (f.stream.send data).1).1
        stream := (f.stream.send data).2 }
  | .judge =>
    match f.relay.phase with
    | .failing _ => some { f with relay := (f.relay.judge f.stream.tripped).1 }
    | _ => none
  | .drop =>
    if f.relay.exit?.isSome then (f.intake.step .drop).map fun intake => { f with intake } else none
  | .giveUp => (f.intake.step .giveUp).map fun intake => { f with intake }

def run : PumpedOutbound → List Move → Option PumpedOutbound
  | f, [] => some f
  | f, move :: rest => (f.step move).bind (run · rest)

/-- A relay that is about to start, with all of a source ahead. -/
def start (source : Source) (sentinel : String) (stream : SendScript) : PumpedOutbound where
  intake := { pump := { source } }
  relay := { sentinel }
  stream := stream

/-- The moves, each with the point at which it is made. -/
inductive Step (f : PumpedOutbound) : Move → PumpedOutbound → Prop where
  | reads (intake : Intake) (hintake : f.intake.step .read = some intake) :
    Step f .read { f with intake }
  | takes (event? : Option InputEvent) (intake : Intake) (hphase : f.relay.phase = .waiting)
    (hintake : f.intake.receive = some (event?, intake)) :
    Step f .take { f with intake, relay := (f.relay.take (event?.getD .ended)).1 }
  | cancels (hphase : f.relay.phase = .waiting) (htripped : f.stream.tripped = true) :
    Step f .cancel { f with relay := f.relay.cancel.1 }
  | checks (line : String) (hphase : f.relay.phase = .holding line) :
    Step f .check { f with relay := (f.relay.check f.stream.tripped).1 }
  | sends (line : String) (delivery : Delivery) (hphase : f.relay.phase = .sending line delivery) :
    Step f .send { f with
      relay := (f.relay.answer (f.stream.send delivery.remaining).1).1
      stream := (f.stream.send delivery.remaining).2 }
  | judges (fault : Fault) (hphase : f.relay.phase = .failing fault) :
    Step f .judge { f with relay := (f.relay.judge f.stream.tripped).1 }
  | drops (exit : Exit) (intake : Intake) (hexit : f.relay.exit? = some exit)
    (hintake : f.intake.step .drop = some intake) : Step f .drop { f with intake }
  | givesUp (intake : Intake) (hintake : f.intake.step .giveUp = some intake) :
    Step f .giveUp { f with intake }

variable {f f' : PumpedOutbound} {move : Move} {moves : List Move}

theorem of_step (h : f.step move = some f') : Step f move f' := by
  cases move with
  | read =>
    obtain ⟨intake, hintake, rfl⟩ := Option.map_eq_some_iff.1 h
    exact .reads intake hintake
  | take =>
    simp only [step] at h
    split at h
    · next hphase =>
      obtain ⟨⟨event?, intake⟩, hintake, rfl⟩ := Option.map_eq_some_iff.1 h
      exact .takes event? intake hphase hintake
    · cases h
  | cancel =>
    simp only [step] at h
    split at h
    · next hphase =>
      split at h
      · next htripped =>
        cases h
        exact .cancels hphase htripped
      · cases h
    · cases h
  | check =>
    simp only [step] at h
    split at h
    · next line hphase =>
      cases h
      exact .checks line hphase
    · cases h
  | send =>
    obtain ⟨data, hoffer, rfl⟩ := Option.map_eq_some_iff.1 h
    obtain ⟨line, delivery, hphase, rfl⟩ := Outbound.phase_of_offer? hoffer
    exact .sends line delivery hphase
  | judge =>
    simp only [step] at h
    split at h
    · next fault hphase =>
      cases h
      exact .judges fault hphase
    · cases h
  | drop =>
    simp only [step] at h
    split at h
    · next hexit =>
      obtain ⟨exit, hexit⟩ := Option.isSome_iff_exists.1 hexit
      obtain ⟨intake, hintake, rfl⟩ := Option.map_eq_some_iff.1 h
      exact .drops exit intake hexit hintake
    · cases h
  | giveUp =>
    obtain ⟨intake, hintake, rfl⟩ := Option.map_eq_some_iff.1 h
    exact .givesUp intake hintake

/-! ## Lines that come out of an intake -/

/-- Lines that were received are among the first that the source reads. -/
theorem lines_of_received {source : Source} {i : Intake} (hi : i.Tracks source)
    {texts : List String} (hreceived : i.received = texts.map .line) {n : Nat} (hn : i.count ≤ n) :
    texts <+: Reading.lines (source.reads n) := by
  obtain ⟨more, hmore⟩ := source.reads_isPrefix hn
  rw [← hmore]
  apply List.IsPrefix.trans _ (Reading.lines_isPrefix _ more)
  apply Reading.isPrefix_lines
  rw [← hreceived]
  exact hi.follows.received

/-! ## What a move brings forward -/

/-- How far a pump has come with what it read. -/
def pumpProgress : Pump.Phase → Nat
  | .reading => 0
  | .offering _ => 1
  | .finished => 2

/-- How far an intake has come between two receives. -/
def intakeProgress (i : Intake) : Nat := pumpProgress i.pump.phase + if i.isHeld then 0 else 1

/-- An intake goes on without receiving. -/
structure IntakeAdvances (i i' : Intake) : Prop where
  received : i'.received = i.received
  count : i.count ≤ i'.count
  intakeProgress : intakeProgress i < intakeProgress i'

theorem intakeAdvances_of_step {i i' : Intake} {move : Intake.Move} (hmove : move ≠ .receive)
    (h : i.step move = some i') : IntakeAdvances i i' := by
  cases move with
  | receive => exact absurd rfl hmove
  | read =>
    obtain ⟨pump, hread, rfl⟩ := Option.map_eq_some_iff.1 h
    refine ⟨rfl, Nat.le_succ _, Nat.add_lt_add_right ?_ _⟩
    unfold Pump.read at hread
    split at hread
    · next hphase =>
      obtain ⟨⟨reading, source⟩, -, rfl⟩ := Option.map_eq_some_iff.1 hread
      cases reading <;> simp [pumpProgress, hphase]
    · cases hread
  | drop =>
    simp only [Intake.step] at h
    split at h
    · next hheld =>
      cases h
      refine ⟨rfl, Nat.le_refl _, ?_⟩
      simp [PumpedOutbound.intakeProgress, hheld]
    · cases h
  | giveUp =>
    simp only [Intake.step] at h
    split at h
    · cases h
    · obtain ⟨pump, hgive, rfl⟩ := Option.map_eq_some_iff.1 h
      refine ⟨rfl, Nat.le_refl _, Nat.add_lt_add_right ?_ _⟩
      unfold Pump.giveUp at hgive
      split at hgive
      · next hphase =>
        cases hgive
        simp [pumpProgress, hphase]
      · cases hgive

/-- Receiving gives the next line, or the lines are at their end. -/
inductive Received (source : Source) (sent : List String) (i : Intake) :
    Option InputEvent → Intake → Prop where
  | line (text : String) (i' : Intake) (hreceived : i'.received = (sent ++ [text]).map .line)
    (hbefore : intakeProgress i = 1) (hafter : intakeProgress i' = 0) :
    Received source sent i (some (.line text)) i'
  | last (event? : Option InputEvent) (i' : Intake) (hline : ∀ text, event? ≠ some (.line text))
    (hlines : ∀ n, i'.count ≤ n → Reading.lines (source.reads n) = sent)
    (hlength : i.received.length ≤ i'.received.length)
    (hmost : i'.received.length ≤ i.received.length + 1)
    (hintakeProgress : intakeProgress i ≤ intakeProgress i') : Received source sent i event? i'

theorem lines_of_last {source : Source} {n : Nat} {texts : List String} {reading : Reading}
    (hread : source.reads n = Reading.typed texts ++ [reading])
    (hlast : ∀ text, reading ≠ .event (.line text)) {m : Nat} (hle : n ≤ m) :
    Reading.lines (source.reads m) = texts := by
  obtain ⟨more, hmore⟩ := source.reads_isPrefix hle
  rw [← hmore, hread, List.append_assoc, Reading.lines_typed, List.singleton_append]
  match reading with
  | .event (.line text) => exact absurd rfl (hlast text)
  | .event .ended | .event (.failed _) | .broke => exact List.append_nil texts

theorem receipt {source : Source} {sent : List String} {i i' : Intake} (hi : i.Tracks source)
    (hsent : i.received = sent.map .line) {event? : Option InputEvent}
    (h : i.receive = some (event?, i')) : Received source sent i event? i' := by
  have hinj : ∀ {texts : List String}, i.received = texts.map .line → texts = sent := by
    intro texts htexts
    exact (List.map_inj_right fun _ _ => InputEvent.line.inj).1 (htexts.symm.trans hsent)
  unfold Intake.receive at h
  split at h
  · next hheld =>
    obtain ⟨⟨event?, pump⟩, htake, heq⟩ := Option.map_eq_some_iff.1 h
    cases heq
    have hphases := hi.phaseInv
    unfold Pump.take at htake
    split at htake
    · cases htake
    · next text hphase =>
      cases htake
      refine .line text _ ?_ ?_ ?_
      · simp [hsent]
      · simp [intakeProgress, pumpProgress, hphase, hheld]
      · simp [intakeProgress, pumpProgress, hheld]
    · next e hlast hphase =>
      cases htake
      rw [hphase] at hphases
      cases hphases with
      | offering texts _ hread hreceived =>
        refine .last _ _ ?_ ?_ ?_ ?_ ?_
        · intro text heq
          exact hlast text (Option.some.inj heq)
        · intro n hn
          rw [lines_of_last hread (fun text heq => hlast text (Reading.event.inj heq)) hn]
          exact hinj hreceived
        · simp
        · simp
        · simp [intakeProgress, pumpProgress, hphase]
    · next hphase =>
      cases htake
      rw [hphase] at hphases
      refine .last _ _ (by simp) ?_ (by simp) (by simp) (Nat.le_refl _)
      intro n hn
      cases hphases with
      | broken texts hread hreceived =>
        rw [lines_of_last hread (by simp) hn]
        exact hinj hreceived
      | ended texts e hlast hread hreceived =>
        -- what was received so far are lines only, but this was none
        have hmem : e ∈ sent.map InputEvent.line := by
          rw [← hsent, hreceived]
          simp
        obtain ⟨text, -, rfl⟩ := List.mem_map.1 hmem
        exact absurd rfl (hlast text)
      | refused texts e hread hreceived hgone =>
        rw [hheld] at hgone
        cases hgone
  · cases h

/-- How far a relay has come with what it received. -/
def relayProgress : Outbound.Phase → Nat
  | .holding _ => 1
  | .sending _ _ | .failing _ => 2
  | .waiting => 3
  | .leaving _ | .gone _ => 4

/-- How far a pumped relay has come. -/
def progress (f : PumpedOutbound) : Nat :=
  4 * f.intake.received.length + relayProgress f.relay.phase + intakeProgress f.intake

/-- The phase of the relay when some lines are out and a part of one more. -/
def PhaseInv (source : Source) (sentinel : String) (sent : List String) (part : Bytes)
    (i : Intake) : Outbound.Phase → Prop
  | .waiting => i.received = sent.map .line ∧ sentinel ∉ sent ∧ part = []
  | .holding line => i.received = (sent ++ [line]).map .line ∧ sentinel ∉ sent ∧ part = []
  | .sending line d => i.received = (sent ++ [line]).map .line ∧ sentinel ∉ sent ∧
      d.data = Line.encode line ∧ d.written < d.data.length ∧ part = d.data.take d.written
  | .failing _ => False
  | .leaving exit | .gone exit => part = [] ∧ i.received.length ≤ sent.length + 1 ∧
      (exit.cause = .localSentinel ↔ sentinel ∈ sent) ∧
      ∀ n, i.count ≤ n → sent = linesToSend sentinel (Reading.lines (source.reads n))

theorem PhaseInv.mono {source : Source} {sentinel : String} {sent : List String} {part : Bytes}
    {i i' : Intake} {phase : Outbound.Phase} (h : PhaseInv source sentinel sent part i phase)
    (hreceived : i'.received = i.received) (hcount : i.count ≤ i'.count) :
    PhaseInv source sentinel sent part i' phase := by
  cases phase with
  | waiting => exact ⟨hreceived.trans h.1, h.2⟩
  | holding line => exact ⟨hreceived.trans h.1, h.2⟩
  | sending line d => exact ⟨hreceived.trans h.1, h.2⟩
  | failing fault => exact h
  | leaving exit | gone exit =>
    obtain ⟨hpart, hlength, hcause, hdue⟩ := h
    exact ⟨hpart, hreceived ▸ hlength, hcause, fun n hn => hdue n (Nat.le_trans hcount hn)⟩

/-- A pumped relay that began with some source over a stream that always accepts, where something
may have gone out already. -/
structure SenderInv (source : Source) (sentinel : String) (wire : Bytes) (sent : List String)
    (part : Bytes) (f : PumpedOutbound) : Prop where
  tracks : f.intake.Tracks source
  named : f.relay.sentinel = sentinel
  accepts : f.stream.AlwaysAccepts
  held : f.relay.exit? = none → f.intake.isHeld = true
  wire : f.stream.wire = wire ++ encodeAll sent ++ part
  phaseInv : PhaseInv source sentinel sent part f.intake f.relay.phase

/-- A move keeps the invariant, and leads further. -/
def Advances (source : Source) (sentinel : String) (wire : Bytes) (f f' : PumpedOutbound) : Prop :=
  (∃ sent part, f'.SenderInv source sentinel wire sent part) ∧
    f.progress + f'.stream.steps.length < f'.progress + f.stream.steps.length

namespace SenderInv

variable {source : Source} {sentinel : String} {wire : Bytes} {sent : List String} {part : Bytes}

theorem start {stream : SendScript} (hstream : stream.AlwaysAccepts) :
    SenderInv source sentinel stream.wire [] [] (PumpedOutbound.start source sentinel stream) where
  tracks := .start source
  named := rfl
  accepts := hstream
  held _ := rfl
  wire := by simp [PumpedOutbound.start]
  phaseInv := ⟨rfl, List.not_mem_nil, rfl⟩

/-- The intake goes on by itself. -/
theorem intake_step (hf : f.SenderInv source sentinel wire sent part) {intake : Intake}
    (htracks : intake.Tracks source) (hadvances : IntakeAdvances f.intake intake)
    (hheld : f.relay.exit? = none → intake.isHeld = true) :
    Advances source sentinel wire f { f with intake } := by
  refine ⟨⟨sent, part, htracks, hf.named, hf.accepts, hheld, hf.wire, ?_⟩, ?_⟩
  · exact hf.phaseInv.mono hadvances.received hadvances.count
  · have := hadvances.intakeProgress
    simp only [progress, hadvances.received]
    omega

theorem take (hf : f.SenderInv source sentinel wire sent part) (hphase : f.relay.phase = .waiting)
    {event? : Option InputEvent} {intake : Intake}
    (hreceive : f.intake.receive = some (event?, intake)) :
    Advances source sentinel wire f
      { f with intake, relay := (f.relay.take (event?.getD .ended)).1 } := by
  have hphaseInv := hf.phaseInv
  rw [hphase] at hphaseInv
  obtain ⟨hreceived, hsent, rfl⟩ := hphaseInv
  have htracks := hf.tracks.receive hreceive
  cases receipt hf.tracks hreceived hreceive with
  | line text _ hnext hbefore hafter =>
    refine ⟨⟨sent, [], htracks, hf.named, hf.accepts, fun _ => ?_, hf.wire, hnext, hsent, rfl⟩, ?_⟩
    · have hintakeProgress : pumpProgress intake.pump.phase = 0 ∧ intake.isHeld = true := by
        simpa [intakeProgress] using hafter
      exact hintakeProgress.2
    · simp only [progress, Option.getD_some, Outbound.take, relayProgress, hphase, hreceived, hnext,
        List.length_map, List.length_append, List.length_singleton]
      omega
  | last _ _ hline hlines hlength hmost hintakeProgress =>
    obtain ⟨exit, hexit, hcause⟩ : ∃ exit, (f.relay.take (event?.getD .ended)).1 =
        { f.relay with phase := .leaving exit } ∧ exit.cause ≠ .localSentinel := by
      cases event? with
      | none => exact ⟨_, rfl, Cause.noConfusion⟩
      | some event =>
        cases event with
        | line text => exact absurd rfl (hline text)
        | ended | failed => exact ⟨_, rfl, Cause.noConfusion⟩
    rw [hexit]
    refine ⟨⟨sent, [], htracks, hf.named, hf.accepts, ?_, hf.wire, rfl, ?_, ?_, ?_⟩, ?_⟩
    · intro hnone
      cases hnone
    · rwa [hreceived, List.length_map] at hmost
    · exact ⟨fun heq => absurd heq hcause, fun hmem => absurd hmem hsent⟩
    · intro n hn
      rw [hlines n hn, linesToSend_of_notMem hsent]
    · simp only [progress, relayProgress, hphase]
      omega

/-- A line is out in full. -/
theorem complete (hf : f.SenderInv source sentinel wire sent part) (hexit : f.relay.exit? = none)
    {line : String} (hreceived : f.intake.received = (sent ++ [line]).map .line)
    (hsent : sentinel ∉ sent) {stream : SendScript} (hstream : stream.AlwaysAccepts)
    (hwire : stream.wire = wire ++ encodeAll (sent ++ [line])) :
    (∃ sent part, SenderInv source sentinel wire sent part
      { f with relay := (f.relay.complete line).1, stream }) ∧
    3 ≤ relayProgress (f.relay.complete line).1.phase := by
  have hwire' : stream.wire = wire ++ encodeAll (sent ++ [line]) ++ [] := by
    rw [List.append_nil, hwire]
  by_cases hline : line = sentinel
  · rw [Outbound.complete_sentinel (hline.trans hf.named.symm)]
    refine ⟨⟨sent ++ [line], [], hf.tracks, hf.named, hstream, fun _ => hf.held hexit, hwire', rfl,
      by simp [hreceived], by simp [hline], fun n hn => ?_⟩, Nat.le_succ 3⟩
    obtain ⟨more, hmore⟩ := lines_of_received hf.tracks hreceived hn
    rw [← hmore, List.append_assoc, linesToSend_append hsent, List.singleton_append, linesToSend,
      if_pos hline]
  · rw [Outbound.complete_line fun heq => hline (heq.trans hf.named)]
    refine ⟨⟨sent ++ [line], [], hf.tracks, hf.named, hstream, fun _ => hf.held hexit, hwire',
      hreceived, ?_, rfl⟩, Nat.le_refl 3⟩
    rw [List.mem_append, List.mem_singleton]
    rintro (hmem | heq)
    · exact hsent hmem
    · exact hline heq.symm

theorem check (hf : f.SenderInv source sentinel wire sent part) {line : String}
    (hphase : f.relay.phase = .holding line) :
    Advances source sentinel wire f { f with relay := (f.relay.check f.stream.tripped).1 } := by
  have hphaseInv := hf.phaseInv
  rw [hphase] at hphaseInv
  obtain ⟨hreceived, hsent, rfl⟩ := hphaseInv
  have hexit : f.relay.exit? = none := by simp [Outbound.exit?, hphase]
  rw [hf.accepts.tripped]
  by_cases hempty : Line.encode line = []
  · rw [Outbound.check_empty hphase hempty]
    obtain ⟨hsenderInv, hstride⟩ := hf.complete hexit hreceived hsent hf.accepts
      (by rw [hf.wire]; simp [hempty])
    refine ⟨hsenderInv, ?_⟩
    simp only [progress, hphase, show relayProgress (.holding line) = 1 from rfl]
    omega
  · rw [Outbound.check_line hphase hempty]
    refine ⟨⟨sent, [], hf.tracks, hf.named, hf.accepts, fun _ => hf.held hexit, hf.wire, hreceived,
      hsent, rfl, List.length_pos_iff.2 hempty, rfl⟩, ?_⟩
    simp only [progress, hphase, relayProgress]
    omega

theorem send (hf : f.SenderInv source sentinel wire sent part) {line : String} {delivery : Delivery}
    (hphase : f.relay.phase = .sending line delivery) :
    Advances source sentinel wire f { f with
      relay := (f.relay.answer (f.stream.send delivery.remaining).1).1
      stream := (f.stream.send delivery.remaining).2 } := by
  have hphaseInv := hf.phaseInv
  rw [hphase] at hphaseInv
  obtain ⟨hreceived, hsent, hdata, hleft, rfl⟩ := hphaseInv
  have hexit : f.relay.exit? = none := by simp [Outbound.exit?, hphase]
  have hlength : delivery.remaining.length = delivery.data.length - delivery.written :=
    List.length_drop
  have hne : delivery.remaining ≠ [] := by
    rw [← List.length_pos_iff]
    omega
  obtain ⟨haccepts, n, hresult, hall, hsteps⟩ := hf.accepts.send hne
  have hwire : (f.stream.send delivery.remaining).2.wire =
      wire ++ encodeAll sent ++ delivery.data.take (delivery.written + (n + 1)) := by
    rw [SendScript.wire_send_ok hresult, hf.wire, List.append_assoc, Delivery.remaining,
      ← List.take_add]
  rw [hresult, Outbound.answer_taken hphase (Nat.succ_pos n)]
  by_cases hdone : delivery.data.length ≤ delivery.written + (n + 1)
  · rw [Outbound.deliver_done hdone]
    obtain ⟨hsenderInv, hstride⟩ := hf.complete hexit hreceived hsent haccepts (by
      rw [hwire, List.take_of_length_le hdone, hdata, encodeAll_append, encodeAll_singleton,
        List.append_assoc])
    refine ⟨hsenderInv, ?_⟩
    simp only [progress, hphase, Outbound.finishLine,
      show relayProgress (.sending line delivery) = 2 from rfl]
    omega
  · rw [Outbound.deliver_left (Nat.lt_of_not_le hdone)]
    refine ⟨⟨sent, delivery.data.take (delivery.written + (n + 1)), hf.tracks, hf.named, haccepts,
      fun _ => hf.held hexit, hwire, hreceived, hsent, hdata, Nat.lt_of_not_le hdone, rfl⟩, ?_⟩
    simp only [progress, hphase, relayProgress]
    omega

/-- Every move under the invariant is a step forward. -/
theorem advances (hf : f.SenderInv source sentinel wire sent part) (h : Step f move f') :
    Advances source sentinel wire f f' := by
  cases h with
  | reads intake hintake =>
    have hstep := hintake
    obtain ⟨pump, -, rfl⟩ := Option.map_eq_some_iff.1 hintake
    exact hf.intake_step (hf.tracks.step hstep) (intakeAdvances_of_step (by decide) hstep) hf.held
  | takes event? intake hphase hintake => exact hf.take hphase hintake
  | cancels hphase htripped =>
    rw [hf.accepts.tripped] at htripped
    cases htripped
  | checks line hphase => exact hf.check hphase
  | sends line delivery hphase => exact hf.send hphase
  | judges fault hphase =>
    have hphaseInv := hf.phaseInv
    rw [hphase] at hphaseInv
    exact hphaseInv.elim
  | drops exit intake hexit hintake =>
    refine hf.intake_step (hf.tracks.step hintake) (intakeAdvances_of_step (by decide) hintake)
      fun hnone => ?_
    rw [hexit] at hnone
    cases hnone
  | givesUp intake hintake =>
    refine hf.intake_step (hf.tracks.step hintake) (intakeAdvances_of_step (by decide) hintake)
      fun hnone => ?_
    simp [Intake.step, hf.held hnone] at hintake

theorem run (hf : f.SenderInv source sentinel wire sent part) (h : f.run moves = some f') :
    (∃ sent part, f'.SenderInv source sentinel wire sent part) ∧
      moves.length + f.progress + f'.stream.steps.length ≤ f'.progress + f.stream.steps.length := by
  induction moves generalizing f sent part with
  | nil =>
    cases h
    exact ⟨⟨sent, part, hf⟩, by simp⟩
  | cons move rest ih =>
    obtain ⟨next, hstep, hrest⟩ := Option.bind_eq_some_iff.1 h
    obtain ⟨⟨sent', part', hnext⟩, hprogress⟩ := hf.advances (of_step hstep)
    obtain ⟨hsenderInv, hlength⟩ := ih hnext hrest
    refine ⟨hsenderInv, ?_⟩
    rw [List.length_cons]
    omega

/-! ### What has gone out -/

/-- What is out, with the line in hand, are the first lines of those that will be sent. -/
theorem isPrefix_sent (hf : f.SenderInv source sentinel wire sent part) {n : Nat}
    (hn : f.intake.count ≤ n) : ∃ hand,
    sent ++ hand <+: linesToSend sentinel (Reading.lines (source.reads n)) ∧
    part <+: encodeAll hand := by
  obtain ⟨htracks, -, -, -, -, hphaseInv⟩ := hf
  cases hphase : f.relay.phase with
  | waiting =>
    obtain ⟨hreceived, hsent, rfl⟩ := hphase ▸ hphaseInv
    rw [← List.append_nil sent] at hreceived
    have hlines := lines_of_received htracks hreceived hn
    exact ⟨[], isPrefix_linesToSend hsent (Nat.zero_le 1) hlines, List.nil_prefix⟩
  | holding line =>
    obtain ⟨hreceived, hsent, rfl⟩ := hphase ▸ hphaseInv
    have hlines := lines_of_received htracks hreceived hn
    exact ⟨[line], isPrefix_linesToSend hsent (Nat.le_refl 1) hlines, List.nil_prefix⟩
  | sending line d =>
    obtain ⟨hreceived, hsent, hdata, -, rfl⟩ := hphase ▸ hphaseInv
    have hlines := lines_of_received htracks hreceived hn
    refine ⟨[line], isPrefix_linesToSend hsent (Nat.le_refl 1) hlines, ?_⟩
    rw [encodeAll_singleton, ← hdata]
    exact List.take_prefix _ _
  | failing fault =>
    rw [hphase] at hphaseInv
    exact hphaseInv.elim
  | leaving exit | gone exit =>
    obtain ⟨rfl, -, -, hdue⟩ := hphase ▸ hphaseInv
    have hsent : sent <+: linesToSend sentinel (Reading.lines (source.reads n)) :=
      hdue n hn ▸ List.prefix_refl sent
    exact ⟨[], by rwa [List.append_nil], List.nil_prefix⟩

theorem isPrefix_wire (hf : f.SenderInv source sentinel wire sent part) {n : Nat}
    (hn : f.intake.count ≤ n) :
    f.stream.wire <+: wire ++
      encodeAll (linesToSend sentinel (Reading.lines (source.reads n))) := by
  obtain ⟨hand, ⟨more, hmore⟩, ⟨rest, hrest⟩⟩ := hf.isPrefix_sent hn
  refine ⟨rest ++ encodeAll more, ?_⟩
  rw [hf.wire, ← hmore, encodeAll_append, encodeAll_append, ← hrest]
  simp only [List.append_assoc]

theorem received_le (hf : f.SenderInv source sentinel wire sent part) :
    f.intake.received.length ≤ sent.length + 1 := by
  have hphaseInv := hf.phaseInv
  cases hphase : f.relay.phase with
  | waiting => simp [(hphase ▸ hphaseInv).1]
  | holding line => simp [(hphase ▸ hphaseInv).1]
  | sending line d => simp [(hphase ▸ hphaseInv).1]
  | failing fault =>
    rw [hphase] at hphaseInv
    exact hphaseInv.elim
  | leaving exit => exact (hphase ▸ hphaseInv).2.1
  | gone exit => exact (hphase ▸ hphaseInv).2.1

end SenderInv

/-- The relay ends for the sentinel exactly if that is among the lines. -/
theorem SenderInv.localSentinel_iff {source : Source} {sentinel : String} {wire : Bytes}
    {sent : List String} {part : Bytes} (hf : f.SenderInv source sentinel wire sent part)
    {exit : Exit} (hexit : f.relay.exit? = some exit) {n : Nat} (hn : f.intake.count ≤ n) :
    exit.cause = .localSentinel ↔ sentinel ∈ Reading.lines (source.reads n) := by
  have hphaseInv := hf.phaseInv
  unfold Outbound.exit? at hexit
  split at hexit
  · next hphase =>
    cases hexit
    obtain ⟨-, -, hcause, hdue⟩ := hphase ▸ hphaseInv
    rw [hcause, hdue n hn, mem_linesToSend]
  · next hphase =>
    cases hexit
    obtain ⟨-, -, hcause, hdue⟩ := hphase ▸ hphaseInv
    rw [hcause, hdue n hn, mem_linesToSend]
  · cases hexit

/-- Nothing can happen any more, unless the source answers. -/
def IsQuiescent (f : PumpedOutbound) : Prop := ∀ move, f.step move = none

/-- A relay that is done, or where nothing can happen, has sent all that there is to send. -/
theorem SenderInv.wire_of_done {source : Source} {sentinel : String} {wire : Bytes}
    {sent : List String} {part : Bytes} (hf : f.SenderInv source sentinel wire sent part)
    (hend : f.relay.exit?.isSome = true ∨ f.IsQuiescent) {n : Nat} (hn : f.intake.count ≤ n) :
    f.stream.wire = wire ++ encodeAll (linesToSend sentinel (Reading.lines (source.reads n))) := by
  obtain ⟨htracks, -, -, hheld, hwire, hphaseInv⟩ := hf
  cases hphase : f.relay.phase with
  | waiting =>
    obtain ⟨hreceived, hsent, rfl⟩ := hphase ▸ hphaseInv
    have hexit : f.relay.exit? = none := by simp [Outbound.exit?, hphase]
    have hstill : f.IsQuiescent := by simpa [hexit] using hend
    -- the relay waits for the pump, and the pump for the source
    have hreceive : f.intake.receive = none := by
      simpa [step, hphase] using hstill .take
    have hread : f.intake.pump.read = none := by
      simpa [step, Intake.step] using hstill .read
    have hreading : f.intake.pump.phase = .reading := by
      have htake : f.intake.pump.take = none := by
        simpa [Intake.receive, hheld hexit] using hreceive
      unfold Pump.take at htake
      split at htake
      · assumption
      all_goals cases htake
    have hphases := htracks.phaseInv
    rw [hreading] at hphases
    obtain ⟨texts, htyped, htexts⟩ := hphases
    have heq : texts = sent :=
      (List.map_inj_right fun _ _ => InputEvent.line.inj).1 (htexts.symm.trans hreceived)
    have hlines : Reading.lines (source.reads n) = sent := by
      rw [htracks.waits (hheld hexit) hreceive hread hn, htyped, heq,
        ← List.append_nil (Reading.typed sent), Reading.lines_typed]
      exact List.append_nil sent
    rw [hwire, hlines, linesToSend_of_notMem hsent, List.append_nil]
  | holding line =>
    have hstill : f.IsQuiescent := by simpa [Outbound.exit?, hphase] using hend
    have hcheck := hstill .check
    simp [step, hphase] at hcheck
  | sending line d =>
    have hstill : f.IsQuiescent := by simpa [Outbound.exit?, hphase] using hend
    have hsend := hstill .send
    simp [step, Outbound.offer?, hphase] at hsend
  | failing fault =>
    rw [hphase] at hphaseInv
    exact hphaseInv.elim
  | leaving exit | gone exit =>
    obtain ⟨rfl, -, -, hdue⟩ := hphase ▸ hphaseInv
    rw [hwire, ← hdue n hn, List.append_nil]

/-- Four moves a line are enough, beside those for the calls that take a part only. -/
theorem progress_le (f : PumpedOutbound) : f.progress ≤ 4 * f.intake.received.length + 7 := by
  have hstride : relayProgress f.relay.phase ≤ 4 := by cases f.relay.phase <;> simp [relayProgress]
  have hpump : pumpProgress f.intake.pump.phase ≤ 2 := by
    cases f.intake.pump.phase <;> simp [pumpProgress]
  simp only [progress, intakeProgress]
  split <;> omega

/-- Once `n` lines are out, whatever the first `n` readings bring is out. -/
theorem SenderInv.sent_of_le {source : Source} {sentinel : String} {wire : Bytes}
    {sent : List String} {part : Bytes} (hf : f.SenderInv source sentinel wire sent part) {n : Nat}
    (hn : n ≤ sent.length) :
    wire ++ encodeAll (linesToSend sentinel (Reading.lines (source.reads n))) <+:
      f.stream.wire := by
  obtain ⟨hand, hsent, -⟩ := hf.isPrefix_sent (Nat.le_max_left f.intake.count n)
  have hfirst : linesToSend sentinel (Reading.lines (source.reads n)) <+:
      linesToSend sentinel (Reading.lines (source.reads (max f.intake.count n))) := by
    obtain ⟨more, hmore⟩ := source.reads_isPrefix (Nat.le_max_right f.intake.count n)
    rw [← hmore]
    exact linesToSend_isPrefix (Reading.lines_isPrefix _ more)
  have hlength : (linesToSend sentinel (Reading.lines (source.reads n))).length ≤ sent.length :=
    calc (linesToSend sentinel (Reading.lines (source.reads n))).length
      _ ≤ (Reading.lines (source.reads n)).length := length_linesToSend_le ..
      _ ≤ (source.reads n).length := Reading.length_lines_le _
      _ ≤ n := source.length_reads_le n
      _ ≤ sent.length := hn
  obtain ⟨more, hmore⟩ := List.prefix_of_prefix_length_le hfirst
    ((List.prefix_append sent hand).trans hsent) hlength
  refine ⟨encodeAll more ++ part, ?_⟩
  rw [hf.wire, ← hmore, encodeAll_append]
  simp only [List.append_assoc]

/-- What a source reads is received in order, each reading once, up to the first that is no line,
and the source is never ahead by more than one reading, whatever the receiver does. The outbound
relay sends of it, over a stream that always accepts, the lines up to the sentinel, and nothing
else; all of them, once it is done or nothing can happen any more; and those of the first readings
after a number of moves that does not depend on their order. -/
theorem source_handed_over (source : Source) :
    (∀ n, Pump.receives n { source } = (Reading.answers (source.reads n)).take n) ∧
    (∀ (moves : List Intake.Move) (i : Intake),
      Intake.run { pump := { source } } moves = some i → i.Follows source) ∧
    ∀ (sentinel : String) (stream : SendScript), stream.AlwaysAccepts →
      ∀ (moves : List Move) (f : PumpedOutbound),
        (start source sentinel stream).run moves = some f →
        f.intake.Follows source ∧
        (∀ n, f.intake.count ≤ n →
          f.stream.wire <+:
            stream.wire ++ encodeAll (linesToSend sentinel (Reading.lines (source.reads n))) ∧
          (f.relay.exit?.isSome = true ∨ f.IsQuiescent → f.stream.wire =
            stream.wire ++ encodeAll (linesToSend sentinel (Reading.lines (source.reads n))))) ∧
        ∀ n, 4 * n + stream.steps.length + 8 ≤ moves.length →
          stream.wire ++ encodeAll (linesToSend sentinel (Reading.lines (source.reads n))) <+:
            f.stream.wire := by
  refine ⟨fun n => Pump.receives_eq n source, ?_, ?_⟩
  · intro moves i hrun
    exact ((Intake.Tracks.start source).run hrun).follows
  · intro sentinel stream hstream moves f hrun
    have hstart : SenderInv source sentinel stream.wire [] [] (start source sentinel stream) :=
      .start hstream
    obtain ⟨⟨sent, part, hf⟩, hlength⟩ := hstart.run hrun
    refine ⟨hf.tracks.follows,
      fun n hn => ⟨hf.isPrefix_wire hn, fun hend => hf.wire_of_done hend hn⟩, ?_⟩
    intro n hmoves
    apply hf.sent_of_le
    have hprogress := f.progress_le
    have hreceived := hf.received_le
    have hstart : (start source sentinel stream).progress = 3 := rfl
    have hsteps : (start source sentinel stream).stream.steps = stream.steps := rfl
    rw [hstart, hsteps] at hlength
    omega

/-- The stream takes one byte at the first two calls, the pump is ahead whenever it can, and the
source breaks down after the sentinel; the receiver of the other intake goes away while a line is
read. -/
theorem source_handed_over_piecemeal :
    let source : Source := .endless (fun n => match n with
      | 0 => .event (.line "hé")
      | 1 => .event (.line "")
      | 2 => .event (.line "bye")
      | _ => .broke) 0
    let stream : SendScript := { steps := [.accept 1, .accept 1] }
    (∃ i, Intake.run { pump := { source } } [.read, .receive, .drop, .read, .giveUp] = some i ∧
      i.received = [.line "hé"] ∧ i.begun = 2 ∧ i.Follows source) ∧
    ∃ f, (start source "bye" stream).run [.read, .take, .read, .check, .send, .send, .send, .take,
        .check, .read, .take, .read, .check, .send, .drop] = some f ∧
      f.relay.exit? = some ⟨.outbound, .localSentinel, 6⟩ ∧
      f.stream.wire = [0x68, 0xC3, 0xA9, 0x62, 0x79, 0x65] ∧
      f.stream.wire = encodeAll (linesToSend "bye" (Reading.lines (source.reads 9))) := by
  intro source stream
  obtain ⟨-, hintake, hfeed⟩ := source_handed_over source
  constructor
  · have hfacts : (Intake.run { pump := { source } } [.read, .receive, .drop, .read, .giveUp]).map
        (fun i => (i.received, i.begun)) = some ([.line "hé"], 2) := by
      decide +kernel
    obtain ⟨i, hrun, hi⟩ := Option.map_eq_some_iff.1 hfacts
    obtain ⟨hreceived, hbegun⟩ := Prod.mk.inj hi
    exact ⟨i, hrun, hreceived, hbegun, hintake _ i hrun⟩
  · have hfacts : ((start source "bye" stream).run [.read, .take, .read, .check, .send, .send,
        .send, .take, .check, .read, .take, .read, .check, .send, .drop]).map
        (fun f => (f.relay.exit?, f.stream.wire, f.intake.count)) =
        some (some ⟨.outbound, .localSentinel, 6⟩, [0x68, 0xC3, 0xA9, 0x62, 0x79, 0x65], 4) := by
      decide +kernel
    obtain ⟨f, hrun, hf⟩ := Option.map_eq_some_iff.1 hfacts
    simp only [Prod.mk.injEq] at hf
    obtain ⟨hexit, hwire, hcount⟩ := hf
    have haccepts : stream.AlwaysAccepts := by
      refine ⟨rfl, fun step hmem => ⟨0, ?_⟩⟩
      simpa [stream] using hmem
    obtain ⟨-, hsent, -⟩ := hfeed "bye" stream haccepts _ f hrun
    exact ⟨f, hrun, hexit, hwire, (hsent 9 (by omega)).2 (.inl (by rw [hexit]; rfl))⟩

end PumpedOutbound

end TextRelay
