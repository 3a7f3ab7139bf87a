import TextRelay.CommandLine.Role
import TextRelay.Proofs.Inbound.Account
import TextRelay.Proofs.Session.Reports
import TextRelay.Proofs.Settings

/-!
# The buffer of the inbound relay

The inbound relay has two demands on memory: a buffer of the size that the settings ask for, and
chunks that lie within it. The second is met over every medium that hands out no more than it was
asked for. The first is not checked with the settings, which are refused for a size of zero and for
no other, although there are sizes that no buffer can have. With one of these the relay breaks down
before it receives anything, and the session with it; nothing else in the settings does that
(`inbound_breaks_iff_oversized`). Memory is taken to suffice for every other size.
-/

namespace TextRelay

/-- The medium hands out no more bytes than it was asked for. -/
def Medium.IsBounded (κ : Type) [Medium κ] : Prop :=
  ∀ (w w' : κ) (h size : Nat) (chunk : Bytes),
    Medium.receive w h size = some (.ok chunk, w') → chunk.length ≤ size

theorem Pipe.isBounded : Medium.IsBounded Pipe :=
  fun _ _ _ _ _ => Pipe.length_le_of_receive

namespace Inbound

variable {r : Inbound}

/-- A receipt is dealt with once. -/
theorem phase_handle_ne {receipt : Except Fault Bytes} (hphase : r.phase = .handling receipt)
    (shuttingDown : Bool) (next : Except Fault Bytes) :
    (r.handle shuttingDown).1.phase ≠ .handling next := by
  unfold handle
  split
  · simp only [endOfStream, leave]
    split <;> exact Phase.noConfusion
  · simp only [showChunk]
    split <;> exact Phase.noConfusion
  · split <;> exact Phase.noConfusion
  · next hchunk hfault =>
    cases receipt with
    | ok chunk => exact absurd hphase (hchunk chunk)
    | error fault => exact absurd hphase (hfault fault)

@[simp] theorem handle_verdict (r : Inbound) (shuttingDown : Bool) :
    (r.handle shuttingDown).1.sink.verdict = r.sink.verdict := by
  unfold handle
  split
  · simp only [endOfStream]
    split <;> rfl
  · next chunk _ _ =>
    have hverdict := r.sink.display_verdict (Chunk.shown chunk)
    simp only [showChunk]
    split
    all_goals
      next hshown =>
      rw [hshown] at hverdict
      exact hverdict
  · split <;> rfl
  · rfl

theorem breaks_of_neverBreaks (hsink : r.sink.NeverBreaks) : r.breaks = false := by
  unfold breaks
  split
  · exact decide_eq_false (hsink _ _)
  · rfl

theorem causeOf_ne_panicked (ending : Except Fault Unit) (shuttingDown : Bool) :
    causeOf ending shuttingDown ≠ .panicked := by
  cases ending with
  | ok => cases shuttingDown <;> exact Cause.noConfusion
  | error fault => exact Cause.noConfusion

/-- A relay alone comes to an end on every stream, and breaks down only for want of a buffer. -/
theorem run_panics_iff {sink : Sink} (hsink : sink.NeverBreaks) (peer : String) (chunkSize : Nat)
    (s : ReceiveScript) :
    ∃ exit, (run s (start peer sink chunkSize)).2.1.exit? = some exit ∧
      (exit.cause = .panicked ↔ maxBuffer < chunkSize) := by
  by_cases hfits : chunkSize ≤ maxBuffer
  · obtain ⟨chunks, ending, s', hs⟩ := exists_receives (Nat.le_max_right chunkSize 1) s
    obtain ⟨log, hrun⟩ := run_of_receives hsink hfits peer hs
    rw [hrun]
    refine ⟨_, exit?_of_leaving rfl, ?_⟩
    exact iff_of_false (causeOf_ne_panicked ending _) (Nat.not_lt.2 hfits)
  · have hover := Nat.lt_of_not_le hfits
    have hphase : (start peer sink chunkSize).phase = .leaving (.panicked .inbound) :=
      if_neg fun hle => hfits (Nat.le_trans (Nat.le_max_left _ _) hle)
    rw [run, runFor_of_leaving hphase]
    exact ⟨_, exit?_of_leaving hphase, iff_of_true rfl hover⟩

end Inbound

namespace Session

variable {κ : Type} {s : Session} {event : Event κ}

theorem of_mem_breakdowns {dir : Direction} (h : dir ∈ s.breakdowns event) :
    event = .crash dir ∨ dir = .inbound ∧ s.inbound.breaks = true := by
  unfold breakdowns at h
  split at h
  · exact .inl (by rw [List.mem_singleton.1 h])
  · split at h
    · next hbreaks => exact .inr ⟨List.mem_singleton.1 h, hbreaks⟩
    · cases h
  · cases h

namespace System

variable {c c' : System κ} {w w' : κ} {settings : Settings} {source : Source} {sink : Sink}
  {stream : Nat} {size : Nat} {events : List (Event κ)}

theorem ExitsSound.panicked_iff (hc : c.ExitsSound) {dir : Direction} {exit : Exit}
    (hexit : c.session.exit? dir = some exit) : exit.cause = .panicked ↔ dir ∈ c.broken := by
  refine ⟨hc.whole dir exit hexit, fun hmem => ?_⟩
  cases (hc.panics dir hmem).symm.trans hexit
  rfl

/-- Nothing but the size of its buffer has broken the inbound relay down. -/
structure BufferInv (size : Nat) (sink : Sink) (c : System κ) : Prop where
  verdict : c.session.inbound.sink.verdict = sink.verdict
  buffer : c.session.inbound.bufferSize = size
  /-- The chunk that is dealt with lies within the buffer. -/
  within : ∀ chunk, c.session.inbound.phase = .handling (.ok chunk) → chunk.length ≤ size
  broken : .inbound ∈ c.broken ↔ Inbound.maxBuffer < size
  /-- Without a buffer nothing is ever shown. -/
  unshown : Inbound.maxBuffer < size → c.session.inbound.sink = sink

theorem BufferInv.keep (hc : c.BufferInv size sink)
    (hsink : c'.session.inbound.sink = c.session.inbound.sink)
    (hbuffer : c'.session.inbound.bufferSize = c.session.inbound.bufferSize)
    (hwithin : ∀ chunk, c'.session.inbound.phase = .handling (.ok chunk) → chunk.length ≤ size)
    (hbroken : .inbound ∈ c'.broken ↔ Inbound.maxBuffer < size) : c'.BufferInv size sink :=
  ⟨(congrArg Sink.verdict hsink).trans hc.verdict, hbuffer.trans hc.buffer, hwithin, hbroken,
    fun hover => hsink.trans (hc.unshown hover)⟩

variable [Medium κ]

theorem BufferInv.init (h : Session.start settings source sink stream w = (.ok s, w')) :
    (init s w').BufferInv settings.chunkSize.toNat sink := by
  obtain ⟨reader, writer, w₁, w₂, log, hvalid, -, -, -, rfl⟩ := of_start h
  have hsize : max settings.chunkSize.toNat 1 = settings.chunkSize.toNat :=
    Nat.max_eq_left (Settings.chunkSize_pos hvalid)
  refine ⟨rfl, hsize, ?_, ?_, fun _ => rfl⟩
  · intro chunk hphase
    simp only [System.init, Inbound.start] at hphase
    split at hphase <;> cases hphase
  · simp only [System.init, Inbound.start, hsize]
    split
    · next hfits => simpa using hfits
    · next hfits => simpa using hfits

/-- No event breaks the inbound relay down, as long as its calls on the stream return and its sink
does not break down. -/
theorem BufferInv.step (hc : c.BufferInv size sink) (hpanics : c.ExitsSound)
    (hmedium : Medium.IsBounded κ)
    (hsink : sink.NeverBreaks) (hcall : event ≠ .crash .inbound) (h : c.step event = some c') :
    c'.BufferInv size sink := by
  obtain ⟨hundergo, -, hbroken⟩ := of_step h
  have hwhole : .inbound ∉ c.session.breakdowns event := by
    intro hmem
    obtain hcrash | ⟨-, hbreaks⟩ := of_mem_breakdowns hmem
    · exact hcall hcrash
    · have hkept := Inbound.breaks_of_neverBreaks (hsink.of_verdict hc.verdict)
      exact absurd (hbreaks.symm.trans hkept) Bool.noConfusion
  have hsame : .inbound ∈ c'.broken ↔ Inbound.maxBuffer < size := by
    rw [hbroken, List.mem_append, or_iff_right hwhole]
    exact hc.broken
  cases inboundMove hundergo with
  | rests _ h =>
    refine hc.keep (by rw [h]) (by rw [h]) ?_ hsame
    rw [h]
    exact hc.within
  | receives _ _ hreceive h =>
    refine hc.keep (by rw [h]; rfl) (by rw [h]; rfl) (fun chunk hphase => ?_) hsame
    rw [h] at hphase
    cases hphase
    rw [← hc.buffer]
    exact hmedium _ _ _ _ _ hreceive
  | handles _ hphase h =>
    refine ⟨?_, ?_, fun chunk hnext => ?_, hsame, fun hover => ?_⟩
    · rw [h, Inbound.handle_verdict, hc.verdict]
    · rw [h, Inbound.handle_bufferSize, hc.buffer]
    · rw [h] at hnext
      exact absurd hnext (Inbound.phase_handle_ne hphase _ _)
    · -- a relay without a buffer has its exit, and so no receipt to deal with
      have hexit : c.session.inbound.exit? = some (.panicked .inbound) :=
        hpanics.panics .inbound (hc.broken.2 hover)
      simp [Inbound.exit?, hphase] at hexit
  | reports _ _ h =>
    refine hc.keep (by rw [h]) (by rw [h]) (fun chunk hphase => ?_) hsame
    rw [h] at hphase
    cases hphase
  | crashes hevent => exact absurd hevent hcall

theorem bufferInv_of_exec (hmedium : Medium.IsBounded κ) (hsink : sink.NeverBreaks)
    (hcalls : .crash .inbound ∉ events)
    (hexec : exec settings source sink stream w events = some c) :
    c.session.ReportsSound ∧ c.ExitsSound ∧ c.BufferInv settings.chunkSize.toNat sink := by
  obtain ⟨s, w', hstart, hrun⟩ := of_exec hexec
  refine run_keeps (P := fun c => c.session.ReportsSound ∧ c.ExitsSound ∧
    c.BufferInv settings.chunkSize.toNat sink) ?_ ⟨.start hstart, .init hstart, .init hstart⟩
    hrun
  rintro event hmem c c' ⟨hknown, hpanics, hbufferInv⟩ hstep
  have hcall : event ≠ .crash .inbound := fun heq => hcalls (heq ▸ hmem)
  exact ⟨hknown.undergo (of_step hstep).1, hpanics.step hstep,
    hbufferInv.step hpanics hmedium hsink hcall hstep⟩

/-- The outbound relay breaks down only in a call. -/
theorem crash_of_outbound_broken (hexec : exec settings source sink stream w events = some c) :
    .outbound ∈ c.broken → .crash .outbound ∈ events := by
  obtain ⟨s, w', -, hrun⟩ := of_exec hexec
  refine run_keeps (P := fun c => .outbound ∈ c.broken → .crash .outbound ∈ events) ?_ ?_ hrun
  · intro event hmem c c' hbefore hstep hafter
    rw [(of_step hstep).2.2, List.mem_append] at hafter
    obtain hnew | hold := hafter
    · obtain rfl | ⟨hdir, -⟩ := of_mem_breakdowns hnew
      · exact hmem
      · cases hdir
    · exact hbefore hold
  · simp only [System.init]
    split <;> simp

/-- **The inbound relay breaks down exactly if its buffer cannot be had,** over every medium that
keeps within the buffer, with every sink that does not break down, and in every interleaving. The
settings are not asked about this: any size but zero passes. So a size of up to `maxBuffer` leaves
the session whole, and with a larger one it has broken down before anything is received, shows
nothing, and is told to have failed. The relay on its own comes to the same on every stream. -/
theorem inbound_breaks_iff_oversized (hmedium : Medium.IsBounded κ) (hsink : sink.NeverBreaks)
    (hcalls : .crash .inbound ∉ events)
    (hexec : exec settings source sink stream w events = some c) :
    settings.validate = .ok () ∧
    (∀ size, { settings with chunkSize := size }.validate = .ok () ↔ size ≠ 0) ∧
    (.inbound ∈ c.broken ↔ Inbound.maxBuffer < settings.chunkSize.toNat) ∧
    (∀ chunk, c.session.inbound.phase = .handling (.ok chunk) →
      chunk.length ≤ settings.chunkSize.toNat) ∧
    (∀ exit, c.session.exit? .inbound = some exit →
      (exit.cause = .panicked ↔ Inbound.maxBuffer < settings.chunkSize.toNat)) ∧
    (Inbound.maxBuffer < settings.chunkSize.toNat →
      c.session.exit? .inbound = some ⟨.inbound, .panicked, 0⟩ ∧ c.session.inbound.sink = sink) ∧
    (∀ report, c.session.report? = some report →
      (report.inbound.cause = .panicked ↔ Inbound.maxBuffer < settings.chunkSize.toNat) ∧
      (.crash .outbound ∉ events →
        (report.exitCode = 1 ↔ Inbound.maxBuffer < settings.chunkSize.toNat))) ∧
    (∀ peer script, ∃ exit,
      (Inbound.run script (.start peer sink settings.chunkSize.toNat)).2.1.exit? = some exit ∧
      (exit.cause = .panicked ↔ Inbound.maxBuffer < settings.chunkSize.toNat)) := by
  have hvalid : settings.validate = .ok () := by
    obtain ⟨s, w', hstart, -⟩ := of_exec hexec
    obtain ⟨reader, writer, w₁, w₂, log, hvalid, -⟩ := of_start hstart
    exact hvalid
  obtain ⟨hknown, hpanics, hbufferInv⟩ := bufferInv_of_exec hmedium hsink hcalls hexec
  have hreported {report : Report} (hreport : c.session.report? = some report) (dir : Direction) :
      (report.exit dir).cause = .panicked ↔ dir ∈ c.broken :=
    hpanics.panicked_iff (exit?_of_gone? ((hknown.report report (of_report? hreport)).1 dir))
  refine ⟨hvalid, fun size => ?_, hbufferInv.broken, hbufferInv.within, fun exit hexit => ?_,
    fun hover => ?_, fun report hreport => ⟨?_, fun hout => ?_⟩,
    fun peer script => Inbound.run_panics_iff hsink peer _ script⟩
  · obtain ⟨-, hothers⟩ := settings.validate_eq_ok_iff.1 hvalid
    rw [Settings.validate_eq_ok_iff]
    exact and_iff_left hothers
  · exact (hpanics.panicked_iff hexit).trans hbufferInv.broken
  · exact ⟨hpanics.panics .inbound (hbufferInv.broken.2 hover), hbufferInv.unshown hover⟩
  · exact (hreported hreport .inbound).trans hbufferInv.broken
  · rw [Report.exitCode_eq_one_iff, ← hbufferInv.broken]
    constructor
    · rintro ⟨dir, hdir⟩
      have hmem := (hreported hreport dir).1 hdir
      cases dir with
      | inbound => exact hmem
      | outbound => exact absurd (crash_of_outbound_broken hexec hmem) hout
    · exact fun hmem => ⟨.inbound, (hreported hreport .inbound).2 hmem⟩

/-- The peer says two letters and leaves, and nobody types anything. -/
def visit (relaying : List (Event Pipe)) : List (Event Pipe) :=
  [.elsewhere fun p => ((p.send 1 [0x68, 0x69]).map (·.2)).getD p,
    .elsewhere fun p => (Medium.shutdown p 1).2] ++ relaying ++
  [.act .reportInbound, .wait, .act .takeFirst, .act .trip, .act .release, .act .cancelInput,
    .act .reportOutbound, .act .join]

/-- With a buffer of 64 KiB the session goes well. -/
theorem inbound_breaks_iff_oversized_visit :
    ∃ c report, exec { chunkSize := 65536 } (.ofLines []) {} 0 {}
        (visit [.act .receive, .act .handle, .act .receive, .act .handle]) = some c ∧
      c.session.report? = some report ∧ c.session.inbound.sink.units = ["hi"] ∧
      report.inbound.cause ≠ .panicked ∧ report.exitCode ≠ 1 := by
  have hfacts : (exec { chunkSize := 65536 } (.ofLines []) {} 0 {}
      (visit [.act .receive, .act .handle, .act .receive, .act .handle])).map (fun c =>
        (c.session.report?.isSome, c.session.inbound.sink.units)) = some (true, ["hi"]) := by
    decide +kernel
  obtain ⟨c, hexec, hfacts⟩ := Option.map_eq_some_iff.1 hfacts
  obtain ⟨hsome, hunits⟩ := Prod.mk.inj hfacts
  obtain ⟨report, hreport⟩ := Option.isSome_iff_exists.1 hsome
  obtain ⟨-, -, -, -, -, -, hreports, -⟩ :=
    inbound_breaks_iff_oversized Pipe.isBounded (by simp [Sink.NeverBreaks]) (by simp [visit]) hexec
  obtain ⟨hcause, hcode⟩ := hreports report hreport
  have hfits : ¬ Inbound.maxBuffer < (65536 : UInt64).toNat := by decide
  exact ⟨c, report, hexec, hreport, hunits, mt hcause.1 hfits, mt (hcode (by simp [visit])).1 hfits⟩

/-- An environment that asks for a buffer of one byte more. -/
def oversized : String → Option String
  | "RELAY_CHUNK_SIZE" => some "9223372036854775808"
  | _ => none

/-- The settings pass, wherever they have the size from, and the session fails over a peer that does
nothing wrong. -/
theorem oversized_buffer_breaks_session :
    ∃ choices, Choices.parse Role.listen.grammar ["--chunk-size", "9223372036854775808"] =
        .ok choices ∧
      Role.listen.settings choices {} = .ofLookup oversized ∧
      (Settings.ofLookup oversized).validate = .ok () ∧
      (exec (.ofLookup oversized) (.ofLines []) {} 0 {} (visit [])).map (fun c =>
        (c.session.inbound.sink.units, c.session.report?.map fun report =>
          (report.inbound.cause, report.exitCode))) = some ([], some (.panicked, 1)) := by
  refine ⟨{ chunkSize := some 9223372036854775808 }, rfl, ?_, ?_, ?_⟩
  · rfl
  · rfl
  · decide +kernel

end System

end Session

end TextRelay
