import TextRelay.Proofs.Input.Segments
import TextRelay.Proofs.Outbound.Pumped

/-!
# The endings of lines

A text is cut into lines behind its line feeds (`Line.Cuts`), and a line loses its ending before it
is answered. A line feed is an ending, with a carriage return before it or without one, and it is
stripped and nothing else. There is one exception: a last line without a line feed loses a carriage
return that it ends with (`Line.law_iff`), so that the line that is sent, and compared with the
sentinel, is not the one that was typed.
-/

namespace TextRelay

namespace Line

/-! ## Endings -/

/-- A line that ends with a carriage return. -/
def EndsInReturn (line : String) : Prop := line.toList.getLast? = some '\r'

theorem dropLast?_concat (c : Char) (cs : List Char) : dropLast? c (cs ++ [c]) = cs := by
  simp [dropLast?]

theorem dropLast?_of_ne {c : Char} {cs : List Char} (h : cs.getLast? ≠ some c) :
    dropLast? c cs = cs :=
  if_neg h

theorem trimEnding_fed {body : String} (hreturn : ¬ EndsInReturn body) :
    trimEnding (body ++ "\n") = body := by
  have hfed : (body ++ "\n").toList = body.toList ++ ['\n'] := String.toList_append
  rw [trimEnding, hfed, dropLast?_concat, dropLast?_of_ne hreturn, String.ofList_toList]

theorem trimEnding_fed_return (body : String) : trimEnding (body ++ "\r\n") = body := by
  have hfed : (body ++ "\r\n").toList = (body.toList ++ ['\r']) ++ ['\n'] := by
    rw [String.toList_append, List.append_assoc]
    rfl
  rw [trimEnding, hfed, dropLast?_concat, dropLast?_concat, String.ofList_toList]

theorem trimEnding_return (body : String) : trimEnding (body ++ "\r") = body := by
  have hreturn : (body ++ "\r").toList = body.toList ++ ['\r'] := String.toList_append
  have hlast : (body.toList ++ ['\r']).getLast? ≠ some '\n' := by simp
  rw [trimEnding, hreturn, dropLast?_of_ne hlast, dropLast?_concat, String.ofList_toList]

theorem trimEnding_open {line : String} (hfeed : line.toList.getLast? ≠ some '\n')
    (hreturn : ¬ EndsInReturn line) : trimEnding line = line := by
  rw [trimEnding, dropLast?_of_ne hfeed, dropLast?_of_ne hreturn, String.ofList_toList]

theorem exists_concat {line : String} {c : Char} (h : line.toList.getLast? = some c) :
    ∃ body, line = body ++ .singleton c := by
  obtain ⟨front, hfront⟩ := List.getLast?_eq_some_iff.1 h
  refine ⟨.ofList front, ?_⟩
  rw [← String.toList_inj, hfront, String.toList_append, String.toList_ofList,
    String.toList_singleton]

/-- A carriage return at the very end is all that such a line loses. -/
theorem EndsInReturn.eq_trimEnding {line : String} (h : EndsInReturn line) :
    line = trimEnding line ++ "\r" := by
  obtain ⟨body, hbody⟩ := exists_concat h
  have hline : line = body ++ "\r" := hbody
  rw [hline, trimEnding_return]

/-- What is stripped is a line feed, a carriage return and a line feed, or nothing, unless the line
ends with a carriage return. -/
theorem law_iff (line : String) :
    (line = trimEnding line ∨ line = trimEnding line ++ "\n" ∨ line = trimEnding line ++ "\r\n") ↔
      ¬ EndsInReturn line := by
  constructor
  · intro hlaw hreturn
    have hline := hreturn.eq_trimEnding
    generalize trimEnding line = body at hlaw hline
    subst hline
    rcases hlaw with hsame | hfed | hboth
    · have hlength := congrArg String.length hsame
      simp at hlength
    · have hends := (String.append_right_inj body).1 hfed
      exact absurd hends (by decide)
    · have hends := (String.append_right_inj body).1 hboth
      exact absurd hends (by decide)
  · intro hreturn
    by_cases hfeed : line.toList.getLast? = some '\n'
    · obtain ⟨body, hbody⟩ := exists_concat hfeed
      have hline : line = body ++ "\n" := hbody
      subst hline
      by_cases hbefore : EndsInReturn body
      · obtain ⟨front, hfront⟩ := exists_concat hbefore
        have hwhole : body ++ "\n" = front ++ "\r\n" := by
          rw [hfront, String.append_assoc]
          rfl
        rw [hwhole, trimEnding_fed_return]
        exact .inr (.inr rfl)
      · rw [trimEnding_fed hbefore]
        exact .inr (.inl rfl)
    · rw [trimEnding_open hfeed hreturn]
      exact .inl rfl

/-! ## The lines of a text -/

/-- A text cut behind every line feed. -/
inductive Cuts : String → List String → Prop where
  | nil : Cuts "" []
  | fed {body rest : String} {pieces : List String} (hbody : '\n' ∉ body.toList)
    (hrest : Cuts rest pieces) : Cuts (body ++ "\n" ++ rest) ((body ++ "\n") :: pieces)
  | ended {body : String} (hbody : '\n' ∉ body.toList) (hne : body ≠ "") : Cuts body [body]

namespace Cuts

variable {content : String} {pieces : List String}

theorem prepend (h : Cuts content pieces) {c : Char} (hc : c ≠ '\n') :
    ∃ pieces, Cuts (.singleton c ++ content) pieces := by
  have hbodies : ∀ {body : String}, '\n' ∉ body.toList →
      '\n' ∉ (String.singleton c ++ body).toList := by
    intro body hbody hmem
    rw [String.toList_append, String.toList_singleton, List.mem_append, List.mem_singleton] at hmem
    rcases hmem with heq | hmem
    · exact hc heq.symm
    · exact hbody hmem
  have hfilled : ∀ {body : String}, String.singleton c ++ body ≠ "" := by
    intro body hempty
    exact String.singleton_ne_empty (String.append_eq_empty_iff.1 hempty).1
  cases h with
  | nil => exact ⟨_, .ended (hbodies (by simp)) hfilled⟩
  | fed hbody hrest =>
    rw [← String.append_assoc, ← String.append_assoc]
    exact ⟨_, .fed (hbodies hbody) hrest⟩
  | ended hbody hne => exact ⟨_, .ended (hbodies hbody) hfilled⟩

end Cuts

/-- Every text can be cut. -/
theorem exists_cuts (content : String) : ∃ pieces, Cuts content pieces := by
  rw [← String.ofList_toList (s := content)]
  induction content.toList with
  | nil => exact ⟨[], .nil⟩
  | cons c chars ih =>
    obtain ⟨pieces, hpieces⟩ := ih
    rw [String.ofList_cons]
    by_cases hc : c = '\n'
    · subst hc
      have hempty : '\n' ∉ "".toList := by simp
      exact ⟨_, .fed hempty hpieces⟩
    · exact hpieces.prepend hc

namespace Cuts

variable {content : String} {pieces : List String}

/-- A text ends with a carriage return exactly if one of its lines does. -/
theorem endsInReturn_iff (h : Cuts content pieces) :
    EndsInReturn content ↔ ∃ line ∈ pieces, EndsInReturn line := by
  induction h with
  | nil => simp [EndsInReturn]
  | @fed body rest pieces hbody hrest ih =>
    have hfirst : ¬ EndsInReturn (body ++ "\n") := by
      have hfed : (body ++ "\n").toList = body.toList ++ ['\n'] := String.toList_append
      simp [EndsInReturn, hfed]
    have hlast : EndsInReturn (body ++ "\n" ++ rest) ↔ EndsInReturn rest := by
      have hfed : (body ++ "\n" ++ rest).toList = (body.toList ++ ['\n']) ++ rest.toList := by
        rw [String.toList_append, String.toList_append]
        rfl
      rw [EndsInReturn, EndsInReturn, hfed, List.getLast?_append]
      cases rest.toList.getLast? with
      | none => simp
      | some c => simp
    rw [hlast, ih]
    constructor
    · rintro ⟨line, hmem, hline⟩
      exact ⟨line, List.mem_cons_of_mem _ hmem, hline⟩
    · rintro ⟨line, hmem, hline⟩
      rcases List.mem_cons.1 hmem with rfl | hlater
      · exact absurd hline hfirst
      · exact ⟨line, hlater, hline⟩
  | ended hbody hne => simp

/-- Only the last line of a text can end with a carriage return. -/
theorem getLast?_of_return (h : Cuts content pieces) {line : String} (hmem : line ∈ pieces)
    (hreturn : EndsInReturn line) : pieces.getLast? = some line := by
  induction h with
  | nil => cases hmem
  | @fed body rest pieces hbody hrest ih =>
    rcases List.mem_cons.1 hmem with rfl | hlater
    · have hfed : (body ++ "\n").toList = body.toList ++ ['\n'] := String.toList_append
      simp [EndsInReturn, hfed] at hreturn
    · rw [List.getLast?_cons, ih hlater]
      rfl
  | ended hbody hne =>
    rw [List.mem_singleton.1 hmem]
    rfl

end Cuts

end Line

/-! ## Lines as bytes -/

namespace LineReader

/-- Only a line feed is written with the byte of a line feed. -/
theorem eq_of_lineFeed_mem {c : Char} (h : lineFeed ∈ String.utf8EncodeChar c) : c = '\n' := by
  have hbyte : ∀ {n : Nat}, lineFeed = .ofNat n → n % 256 = 10 := by
    intro n heq
    have hnat := congrArg UInt8.toNat heq
    rw [UInt8.toNat_ofNat'] at hnat
    exact hnat.symm
  have hnat : c.val.toNat = 10 := by
    have hvalid : c.val.toNat < 0xD800 ∨ 0xDFFF < c.val.toNat ∧ c.val.toNat < 0x110000 := c.valid
    rw [String.utf8EncodeChar] at h
    generalize c.val.toNat = v at h hvalid
    -- a character of several bytes is written without any below `0x80`
    split at h
    · have := hbyte (List.mem_singleton.1 h)
      omega
    split at h
    · simp only [List.mem_cons, List.not_mem_nil, or_false] at h
      rcases h with h | h <;> have := hbyte h <;> omega
    split at h
    · simp only [List.mem_cons, List.not_mem_nil, or_false] at h
      rcases h with h | h | h <;> have := hbyte h <;> omega
    · simp only [List.mem_cons, List.not_mem_nil, or_false] at h
      rcases h with h | h | h | h <;> have := hbyte h <;> omega
  exact Char.ext (UInt32.toNat_inj.1 hnat)

theorem lineFeed_notMem_encode {body : String} (hbody : '\n' ∉ body.toList) :
    lineFeed ∉ Line.encode body := by
  intro hmem
  obtain ⟨c, hc, hbyte⟩ := List.mem_flatMap.1 hmem
  exact hbody (eq_of_lineFeed_mem hbyte ▸ hc)

/-- The bytes of a text are cut where the text is. -/
theorem segments_encode {content : String} {pieces : List String} (h : Line.Cuts content pieces) :
    segments (Line.encode content) = pieces.map Line.encode := by
  induction h with
  | nil => rfl
  | @fed body rest pieces hbody hrest ih =>
    have hfeed : Line.encode (body ++ "\n") = Line.encode body ++ [lineFeed] :=
      Utf8.encode_append body "\n"
    have hbytes : Line.encode (body ++ "\n" ++ rest) =
        Line.encode body ++ lineFeed :: Line.encode rest := by
      rw [Line.encode, Utf8.encode_append, ← Line.encode, hfeed, List.append_assoc]
      rfl
    rw [hbytes, segments_fed (lineFeed_notMem_encode hbody), ih, List.map_cons, hfeed]
  | @ended body hbody hne =>
    apply segments_ended (lineFeed_notMem_encode hbody)
    intro hnone
    have hsame : Chunk.decode (Utf8.encode body) = Chunk.decode (Utf8.encode "") :=
      congrArg Chunk.decode hnone
    rw [Chunk.decode_encode, Chunk.decode_encode] at hsame
    exact hne (Except.ok.inj hsame)

/-- A reader answers a text line by line, and then the end of the input. -/
theorem reads_of_cuts {content : String} {pieces : List String} (h : Line.Cuts content pieces)
    {capacity : Nat} {arrivals : List Arrival} (hroom : 0 < capacity)
    (hdelivers : Delivers arrivals (Line.encode content)) (n : Nat) :
    Source.reads n (.reader { capacity, arrivals }) =
      (pieces.map fun line => .event (.line (Line.trimEnding line))).take n ++
        List.replicate (n - pieces.length) (.event .ended) := by
  have hunread : Unread { capacity, arrivals } (Line.encode content) :=
    ⟨hroom, rfl, _, hdelivers, rfl⟩
  have hanswers : ((segments (Line.encode content)).map fun segment => .event (eventOf segment)) =
      pieces.map fun line => Reading.event (.line (Line.trimEnding line)) := by
    rw [segments_encode h, List.map_map]
    apply List.map_congr_left
    intro line hline
    have hmem : Line.encode line ∈ segments (Line.encode content) := by
      rw [segments_encode h]
      exact List.mem_map_of_mem hline
    rw [Function.comp_apply, eventOf_encode (ne_nil_of_mem_segments hmem)]
  rw [reads_unread hunread, hanswers, segments_encode h, List.length_map]

theorem lines_of_cuts {content : String} {pieces : List String} (h : Line.Cuts content pieces)
    {capacity : Nat} {arrivals : List Arrival} (hroom : 0 < capacity)
    (hdelivers : Delivers arrivals (Line.encode content)) {n : Nat} (hn : pieces.length ≤ n) :
    Reading.lines (Source.reads n (.reader { capacity, arrivals })) =
      pieces.map Line.trimEnding := by
  have htyped : (pieces.map fun line => .event (.line (Line.trimEnding line))) =
      Reading.typed (pieces.map Line.trimEnding) := by
    simp [Reading.typed]
  have hended : ∀ k, Reading.lines (List.replicate k (.event .ended)) = [] := by
    intro k
    cases k <;> rfl
  rw [reads_of_cuts h hroom hdelivers, List.take_of_length_le (by simpa using hn), htyped,
    Reading.lines_typed, hended, List.append_nil]

/-- **A line loses its ending and nothing else, but for a carriage return at the end of the input.**
A text is cut behind its line feeds, and answered line by line. A line is what is answered, or that
and a line feed, or that and a carriage return with a line feed, exactly if it does not end with a
carriage return; only the last line can, if the text does, and then it loses it. The relay sends
what is answered, and ends for the sentinel if that is among it. -/
theorem return_lost_at_end (content : String) : ∃ pieces, Line.Cuts content pieces ∧
    (∀ line ∈ pieces,
      (line = Line.trimEnding line ∨ line = Line.trimEnding line ++ "\n" ∨
          line = Line.trimEnding line ++ "\r\n") ↔ ¬ Line.EndsInReturn line) ∧
    (∀ line ∈ pieces, Line.EndsInReturn line →
      line = Line.trimEnding line ++ "\r" ∧ pieces.getLast? = some line) ∧
    (Line.EndsInReturn content ↔ ∃ line ∈ pieces, Line.EndsInReturn line) ∧
    ∀ capacity arrivals, 0 < capacity → Delivers arrivals (Line.encode content) →
      (∀ n, Source.reads n (.reader { capacity, arrivals }) =
        (pieces.map fun line => .event (.line (Line.trimEnding line))).take n ++
          List.replicate (n - pieces.length) (.event .ended)) ∧
      ∀ (sentinel : String) (stream : SendScript), stream.AlwaysAccepts →
        ∀ (moves : List PumpedOutbound.Move) (f : PumpedOutbound),
          (PumpedOutbound.start (.reader { capacity, arrivals }) sentinel stream).run moves =
            some f →
          (f.relay.exit?.isSome = true ∨ f.IsQuiescent → f.stream.wire =
            stream.wire ++ encodeAll (linesToSend sentinel (pieces.map Line.trimEnding))) ∧
          ∀ exit, f.relay.exit? = some exit →
            (exit.cause = .localSentinel ↔ sentinel ∈ pieces.map Line.trimEnding) := by
  obtain ⟨pieces, hcuts⟩ := Line.exists_cuts content
  refine ⟨pieces, hcuts, fun line _ => Line.law_iff line, ?_, hcuts.endsInReturn_iff, ?_⟩
  · intro line hmem hreturn
    exact ⟨hreturn.eq_trimEnding, hcuts.getLast?_of_return hmem hreturn⟩
  · intro capacity arrivals hroom hdelivers
    refine ⟨reads_of_cuts hcuts hroom hdelivers, ?_⟩
    intro sentinel stream hstream moves f hrun
    obtain ⟨⟨sent, part, hf⟩, -⟩ := (PumpedOutbound.SenderInv.start hstream).run hrun
    have hlines := lines_of_cuts hcuts hroom hdelivers
      (Nat.le_max_right f.intake.count pieces.length)
    constructor
    · intro hend
      rw [hf.wire_of_done hend (Nat.le_max_left f.intake.count pieces.length), hlines]
    · intro exit hexit
      rw [hf.localSentinel_iff hexit (Nat.le_max_left f.intake.count pieces.length), hlines]

/-- The first line loses both characters of its ending, the second one its line feed, and the last
one the carriage return that was typed. -/
theorem return_lost_at_end_of_three :
    let arrivals : List Arrival :=
      [.bytes [0x68, 0xC3], .bytes [0xA9, 0x0D, 0x0A], .bytes [0x0A, 0x78, 0x0D]]
    Delivers arrivals (Line.encode "hé\r\n\nx\r") ∧
    ∃ pieces, Line.Cuts "hé\r\n\nx\r" pieces ∧
      (∃ line, pieces.getLast? = some line ∧ line = Line.trimEnding line ++ "\r") ∧
      Source.reads 4 (.reader { capacity := 2, arrivals }) =
        [.event (.line "hé"), .event (.line ""), .event (.line "x"), .event .ended] ∧
      ∃ f, (PumpedOutbound.start (.reader { capacity := 2, arrivals }) "x" { steps := [] }).run
          [.read, .take, .check, .send, .read, .take, .check, .read, .take, .check, .send] =
            some f ∧
        f.stream.wire = encodeAll (linesToSend "x" (pieces.map Line.trimEnding)) ∧
        f.stream.wire = Line.encode "héx" ∧ "x" ∈ pieces.map Line.trimEnding := by
  intro arrivals
  have hdelivers : Delivers arrivals (Line.encode "hé\r\n\nx\r") :=
    .bytes (by decide) (.bytes (by decide) (.bytes (by decide) .nil))
  obtain ⟨pieces, hcuts, -, hlast, hreturn, hreads⟩ := return_lost_at_end "hé\r\n\nx\r"
  obtain ⟨-, hfeed⟩ := hreads 2 arrivals (by decide) hdelivers
  have hfacts :
      ((PumpedOutbound.start (.reader { capacity := 2, arrivals }) "x" { steps := [] }).run
        [.read, .take, .check, .send, .read, .take, .check, .read, .take, .check, .send]).map
      (fun f => (f.relay.exit?, f.stream.wire)) =
      some (some ⟨.outbound, .localSentinel, 4⟩, Line.encode "héx") := by
    decide +kernel
  obtain ⟨f, hrun, hf⟩ := Option.map_eq_some_iff.1 hfacts
  obtain ⟨hexit, hwire⟩ := Prod.mk.inj hf
  have haccepts : SendScript.AlwaysAccepts { steps := [] } := ⟨rfl, by simp⟩
  obtain ⟨hsent, hcause⟩ := hfeed "x" { steps := [] } haccepts _ f hrun
  obtain ⟨line, hmem, hline⟩ := hreturn.1 (by unfold Line.EndsInReturn; decide +kernel)
  obtain ⟨htrimmed, hgetLast⟩ := hlast line hmem hline
  exact ⟨hdelivers, pieces, hcuts, ⟨line, hgetLast, htrimmed⟩, by decide +kernel, f, hrun,
    hsent (.inl (by rw [hexit]; rfl)), hwire, (hcause _ hexit).1 rfl⟩

/-- A last line that ends with a carriage return is not answered as it was typed, and is taken for
the sentinel, which it is not. -/
theorem return_lost_at_end_of_break :
    let source : Source := .reader { arrivals := [.bytes (Line.encode "break\r")] }
    Line.Cuts "break\r" ["break\r"] ∧
    source.reads 2 = [.event (.line "break"), .event .ended] ∧
    ¬ ("break\r" = "break" ∨ "break\r" = "break" ++ "\n" ∨ "break\r" = "break" ++ "\r\n") ∧
    ((PumpedOutbound.start source "break" { steps := [] }).run [.read, .take, .check, .send]).map
        (fun f => (f.stream.wire, f.relay.exit?)) =
      some (Line.encode "break", some ⟨.outbound, .localSentinel, 5⟩) := by
  refine ⟨.ended (by decide +kernel) (by decide +kernel), ?_, ?_, ?_⟩
  · decide +kernel
  · decide +kernel
  · decide +kernel

end LineReader

end TextRelay
