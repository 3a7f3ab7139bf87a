import TextRelay.Input.Source
import TextRelay.Proofs.Text.Decoding

/-!
# Lines do not depend on how their bytes arrive

A reader of lines never sees its input as a whole: bytes arrive in pieces, with interruptions
between them, and pass through a buffer. What it answers depends on the bytes alone. `segments` cuts
them behind every line feed, without a buffer, and `reads_of_delivery` says that the reader answers
segment by segment, and with the end of the input ever after.

The invariant is `Unread`: the buffer, followed by what will arrive, is the part of the input that
no answer has used yet. One call takes the next segment off it (`gather_unread`).
-/

namespace TextRelay

namespace LineReader

/-! ## Segments -/

/-- Bytes cut behind every line feed. The last segment may lack one; none is empty. -/
def segments : Bytes → List Bytes
  | [] => []
  | b :: bytes =>
    if b = lineFeed then [b] :: segments bytes
    else match segments bytes with
      | [] => [[b]]
      | first :: others => (b :: first) :: others

/-- The first line of some bytes and what follows it: up to their first line feed, or all of them if
they have none. -/
inductive Breaks : Bytes → Bytes → Bytes → Prop where
  | fed {body : Bytes} (hbody : lineFeed ∉ body) (rest : Bytes) :
    Breaks (body ++ lineFeed :: rest) (body ++ [lineFeed]) rest
  | ended {body : Bytes} (hbody : lineFeed ∉ body) : Breaks body body []

theorem Breaks.prepend {front content line rest : Bytes} (h : Breaks content line rest)
    (hfront : lineFeed ∉ front) : Breaks (front ++ content) (front ++ line) rest := by
  have hboth : ∀ {body : Bytes}, lineFeed ∉ body → lineFeed ∉ front ++ body := by
    intro body hbody hmem
    exact (List.mem_append.1 hmem).elim hfront hbody
  cases h with
  | fed hbody rest =>
    rw [← List.append_assoc, ← List.append_assoc]
    exact .fed (hboth hbody) rest
  | ended hbody => exact .ended (hboth hbody)

theorem Breaks.of_nil {content line rest : Bytes} (h : Breaks content line rest)
    (hnil : content = []) : line = [] ∧ rest = [] := by
  cases h with
  | fed => simp at hnil
  | ended => exact ⟨hnil, rfl⟩

theorem segments_fed {body : Bytes} (hbody : lineFeed ∉ body) (rest : Bytes) :
    segments (body ++ lineFeed :: rest) = (body ++ [lineFeed]) :: segments rest := by
  induction body with
  | nil => rw [List.nil_append, segments, if_pos rfl, List.nil_append]
  | cons b body ih =>
    rw [List.mem_cons, not_or] at hbody
    rw [List.cons_append, segments, if_neg (Ne.symm hbody.1), ih hbody.2]
    rfl

theorem segments_ended {body : Bytes} (hbody : lineFeed ∉ body) (hne : body ≠ []) :
    segments body = [body] := by
  induction body with
  | nil => exact absurd rfl hne
  | cons b body ih =>
    rw [List.mem_cons, not_or] at hbody
    rw [segments, if_neg (Ne.symm hbody.1)]
    cases body with
    | nil => rfl
    | cons x body => rw [ih hbody.2 (List.cons_ne_nil _ _)]

theorem Breaks.segments_eq {content line rest : Bytes} (h : Breaks content line rest)
    (hne : content ≠ []) : segments content = line :: segments rest := by
  cases h with
  | fed hbody rest => exact segments_fed hbody rest
  | ended hbody => exact segments_ended hbody hne

theorem ne_nil_of_mem_segments {segment content : Bytes} (h : segment ∈ segments content) :
    segment ≠ [] := by
  induction content generalizing segment with
  | nil => cases h
  | cons b content ih =>
    rw [segments] at h
    split at h
    · rcases List.mem_cons.1 h with rfl | hlater
      · exact List.cons_ne_nil _ _
      · exact ih hlater
    split at h
    · rw [List.mem_singleton.1 h]
      exact List.cons_ne_nil _ _
    · next first others hsegments =>
      rcases List.mem_cons.1 h with rfl | hlater
      · exact List.cons_ne_nil _ _
      · exact ih (hsegments ▸ List.mem_cons_of_mem first hlater)

/-! ## The buffer -/

theorem of_cutLine_some {bytes line rest : Bytes} (h : cutLine bytes = some (line, rest)) :
    ∃ body, lineFeed ∉ body ∧ line = body ++ [lineFeed] ∧ bytes = body ++ lineFeed :: rest := by
  rw [cutLine] at h
  split at h
  · next i hindex =>
    obtain ⟨hi, hfeed, hbefore⟩ := List.idxOf?_eq_some_iff.1 hindex
    rw [Option.some.injEq, Prod.mk.injEq] at h
    obtain ⟨rfl, rfl⟩ := h
    refine ⟨bytes.take i, ?_, ?_, ?_⟩
    · intro hmem
      obtain ⟨j, hj, hget⟩ := List.mem_iff_getElem.1 hmem
      rw [List.length_take] at hj
      rw [List.getElem_take] at hget
      exact hbefore j (by omega) hget
    · rw [List.take_succ_eq_append_getElem hi, hfeed]
    · rw [← hfeed, List.getElem_cons_drop, List.take_append_drop]
  · cases h

theorem of_cutLine_none {bytes : Bytes} (h : cutLine bytes = none) : lineFeed ∉ bytes := by
  rw [cutLine] at h
  split at h
  · cases h
  · next hnone => exact List.idxOf?_eq_none_iff.1 hnone

/-- A way for some bytes to arrive: in pieces, none of them empty, with interruptions anywhere. -/
inductive Delivers : List Arrival → Bytes → Prop where
  | nil : Delivers [] []
  | bytes {data content : Bytes} {later : List Arrival} (hdata : data ≠ [])
    (hlater : Delivers later content) : Delivers (.bytes data :: later) (data ++ content)
  | interrupted {fault : Fault} {content : Bytes} {later : List Arrival}
    (hkind : fault.kind = .interrupted) (hlater : Delivers later content) :
    Delivers (.fault fault :: later) content

theorem Delivers.leftover {later : List Arrival} {content : Bytes} (h : Delivers later content)
    (rest : Bytes) : Delivers (leftover rest later) (rest ++ content) := by
  cases rest with
  | nil => exact h
  | cons b rest => exact .bytes (List.cons_ne_nil b rest) h

/-- The part of the input that no answer has used yet: what is in the buffer, and what will arrive
before the input ends. -/
structure Unread (r : LineReader) (content : Bytes) : Prop where
  room : 0 < r.capacity
  closed : r.isOpen = false
  held : ∃ ahead, Delivers r.arrivals ahead ∧ content = r.buffer ++ ahead

section gather

variable {r : LineReader} {line rest : Bytes} (sofar : Bytes) {later : List Arrival}

theorem gather_line (hcut : cutLine r.buffer = some (line, rest)) :
    r.gather sofar = some (.ok (sofar ++ line), { r with buffer := rest }) := by
  rw [gather, hcut]

theorem gather_end (hcut : cutLine r.buffer = none) (harrivals : r.arrivals = [])
    (hclosed : r.isOpen = false) :
    r.gather sofar = some (.ok (sofar ++ r.buffer), { r with buffer := [] }) := by
  obtain ⟨capacity, buffer, arrivals, isOpen⟩ := r
  subst harrivals hclosed
  rw [gather, hcut]
  rfl

theorem gather_interrupted (hcut : cutLine r.buffer = none) {fault : Fault}
    (harrivals : r.arrivals = .fault fault :: later) (hkind : fault.kind = .interrupted) :
    r.gather sofar = gather { r with buffer := [], arrivals := later } (sofar ++ r.buffer) := by
  obtain ⟨capacity, buffer, arrivals, isOpen⟩ := r
  subst harrivals
  rw [gather, hcut]
  exact if_pos hkind

theorem gather_bytes (hcut : cutLine r.buffer = none) {b : UInt8} {bs : Bytes}
    (harrivals : r.arrivals = .bytes (b :: bs) :: later) {room : Nat}
    (hcapacity : r.capacity = room + 1) :
    r.gather sofar = gather { r with
      buffer := b :: bs.take room
      arrivals := leftover (bs.drop room) later } (sofar ++ r.buffer) := by
  obtain ⟨capacity, buffer, arrivals, isOpen⟩ := r
  subst harrivals hcapacity
  rw [gather, hcut]

end gather

/-- One call takes the first line off what is unread. -/
theorem gather_unread {r : LineReader} {content : Bytes} (h : r.Unread content) (sofar : Bytes) :
    ∃ line rest r', Breaks content line rest ∧
      r.gather sofar = some (.ok (sofar ++ line), r') ∧ r'.Unread rest := by
  obtain ⟨hroom, hclosed, ahead, hahead, rfl⟩ := h
  induction r, sofar using gather.induct generalizing ahead with
  | case1 r sofar line rest hcut =>
    obtain ⟨body, hbody, rfl, hbuffer⟩ := of_cutLine_some hcut
    refine ⟨_, rest ++ ahead, _, ?_, gather_line sofar hcut, hroom, hclosed, ahead, hahead, rfl⟩
    rw [hbuffer, List.append_assoc, List.cons_append]
    exact .fed hbody (rest ++ ahead)
  | case3 r sofar hcut harrivals =>
    rw [harrivals] at hahead
    cases hahead
    refine ⟨r.buffer, [], _, ?_, gather_end sofar hcut harrivals hclosed, hroom, hclosed, [], ?_,
      rfl⟩
    · rw [List.append_nil]
      exact .ended (of_cutLine_none hcut)
    · rw [harrivals]
      exact .nil
  | case4 r sofar hcut gathered fault later harrivals hkind ih =>
    rw [harrivals] at hahead
    cases hahead with
    | interrupted _ hlater =>
      obtain ⟨line, rest, r', hbreaks, hgather, hunread⟩ := ih hroom hclosed ahead hlater
      refine ⟨r.buffer ++ line, rest, r', hbreaks.prepend (of_cutLine_none hcut), ?_, hunread⟩
      rw [gather_interrupted sofar hcut harrivals hkind, hgather, List.append_assoc]
  | case8 r sofar hcut gathered b bs later harrivals room hcapacity ih =>
    rw [harrivals] at hahead
    cases hahead with
    | @bytes _ content _ _ hlater =>
      obtain ⟨line, rest, r', hbreaks, hgather, hunread⟩ :=
        ih hroom hclosed _ (hlater.leftover (bs.drop room))
      have hsame : b :: bs.take room ++ (bs.drop room ++ content) = b :: bs ++ content := by
        rw [List.cons_append, ← List.append_assoc, List.take_append_drop, List.cons_append]
      rw [hsame] at hbreaks
      refine ⟨r.buffer ++ line, rest, r', hbreaks.prepend (of_cutLine_none hcut), ?_, hunread⟩
      rw [gather_bytes sofar hcut harrivals hcapacity, hgather, List.append_assoc]
  -- The input is closed, its only faults are interruptions, and neither a piece nor the buffer is
  -- empty.
  | case2 r sofar hcut harrivals hopen =>
    rw [hclosed] at hopen
    cases hopen
  | case5 r sofar hcut fault later harrivals hkind =>
    rw [harrivals] at hahead
    cases hahead with
    | interrupted hinterrupted _ => exact absurd hinterrupted hkind
  | case6 r sofar hcut later harrivals =>
    rw [harrivals] at hahead
    cases hahead with
    | bytes hdata _ => exact absurd rfl hdata
  | case7 r sofar hcut b bs later harrivals hcapacity =>
    rw [hcapacity] at hroom
    cases hroom

/-! ## The answers -/

theorem eventOf_encode {text : String} (hne : Line.encode text ≠ []) :
    eventOf (Line.encode text) = .line (Line.trimEnding text) := by
  rw [eventOf, if_neg (by simpa using hne), Line.encode, Chunk.decode_encode]

theorem eventOf_of_not_isText {segment : Bytes} (h : ¬ Utf8.IsText segment) :
    eventOf segment = .failed notText := by
  have hne : segment ≠ [] := by
    rintro rfl
    exact h ⟨"", rfl⟩
  rw [eventOf, if_neg (by simpa using hne)]
  cases hdecode : Chunk.decode segment with
  | error e => rfl
  | ok text => exact absurd ⟨text, Chunk.decode_eq_ok_iff.1 hdecode⟩ h

theorem read_unread {r : LineReader} {content : Bytes} (h : r.Unread content) :
    ∃ line rest r', Breaks content line rest ∧ r.read = some (eventOf line, r') ∧
      r'.Unread rest := by
  obtain ⟨line, rest, r', hbreaks, hgather, hunread⟩ := gather_unread h []
  refine ⟨line, rest, r', hbreaks, ?_, hunread⟩
  rw [read, hgather]
  rfl

/-- Whatever is unread is answered segment by segment, and then the input is at its end. -/
theorem reads_unread {r : LineReader} {content : Bytes} (h : r.Unread content) (n : Nat) :
    Source.reads n (.reader r) =
      ((segments content).map fun segment => .event (eventOf segment)).take n ++
        List.replicate (n - (segments content).length) (.event .ended) := by
  induction n generalizing r content with
  | zero => simp [Source.reads]
  | succ n ih =>
    obtain ⟨line, rest, r', hbreaks, hread, hunread⟩ := read_unread h
    have hreads : Source.reads (n + 1) (.reader r) =
        .event (eventOf line) :: Source.reads n (.reader r') := by
      rw [Source.reads, Source.read, hread]
      rfl
    rw [hreads, ih hunread]
    by_cases hcontent : content = []
    · obtain ⟨rfl, rfl⟩ := hbreaks.of_nil hcontent
      rw [hcontent]
      simp [segments, eventOf, List.replicate_succ]
    · rw [hbreaks.segments_eq hcontent, List.map_cons, List.take_succ_cons, List.length_cons,
        Nat.add_sub_add_right, List.cons_append]

/-- **What a reader answers depends on the bytes alone,** however they arrive and whatever its
buffer holds: for each segment its line without the ending, or a fault if the segment is no text;
and after the last one, the end of the input for ever. -/
theorem reads_of_delivery (content : Bytes) :
    (∀ segment ∈ segments content, ∀ text, segment = Line.encode text →
      eventOf segment = .line (Line.trimEnding text)) ∧
    (∀ segment ∈ segments content, (∀ text, segment ≠ Line.encode text) →
      eventOf segment = .failed ⟨.invalidData, "stream did not contain valid UTF-8"⟩) ∧
    ∀ capacity arrivals, 0 < capacity → Delivers arrivals content → ∀ n,
      Source.reads n (.reader { capacity, arrivals }) =
        ((segments content).map fun segment => .event (eventOf segment)).take n ++
          List.replicate (n - (segments content).length) (.event .ended) := by
  refine ⟨?_, ?_, ?_⟩
  · rintro segment hsegment text rfl
    exact eventOf_encode (ne_nil_of_mem_segments hsegment)
  · intro segment _ hsegment
    apply eventOf_of_not_isText
    rintro ⟨text, htext⟩
    exact hsegment text htext
  · intro capacity arrivals hroom hdelivers n
    exact reads_unread ⟨hroom, rfl, content, hdelivers, rfl⟩ n

/-- The pieces cut a character, a line ending and two lines apart, and the buffer has room for two
bytes. -/
def piecemeal : List Arrival :=
  [.bytes [0x68, 0xC3], .fault (.ofKind .interrupted), .bytes [0xA9, 0x0D],
    .bytes [0x0A, 0x0A, 0xFF], .fault (.ofKind .interrupted), .bytes [0x0A, 0x78]]

theorem reads_of_delivery_piecemeal :
    Delivers piecemeal [0x68, 0xC3, 0xA9, 0x0D, 0x0A, 0x0A, 0xFF, 0x0A, 0x78] ∧
      Source.reads 6 (.reader { capacity := 2, arrivals := piecemeal }) =
        [.event (.line "hé"), .event (.line ""), .event (.failed notText), .event (.line "x"),
          .event .ended, .event .ended] := by
  have hdelivers : Delivers piecemeal [0x68, 0xC3, 0xA9, 0x0D, 0x0A, 0x0A, 0xFF, 0x0A, 0x78] := by
    refine .bytes (by decide) (.interrupted rfl (.bytes (by decide) (.bytes (by decide) ?_)))
    exact .interrupted rfl (.bytes (by decide) .nil)
  obtain ⟨-, -, hreads⟩ :=
    reads_of_delivery [0x68, 0xC3, 0xA9, 0x0D, 0x0A, 0x0A, 0xFF, 0x0A, 0x78]
  refine ⟨hdelivers, (hreads 2 piecemeal (by decide) hdelivers 6).trans ?_⟩
  decide +kernel

end LineReader

end TextRelay
