import TextRelay.Proofs.Inbound.Account
import TextRelay.Proofs.Text.Utf8

/-!
# Texts that arrive in chunks

Chunks are shown one by one, so a text that arrives in several of them is shown as it is only if it
was cut between characters. A cut inside a character costs: its first part shows as one `U+FFFD`,
and each byte of the rest as another, which makes at least two characters of one. So the text that
is shown is too long, and cannot be mistaken for the one that was sent, whatever that holds.
-/

namespace TextRelay

namespace Utf8

theorem fresh_flatten {chunks : List Bytes} (hchunks : ∀ chunk ∈ chunks, Fresh chunk) :
    Fresh chunks.flatten := by
  induction chunks with
  | nil => exact fresh_nil
  | cons chunk rest ih =>
    rw [List.flatten_cons]
    cases chunk with
    | nil => exact ih fun chunk hmem => hchunks chunk (List.mem_cons_of_mem _ hmem)
    | cons b bytes => exact hchunks (b :: bytes) List.mem_cons_self

theorem Fresh.of_append {first second : Bytes} (hne : first ≠ []) (h : Fresh (first ++ second)) :
    Fresh first := by
  obtain ⟨b, bytes, rfl⟩ := List.exists_cons_of_ne_nil hne
  exact h

/-- No cut between chunks falls inside a character of the text. -/
def Aligned (text : String) (chunks : List Bytes) : Prop :=
  ∀ before after, chunks = before ++ after →
    String.Pos.Raw.IsValid text ⟨before.flatten.length⟩

variable {text : String} {chunks : List Bytes}

theorem aligned_iff (hne : [] ∉ chunks) (hchunks : chunks.flatten = encode text) :
    Aligned text chunks ↔ ∀ chunk ∈ chunks, Fresh chunk := by
  have hvalid {before after : List Bytes} (hsplit : chunks = before ++ after) :
      String.Pos.Raw.IsValid text ⟨before.flatten.length⟩ ↔ Fresh after.flatten := by
    apply isValid_iff_fresh
    rw [← hchunks, hsplit, List.flatten_append]
  constructor
  · intro haligned chunk hmem
    obtain ⟨before, after, hsplit⟩ := List.append_of_mem hmem
    have hfresh := (hvalid hsplit).1 (haligned before _ hsplit)
    rw [List.flatten_cons] at hfresh
    exact hfresh.of_append fun hnil => hne (hnil ▸ hmem)
  · intro hfresh before after hsplit
    rw [hvalid hsplit]
    apply fresh_flatten
    intro chunk hmem
    exact hfresh chunk (hsplit ▸ List.mem_append_right before hmem)

end Utf8

namespace Chunk

variable {text : String} {chunks : List Bytes}

/-- Chunks that all begin with a new character are texts of their own. -/
theorem join_shown_of_fresh (hchunks : chunks.flatten = Utf8.encode text)
    (hfresh : ∀ chunk ∈ chunks, Utf8.Fresh chunk) :
    String.join (chunks.map shown) = text := by
  induction chunks generalizing text with
  | nil =>
    have hlength := Utf8.heads_encode text
    rw [← hchunks] at hlength
    exact (String.length_eq_zero_iff.1 hlength.symm).symm
  | cons chunk rest ih =>
    rw [List.flatten_cons] at hchunks
    have hrest : ∀ chunk ∈ rest, Utf8.Fresh chunk :=
      fun chunk hmem => hfresh chunk (List.mem_cons_of_mem _ hmem)
    obtain ⟨before, after, rfl, rfl, hafter⟩ :=
      Utf8.exists_texts_of_fresh hchunks.symm (Utf8.fresh_flatten hrest)
    rw [List.map_cons, String.join_cons, shown_encode, ih hafter hrest]

theorem heads_le_length_join (chunks : List Bytes) :
    Utf8.heads chunks.flatten ≤ (String.join (chunks.map shown)).length := by
  induction chunks with
  | nil => exact Nat.zero_le _
  | cons chunk rest ih =>
    rw [List.flatten_cons, Utf8.heads_append, List.map_cons, String.join_cons, String.length_append,
      length_shown]
    exact Nat.add_le_add (Utf8.heads_le_length_pieces chunk) ih

/-- A chunk that goes on with a character begun before shows too many characters. -/
theorem heads_lt_length_join (hcut : ∃ chunk ∈ chunks, ¬ Utf8.Fresh chunk) :
    Utf8.heads chunks.flatten < (String.join (chunks.map shown)).length := by
  induction chunks with
  | nil =>
    obtain ⟨chunk, hmem, -⟩ := hcut
    cases hmem
  | cons first rest ih =>
    rw [List.flatten_cons, Utf8.heads_append, List.map_cons, String.join_cons, String.length_append,
      length_shown]
    obtain ⟨chunk, hmem, hnot⟩ := hcut
    rcases List.mem_cons.1 hmem with rfl | hmem
    · apply Nat.add_lt_add_of_lt_of_le _ (heads_le_length_join rest)
      cases chunk with
      | nil => exact absurd Utf8.fresh_nil hnot
      | cons b bytes =>
        apply Utf8.heads_lt_length_pieces
        simpa [Utf8.Fresh] using hnot
    · exact Nat.add_lt_add_of_le_of_lt (Utf8.heads_le_length_pieces first) (ih ⟨chunk, hmem, hnot⟩)

end Chunk

theorem ReceiveScript.receives_data {size : Nat} {chunks : List Bytes} (hne : [] ∉ chunks)
    (hroom : ∀ chunk ∈ chunks, chunk.length ≤ size) (tripped : Bool) (buffers : List Nat) :
    ∃ s', Receives size ⟨chunks.map .data, [], tripped, buffers⟩ chunks (.ok ()) s' := by
  induction chunks generalizing buffers with
  | nil => exact ⟨_, .ended receive_nil⟩
  | cons chunk rest ih =>
    rw [List.mem_cons, not_or] at hne
    obtain ⟨hchunk, hrest⟩ := List.forall_mem_cons.1 hroom
    obtain ⟨s', hs⟩ := ih hne.2 hrest (buffers ++ [size])
    refine ⟨s', .chunk (Ne.symm hne.1) ?_ hs⟩
    rw [List.map_cons, receive_data, List.take_of_length_le hchunk, List.drop_of_length_le hchunk]

namespace Inbound

/-- **A text that arrives in chunks is shown as it was sent exactly if it was cut between its
characters, and otherwise shows more characters than it has.** Any chunks can arrive, one at a time;
however they do, with whatever interruptions and however the stream ends, what is shown depends on
the cuts alone. -/
theorem shown_iff_aligned {text : String} {chunks : List Bytes}
    (hchunks : chunks.flatten = Line.encode text) (hne : [] ∉ chunks) {chunkSize : Nat}
    (hroom : ∀ chunk ∈ chunks, chunk.length ≤ chunkSize) (hbuffer : chunkSize ≤ maxBuffer)
    {sink : Sink} (hsink : sink.NeverBreaks) (hnew : sink.offered = []) (peer : String) :
    (∃ s', ReceiveScript.Receives (max chunkSize 1) { steps := chunks.map .data } chunks
      (.ok ()) s') ∧
    ∀ s ending s', s.Receives (max chunkSize 1) chunks ending s' →
      let shown := String.join (run s (start peer sink chunkSize)).2.1.sink.offered
      (shown = text ↔ Utf8.Aligned text chunks) ∧
      (¬ Utf8.Aligned text chunks → text.length < shown.length) := by
  refine ⟨ReceiveScript.receives_data hne (fun chunk hmem => ?_) false [], ?_⟩
  · exact Nat.le_trans (hroom chunk hmem) (Nat.le_max_left _ _)
  intro s ending s' hs
  obtain ⟨log, hrun⟩ := run_of_receives hsink hbuffer peer hs
  have hoffered :
      (run s (start peer sink chunkSize)).2.1.sink.offered = chunks.map Chunk.shown := by
    rw [hrun]
    exact (Sink.displayAll_offered _ _).trans (by rw [start, hnew, List.nil_append])
  rw [hoffered, Utf8.aligned_iff hne hchunks]
  have hlonger (hcut : ¬ ∀ chunk ∈ chunks, Utf8.Fresh chunk) :
      text.length < (String.join (chunks.map Chunk.shown)).length := by
    rw [← Utf8.heads_encode, ← Line.encode, ← hchunks]
    apply Chunk.heads_lt_length_join
    simpa using hcut
  refine ⟨⟨fun hshown => ?_, Chunk.join_shown_of_fresh hchunks⟩, hlonger⟩
  apply Classical.byContradiction
  intro hcut
  have hless := hlonger hcut
  rw [hshown] at hless
  exact Nat.lt_irrefl _ hless

/-- A text that holds a `U+FFFD` of its own, which is cut into three parts. -/
theorem shown_iff_aligned_replacement_character :
    let chunks : List Bytes := [[0x61, 0xEF], [0xBF], [0xBD, 0xC3, 0xA9]]
    let s : ReceiveScript := { steps := chunks.map .data }
    let shown := String.join (run s (start "script" {} 4)).2.1.sink.offered
    ¬ Utf8.Aligned "a�é" chunks ∧ shown = "a���é" ∧ shown ≠ "a�é" ∧
      "a�é".length < shown.length := by
  intro chunks s shown
  have hcut : ¬ Utf8.Aligned "a�é" chunks := by
    intro haligned
    exact absurd (haligned [[0x61, 0xEF]] [[0xBF], [0xBD, 0xC3, 0xA9]] rfl) (by decide)
  have hchunks : chunks.flatten = Line.encode "a�é" := by decide
  have hroom : ∀ chunk ∈ chunks, chunk.length ≤ 4 := by decide
  have hsink : Sink.NeverBreaks {} := by simp [Sink.NeverBreaks]
  obtain ⟨⟨s', hs⟩, hshown⟩ :=
    shown_iff_aligned hchunks (by decide) hroom (by decide) hsink rfl "script"
  obtain ⟨hiff, hlonger⟩ := hshown s _ _ hs
  exact ⟨hcut, by decide +kernel, fun heq => hcut (hiff.1 heq), hlonger hcut⟩

end Inbound

end TextRelay
