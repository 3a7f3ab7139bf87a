import TextRelay.Proofs.Text.Decoding

/-!
# What is shown for bytes that are no text

Bytes of any kind are shown greedily: as much of them as is text, then one `U+FFFD` for what begins
a character without completing it, or for a single byte, and so on with the rest. `Greedy` says this
with the encodings of characters alone, and `Chunk.decodeLossy_greedy` that it is what the machine
shows. Each round passes over at least one byte (`IsFlaw.ne_nil`), so there is such a way to cut up
any bytes; and nothing in it can be chosen.
-/

namespace TextRelay

namespace Utf8

/-- Bytes, and what they show as when they are cut up greedily. -/
inductive Greedy : Bytes → String → Prop where
  /-- All of the bytes are text. -/
  | text (text : String) : Greedy (encode text) text
  /-- The longest text in front is not all. One `U+FFFD` follows it, and then the rest. -/
  | flawed {text shown : String} {flaw rest : Bytes}
    (hlongest : IsLongest IsText (encode text ++ (flaw ++ rest)) (encode text))
    (hflaw : IsFlaw (flaw ++ rest) flaw) (hrest : Greedy rest shown) :
    Greedy (encode text ++ (flaw ++ rest)) (text ++ "�" ++ shown)

variable {bytes left flaw rest : Bytes} {text : String}

theorem Splits.of_isLongest (h : IsLongest IsText (encode text ++ left) (encode text)) :
    Splits (encode text ++ left) text left where
  eq := rfl
  no_char := by
    rintro c rest rfl
    have hlength := h.longest (encode (text ++ .singleton c))
      ⟨rest, by rw [encode_concat, List.append_assoc]⟩ ⟨_, rfl⟩
    obtain ⟨b, tail, hchar, -, -⟩ := encodeChar_eq c
    rw [encode_concat, hchar, List.length_append, List.length_cons] at hlength
    omega

theorem lossy_encode_append (text : String) (rest : Bytes) :
    lossy (encode text ++ rest) = text ++ lossy rest := by
  have hshown : (text.toList.map Piece.char).map (·.shown) = text.toList := by
    rw [List.map_map]
    exact List.map_id _
  rw [lossy, pieces_encode_append, List.map_append, hshown, String.ofList_append,
    String.ofList_toList, lossy]

theorem lossy_encode (text : String) : lossy (encode text) = text := by
  have happend := lossy_encode_append text []
  rwa [List.append_nil, show lossy [] = "" from rfl, String.append_empty] at happend

/-- One round of showing. -/
theorem Splits.lossy_eq (h : Splits bytes text (flaw ++ rest))
    (hflaw : IsFlaw (flaw ++ rest) flaw) : lossy bytes = text ++ "�" ++ lossy rest := by
  have hne : flaw ++ rest ≠ [] := List.append_ne_nil_of_left_ne_nil hflaw.ne_nil rest
  obtain ⟨p, flaw', rest', heq, hflaw', hpieces, hp, -⟩ := h.exists_flaw hne
  obtain rfl := hflaw.unique hflaw'
  obtain rfl := List.append_cancel_left heq
  have hshown : p.shown = '�' := by
    cases p with
    | char c => cases hp
    | stray | cut => rfl
  have hleft : lossy (flaw ++ rest) = "�" ++ lossy rest := by
    rw [lossy, hpieces, List.map_cons, hshown, lossy, ← List.singleton_append, String.ofList_append]
  rw [h.eq, lossy_encode_append, hleft, String.append_assoc]

/-- **There is one way to show some bytes greedily, and they are shown in it.** -/
theorem greedy_iff {shown : String} : Greedy bytes shown ↔ shown = lossy bytes := by
  constructor
  · intro h
    induction h with
    | text text => exact (lossy_encode text).symm
    | flawed hlongest hflaw hrest ih =>
      rw [(Splits.of_isLongest hlongest).lossy_eq hflaw, ih]
  · rintro rfl
    generalize hsize : bytes.length = size
    induction size using Nat.strongRecOn generalizing bytes with
    | ind size ih =>
      obtain ⟨text, left, hsplits⟩ := exists_splits bytes
      by_cases hleft : left = []
      · rw [hsplits.eq, hleft, List.append_nil, lossy_encode]
        exact .text text
      · obtain ⟨p, flaw, rest, rfl, hflaw, -⟩ := hsplits.exists_flaw hleft
        have hless : rest.length < size := by
          have hpos := List.length_pos_iff.2 hflaw.ne_nil
          rw [← hsize, hsplits.eq, List.length_append, List.length_append]
          omega
        have hlongest := hsplits.isLongest
        rw [hsplits.lossy_eq hflaw]
        rw [hsplits.eq] at hlongest ⊢
        exact .flawed hlongest hflaw (ih rest.length hless rfl)

end Utf8

namespace Chunk

open Utf8

theorem exists_shown_of_error {chunk : Bytes} {e : DecodeError} (h : decode chunk = .error e) :
    ∃ text rest, decode (chunk.take e.validUpTo) = .ok text ∧
      decodeLossy chunk = text ++ "�" ++ rest := by
  obtain ⟨-, hless, ⟨first, hlongest, hlength⟩, -⟩ := of_decode_error h
  obtain ⟨text, left, hsplits⟩ := exists_splits chunk
  obtain rfl := hlongest.unique hsplits.isLongest
  have hleft := ne_nil_of_decode_error h hsplits
  obtain ⟨p, flaw, rest, rfl, hflaw, -⟩ := hsplits.exists_flaw hleft
  refine ⟨text, lossy rest, ?_, hsplits.lossy_eq hflaw⟩
  rw [← hlength, hsplits.eq, List.take_left, decode_encode]

/-- **What is shown lossily for a chunk is its greedy reading.** So it is the text that the chunk
decodes to, if it does; otherwise it begins with the text of the valid part and a `U+FFFD`; and a
valid chunk can be split off from what follows it. -/
theorem decodeLossy_greedy (chunk : Bytes) :
    (∀ shown, Greedy chunk shown ↔ shown = decodeLossy chunk) ∧
    (∀ text, decode chunk = .ok text → decodeLossy chunk = text) ∧
    (∀ e, decode chunk = .error e → ∃ text rest,
      decode (chunk.take e.validUpTo) = .ok text ∧ decodeLossy chunk = text ++ "�" ++ rest) ∧
    ∀ text, decode chunk = .ok text → ∀ more,
      decodeLossy (chunk ++ more) = decodeLossy chunk ++ decodeLossy more := by
  refine ⟨fun _ => greedy_iff, ?_, fun _ => exists_shown_of_error, ?_⟩
  · intro text hdecode
    rw [decode_eq_ok_iff.1 hdecode]
    exact lossy_encode text
  · intro text hdecode more
    rw [decode_eq_ok_iff.1 hdecode, decodeLossy, decodeLossy, decodeLossy, lossy_encode_append,
      lossy_encode]

/-- A character that is cut off by another one is one flaw, and a byte out of place is another. -/
theorem decodeLossy_greedy_two_flaws :
    decode [0x68, 0xE2, 0x82, 0x41, 0xFF] = .error ⟨1, 5, false⟩ ∧
      Greedy [0x68, 0xE2, 0x82, 0x41, 0xFF] "h�A�" ∧
      (∃ text rest, decode ([0x68, 0xE2, 0x82, 0x41, 0xFF].take 1) = .ok text ∧
        decodeLossy [0x68, 0xE2, 0x82, 0x41, 0xFF] = text ++ "�" ++ rest) ∧
      decode [0x68] = .ok "h" ∧
      decodeLossy ([0x68] ++ [0xE2, 0x82, 0x41, 0xFF]) =
        decodeLossy [0x68] ++ decodeLossy [0xE2, 0x82, 0x41, 0xFF] := by
  have herror : decode [0x68, 0xE2, 0x82, 0x41, 0xFF] = .error ⟨1, 5, false⟩ := by rfl
  have hfront : decode [0x68] = .ok "h" := by rfl
  obtain ⟨hgreedy, -, hflawed, -⟩ := decodeLossy_greedy [0x68, 0xE2, 0x82, 0x41, 0xFF]
  obtain ⟨-, -, -, happend⟩ := decodeLossy_greedy [0x68]
  exact ⟨herror, (hgreedy _).2 (by decide +kernel), hflawed _ herror, hfront, happend _ hfront _⟩

end Chunk

end TextRelay
