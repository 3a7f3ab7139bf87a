import TextRelay.Proofs.Text.Utf8
import TextRelay.Text.Line

/-!
# Decoding any bytes

What the machine that reads UTF-8 finds in bytes of any kind, said without the machine: `First` is
the first piece of some bytes and what is left behind it, in terms of the encodings of characters
alone. `first_piece` is the step: inside a character, the machine stands for the start of it that it
has read (`Begun`); every way of going on that it admits completes a character, and no other way
does.

From it follows what a chunk decodes to (`Chunk.decode_iff_encode`). A chunk is text exactly if it
is the encoding of one. If not, the complaint tells the longest part in front that is, and whether
more bytes could repair the rest.
-/

namespace TextRelay

namespace Utf8

/-! ## Texts, and starts of characters -/

/-- Bytes that are the encoding of some text. -/
def IsText (bytes : Bytes) : Prop := ∃ text, bytes = encode text

/-- Bytes that begin the encoding of some character, but are not all of it. -/
def IsStart (bytes : Bytes) : Prop :=
  bytes ≠ [] ∧ ∃ c more, more ≠ [] ∧ String.utf8EncodeChar c = bytes ++ more

/-- Among the prefixes of some bytes that are of a kind, `first` is the longest. -/
structure IsLongest (P : Bytes → Prop) (bytes first : Bytes) : Prop where
  isPrefix : first <+: bytes
  holds : P first
  longest : ∀ other, other <+: bytes → P other → other.length ≤ first.length

/-- What one `U+FFFD` stands for at the beginning of some bytes: the longest start of a character
there, or one byte where none starts. -/
def IsFlaw (bytes flaw : Bytes) : Prop :=
  IsLongest IsStart bytes flaw ∨
    (∀ other, other <+: bytes → ¬ IsStart other) ∧ flaw <+: bytes ∧ flaw.length = 1

/-- The first piece of some bytes, and what is left behind it. -/
inductive First : Bytes → Piece → Bytes → Prop where
  | char (c : Char) (rest : Bytes) : First (String.utf8EncodeChar c ++ rest) (.char c) rest
  | stray {flaw rest : Bytes} (hflaw : IsFlaw (flaw ++ rest) flaw)
    (hstart : ¬ IsStart (flaw ++ rest)) : First (flaw ++ rest) .stray rest
  | cut {start : Bytes} (hstart : IsStart start) : First start .cut []

theorem IsStart.isFlaw {start : Bytes} (h : IsStart start) : IsFlaw start start :=
  .inl ⟨List.prefix_rfl, h, fun _ hprefix _ => hprefix.length_le⟩

theorem IsFlaw.ne_nil {bytes flaw : Bytes} (h : IsFlaw bytes flaw) : flaw ≠ [] := by
  obtain hlongest | ⟨-, -, hlength⟩ := h
  · exact hlongest.holds.1
  · rintro rfl
    cases hlength

/-- Two prefixes of the same bytes that are both the longest of their kind are the same. -/
theorem IsLongest.unique {P : Bytes → Prop} {bytes first first' : Bytes}
    (h : IsLongest P bytes first) (h' : IsLongest P bytes first') : first = first' := by
  have hle := h'.longest first h.isPrefix h.holds
  have hge := h.longest first' h'.isPrefix h'.holds
  exact (List.prefix_of_prefix_length_le h.isPrefix h'.isPrefix hle).eq_of_length
    (Nat.le_antisymm hle hge)

theorem IsFlaw.unique {bytes flaw flaw' : Bytes} (h : IsFlaw bytes flaw)
    (h' : IsFlaw bytes flaw') : flaw = flaw' := by
  obtain hlongest | ⟨hnone, hprefix, hlength⟩ := h
  · obtain hlongest' | ⟨hnone', -, -⟩ := h'
    · exact hlongest.unique hlongest'
    · exact absurd hlongest.holds (hnone' flaw hlongest.isPrefix)
  · obtain hlongest' | ⟨-, hprefix', hlength'⟩ := h'
    · exact absurd hlongest'.holds (hnone flaw' hlongest'.isPrefix)
    · exact (List.prefix_of_prefix_length_le hprefix hprefix' (by omega)).eq_of_length (by omega)

/-! ## The bytes of a number -/

section number

variable {v : Nat}

theorem toNat_val_ofNat (hvalid : v.isValidChar) : (Char.ofNat v).val.toNat = v := by
  rw [Char.ofNat, dif_pos hvalid]
  rfl

theorem encodeChar_one (hv : v ≤ 0x7F) : String.utf8EncodeChar (Char.ofNat v) = [.ofNat v] := by
  rw [String.utf8EncodeChar, toNat_val_ofNat (.inl (by omega))]
  exact if_pos hv

theorem encodeChar_two (hmin : 0x7F < v) (hmax : v ≤ 0x7FF) :
    String.utf8EncodeChar (Char.ofNat v) =
      [.ofNat (v / 64 % 32 + 192), .ofNat (v % 64 + 128)] := by
  rw [String.utf8EncodeChar, toNat_val_ofNat (.inl (by omega))]
  simp only [if_neg (Nat.not_le.2 hmin), if_pos hmax]

theorem encodeChar_three (hmin : 0x7FF < v) (hmax : v ≤ 0xFFFF)
    (hvalid : v < 0xD800 ∨ 0xDFFF < v) :
    String.utf8EncodeChar (Char.ofNat v) =
      [.ofNat (v / 4096 % 16 + 224), .ofNat (v / 64 % 64 + 128), .ofNat (v % 64 + 128)] := by
  rw [String.utf8EncodeChar, toNat_val_ofNat (hvalid.imp_right fun h => ⟨h, by omega⟩)]
  simp only [if_neg (show ¬ v ≤ 0x7F by omega), if_neg (Nat.not_le.2 hmin), if_pos hmax]

theorem encodeChar_four (hmin : 0xFFFF < v) (hmax : v < 0x110000) :
    String.utf8EncodeChar (Char.ofNat v) =
      [.ofNat (v / 262144 % 8 + 240), .ofNat (v / 4096 % 64 + 128), .ofNat (v / 64 % 64 + 128),
        .ofNat (v % 64 + 128)] := by
  rw [String.utf8EncodeChar, toNat_val_ofNat (.inr ⟨by omega, hmax⟩)]
  simp only [if_neg (show ¬ v ≤ 0x7F by omega), if_neg (show ¬ v ≤ 0x7FF by omega),
    if_neg (Nat.not_le.2 hmin)]

end number

/-- The three kinds of lead bytes, each by the share that it has in the character's number. -/
theorem lead?_cases {b : UInt8} {l : Lead} (h : lead? b = some l) :
    (∃ n, 2 ≤ n ∧ n < 32 ∧ b = .ofNat (n + 0xC0) ∧ l = ⟨n, 1, 0x80, 0xBF⟩) ∨
    (∃ n < 16, b = .ofNat (n + 0xE0) ∧
      l = ⟨n, 2, if n = 0 then 0xA0 else 0x80, if n = 0xD then 0x9F else 0xBF⟩) ∨
    (∃ n < 5, b = .ofNat (n + 0xF0) ∧
      l = ⟨n, 3, if n = 0 then 0x90 else 0x80, if n = 4 then 0x8F else 0xBF⟩) := by
  have hb : ∀ k ≤ b.toNat, b = .ofNat (b.toNat - k + k) := by
    intro k hk
    rw [Nat.sub_add_cancel hk, UInt8.ofNat_toNat]
  by_cases hout : b.toNat < 0xC2 ∨ 0xF4 < b.toNat
  · have htable : ∀ n < 256, n < 0xC2 ∨ 0xF4 < n → lead? (.ofNat n) = none := by decide +kernel
    have hnone := htable b.toNat b.toNat_lt hout
    rw [UInt8.ofNat_toNat, h] at hnone
    cases hnone
  by_cases htwo : b.toNat < 0xE0
  · refine .inl ⟨b.toNat - 0xC0, by omega, by omega, hb _ (by omega), ?_⟩
    rw [hb 0xC0 (by omega), lead?_two _ (by omega) (by omega)] at h
    exact (Option.some.inj h).symm
  by_cases hthree : b.toNat < 0xF0
  · refine .inr (.inl ⟨b.toNat - 0xE0, by omega, hb _ (by omega), ?_⟩)
    rw [hb 0xE0 (by omega), lead?_three _ (by omega)] at h
    exact (Option.some.inj h).symm
  · refine .inr (.inr ⟨b.toNat - 0xF0, by omega, hb _ (by omega), ?_⟩)
    rw [hb 0xF0 (by omega), lead?_four _ (by omega)] at h
    exact (Option.some.inj h).symm

/-! ## What a state stands for -/

/-- The number of a character, from its share so far and the bytes that follow. -/
def number (bits : Nat) (rest : Bytes) : Nat :=
  rest.foldl (fun bits b => bits * 64 + (b.toNat - 0x80)) bits

theorem number_cons (bits : Nat) (b : UInt8) (rest : Bytes) :
    number bits (b :: rest) = number (bits * 64 + (b.toNat - 0x80)) rest := by
  simp only [number, List.foldl_cons]

/-- The machine has read `begun` of a character and stands inside it: whatever it would take for the
rest completes the character whose number it computes, and there is something that it would take. -/
structure Begun (begun : Bytes) (bits after : Nat) (low high : UInt8) : Prop where
  ne_nil : begun ≠ []
  low_le : low ≤ high
  resume : ∀ rest,
    piecesFrom .between (begun ++ rest) = piecesFrom (.inside bits after low high) rest
  completes : ∀ b rest, low ≤ b → b ≤ high → rest.length = after → (∀ x ∈ rest, isTail x = true) →
    String.utf8EncodeChar (Char.ofNat (number bits (b :: rest))) = begun ++ b :: rest

theorem toNat_bounds {b low high : UInt8} (hlow : low ≤ b) (hhigh : b ≤ high) :
    low.toNat ≤ b.toNat ∧ b.toNat ≤ high.toNat :=
  ⟨UInt8.le_iff_toNat_le.1 hlow, UInt8.le_iff_toNat_le.1 hhigh⟩

section completes

variable {n : Nat} {b x y : UInt8}

theorem encodeChar_number_two (hmin : 2 ≤ n) (hmax : n < 32) (hb : isTail b = true) :
    String.utf8EncodeChar (Char.ofNat (number n [b])) = [.ofNat (n + 0xC0), b] := by
  rw [isTail_iff] at hb
  generalize hv : number n [b] = v
  simp only [number, List.foldl_cons, List.foldl_nil] at hv
  have hhead : v / 64 % 32 = n := by omega
  have hlast : v % 64 + 128 = b.toNat := by omega
  rw [encodeChar_two (by omega) (by omega), hhead, hlast, UInt8.ofNat_toNat]

theorem encodeChar_number_three (hn : n < 16) (hlow : (if n = 0 then 0xA0 else 0x80) ≤ b.toNat)
    (hhigh : b.toNat ≤ (if n = 0xD then 0x9F else 0xBF)) (hx : isTail x = true) :
    String.utf8EncodeChar (Char.ofNat (number n [b, x])) = [.ofNat (n + 0xE0), b, x] := by
  rw [isTail_iff] at hx
  have hmin : 0x80 ≤ b.toNat ∧ (n = 0 → 0xA0 ≤ b.toNat) := by split at hlow <;> omega
  have hmax : b.toNat ≤ 0xBF ∧ (n = 0xD → b.toNat ≤ 0x9F) := by split at hhigh <;> omega
  clear hlow hhigh
  generalize hv : number n [b, x] = v
  simp only [number, List.foldl_cons, List.foldl_nil] at hv
  have hhead : v / 4096 % 16 = n := by omega
  have hnext : v / 64 % 64 + 128 = b.toNat := by omega
  have hlast : v % 64 + 128 = x.toNat := by omega
  rw [encodeChar_three (by omega) (by omega) (by omega), hhead, hnext, hlast, UInt8.ofNat_toNat,
    UInt8.ofNat_toNat]

theorem encodeChar_number_four (hn : n < 5) (hlow : (if n = 0 then 0x90 else 0x80) ≤ b.toNat)
    (hhigh : b.toNat ≤ (if n = 4 then 0x8F else 0xBF)) (hx : isTail x = true)
    (hy : isTail y = true) :
    String.utf8EncodeChar (Char.ofNat (number n [b, x, y])) = [.ofNat (n + 0xF0), b, x, y] := by
  rw [isTail_iff] at hx hy
  have hmin : 0x80 ≤ b.toNat ∧ (n = 0 → 0x90 ≤ b.toNat) := by split at hlow <;> omega
  have hmax : b.toNat ≤ 0xBF ∧ (n = 4 → b.toNat ≤ 0x8F) := by split at hhigh <;> omega
  clear hlow hhigh
  generalize hv : number n [b, x, y] = v
  simp only [number, List.foldl_cons, List.foldl_nil] at hv
  have hhead : v / 262144 % 8 = n := by omega
  have hnext : v / 4096 % 64 + 128 = b.toNat := by omega
  have hthird : v / 64 % 64 + 128 = x.toNat := by omega
  have hlast : v % 64 + 128 = y.toNat := by omega
  rw [encodeChar_four (by omega) (by omega), hhead, hnext, hthird, hlast, UInt8.ofNat_toNat,
    UInt8.ofNat_toNat, UInt8.ofNat_toNat]

end completes

theorem begun_lead {b : UInt8} {l : Lead} (hascii : ¬ b < 0x80) (hlead : lead? b = some l) :
    Begun [b] l.bits (l.more - 1) l.low l.high where
  ne_nil := List.cons_ne_nil _ _
  low_le := by
    have htable : ∀ n < 256, (lead? (.ofNat n)).all fun l => l.low ≤ l.high := by decide +kernel
    have hb := htable b.toNat b.toNat_lt
    rw [UInt8.ofNat_toNat, hlead] at hb
    simpa using hb
  resume rest := by
    rw [List.singleton_append, piecesFrom_cons, step, enter, if_neg hascii, hlead]
    rfl
  completes x rest hlow hhigh hlength htail := by
    have hbounds := toNat_bounds hlow hhigh
    obtain ⟨n, hmin, hmax, rfl, rfl⟩ | ⟨n, hn, rfl, rfl⟩ | ⟨n, hn, rfl, rfl⟩ := lead?_cases hlead
    · obtain rfl := List.eq_nil_of_length_eq_zero hlength
      exact encodeChar_number_two hmin hmax (isTail_iff.2 hbounds)
    · obtain ⟨y, rfl⟩ := List.length_eq_one_iff.1 hlength
      rw [List.forall_mem_singleton] at htail
      simp only [apply_ite UInt8.toNat] at hbounds
      exact encodeChar_number_three hn hbounds.1 hbounds.2 htail
    · obtain ⟨y, rest, rfl⟩ := List.exists_cons_of_length_eq_add_one hlength
      obtain ⟨z, rfl⟩ := List.length_eq_one_iff.1 (Nat.succ.inj hlength)
      rw [List.forall_mem_cons, List.forall_mem_singleton] at htail
      simp only [apply_ite UInt8.toNat] at hbounds
      exact encodeChar_number_four hn hbounds.1 hbounds.2 htail.1 htail.2

namespace Begun

variable {begun bytes : Bytes} {bits after : Nat} {low high b : UInt8}

theorem isStart (h : Begun begun bits after low high) : IsStart begun := by
  have htail : ∀ x ∈ List.replicate after (0x80 : UInt8), isTail x = true := by
    intro x hx
    rw [List.eq_of_mem_replicate hx]
    decide
  exact ⟨h.ne_nil, _, _, List.cons_ne_nil _ _,
    h.completes low _ (UInt8.le_refl low) h.low_le List.length_replicate htail⟩

theorem more {k : Nat} (h : Begun begun bits (k + 1) low high) (hlow : low ≤ b) (hhigh : b ≤ high) :
    Begun (begun ++ [b]) (bits * 64 + (b.toNat - 0x80)) k 0x80 0xBF where
  ne_nil := List.append_ne_nil_of_right_ne_nil _ (List.cons_ne_nil _ _)
  low_le := by decide
  resume rest := by
    rw [List.append_assoc, List.singleton_append, h.resume, piecesFrom_cons, step,
      if_pos ⟨hlow, hhigh⟩]
    rfl
  completes x rest hx hx' hlength hrest := by
    have htail : ∀ y ∈ x :: rest, isTail y = true :=
      List.forall_mem_cons.2 ⟨isTail_iff.2 (toNat_bounds hx hx'), hrest⟩
    have hchar := h.completes b (x :: rest) hlow hhigh (congrArg (· + 1) hlength) htail
    rw [number_cons] at hchar
    rw [hchar, List.append_assoc, List.singleton_append]

theorem last (h : Begun begun bits 0 low high) (hlow : low ≤ b) (hhigh : b ≤ high) :
    String.utf8EncodeChar (Char.ofNat (bits * 64 + (b.toNat - 0x80))) = begun ++ [b] :=
  h.completes b [] hlow hhigh rfl (List.forall_mem_nil _)

/-- Where the next byte is out of range, no longer start of a character stands there: the machine
would have found the character. -/
theorem longest (h : Begun begun bits after low high) (hout : ¬ (low ≤ b ∧ b ≤ high))
    (bytes : Bytes) : IsLongest IsStart (begun ++ b :: bytes) begun where
  isPrefix := List.prefix_append _ _
  holds := h.isStart
  longest := by
    rintro other ⟨left, hother⟩ ⟨-, c, more, -, hchar⟩
    rw [List.append_eq_append_iff] at hother
    obtain ⟨tail, rfl, -⟩ | ⟨tail, rfl, htail⟩ := hother
    · exact (List.prefix_append other tail).length_le
    cases tail with
    | nil => simp
    | cons x tail =>
      obtain rfl : b = x := (List.cons.inj htail).1
      have hfound := piecesFrom_encodeChar c []
      rw [hchar, List.append_nil, List.append_assoc, h.resume, List.cons_append, piecesFrom_cons,
        step, if_neg hout] at hfound
      cases hfound

end Begun

/-! ## The first piece -/

theorem first_of_begun {begun : Bytes} {bits after : Nat} {low high : UInt8}
    (h : Begun begun bits after low high) (bytes : Bytes) :
    ∃ p rest, First (begun ++ bytes) p rest ∧
      piecesFrom (.inside bits after low high) bytes = p :: pieces rest := by
  induction bytes generalizing begun bits after low high with
  | nil =>
    refine ⟨.cut, [], ?_, rfl⟩
    rw [List.append_nil]
    exact .cut h.isStart
  | cons b bytes ih =>
    by_cases hrange : low ≤ b ∧ b ≤ high
    · rw [piecesFrom_cons, step, if_pos hrange, List.append_cons]
      cases after with
      | zero =>
        rw [← h.last hrange.1 hrange.2]
        exact ⟨_, bytes, .char _ bytes, rfl⟩
      | succ k => exact ih (h.more hrange.1 hrange.2)
    · have hlongest := h.longest hrange bytes
      refine ⟨.stray, b :: bytes, .stray (.inl hlongest) ?_, ?_⟩
      · intro hstart
        have hlength := hlongest.longest _ List.prefix_rfl hstart
        rw [List.length_append, List.length_cons] at hlength
        omega
      · rw [piecesFrom_cons, step, if_neg hrange]
        rfl

/-- A byte that opens no character is a piece of its own. -/
theorem not_isStart_of_stray {b : UInt8} (henter : enter b = ([.stray], .between))
    {bytes other : Bytes} (hother : other <+: b :: bytes) : ¬ IsStart other := by
  rintro ⟨hne, c, more, -, hchar⟩
  obtain ⟨x, tail, rfl⟩ := List.exists_cons_of_ne_nil hne
  obtain rfl : x = b := (List.cons_prefix_cons.1 hother).1
  have hfound := piecesFrom_encodeChar c []
  rw [hchar, List.append_nil, List.cons_append, piecesFrom_cons, step, henter] at hfound
  cases hfound

/-- **The machine finds the first piece of the bytes that are left, and goes on behind it.** -/
theorem first_piece (b : UInt8) (bytes : Bytes) :
    ∃ p rest, First (b :: bytes) p rest ∧ pieces (b :: bytes) = p :: pieces rest := by
  by_cases hascii : b < 0x80
  · have hb : b.toNat ≤ 0x7F := Nat.le_of_lt_succ (UInt8.lt_iff_toNat_lt.1 hascii)
    have hchar := encodeChar_one hb
    rw [UInt8.ofNat_toNat] at hchar
    refine ⟨.char (Char.ofNat b.toNat), bytes, ?_, ?_⟩
    · rw [← List.singleton_append, ← hchar]
      exact .char _ bytes
    · rw [pieces, piecesFrom_cons, step, enter, if_pos hascii]
      rfl
  cases hlead : lead? b with
  | some l =>
    obtain ⟨p, rest, hfirst, hpieces⟩ := first_of_begun (begun_lead hascii hlead) bytes
    refine ⟨p, rest, hfirst, ?_⟩
    rw [← hpieces, ← (begun_lead hascii hlead).resume]
    rfl
  | none =>
    have henter : enter b = ([.stray], .between) := by rw [enter, if_neg hascii, hlead]
    refine ⟨.stray, bytes, ?_, ?_⟩
    · rw [← List.singleton_append]
      refine .stray (.inr ⟨fun other hother => not_isStart_of_stray henter hother, ?_, rfl⟩) ?_
      · exact List.prefix_append _ _
      · exact not_isStart_of_stray henter List.prefix_rfl
    · rw [pieces, piecesFrom_cons, step, henter]
      rfl

/-! ## Up to the first flaw -/

/-- Where the machine finds a character, its encoding stands. -/
theorem exists_encodeChar_of_pieces {bytes : Bytes} {c : Char} {ps : List Piece}
    (h : pieces bytes = .char c :: ps) :
    ∃ rest, bytes = String.utf8EncodeChar c ++ rest ∧ pieces rest = ps := by
  cases bytes with
  | nil => cases h
  | cons b bytes =>
    obtain ⟨p, rest, hfirst, hpieces⟩ := first_piece b bytes
    rw [hpieces] at h
    obtain ⟨rfl, rfl⟩ := List.cons.inj h
    generalize b :: bytes = whole at hfirst ⊢
    cases hfirst with
    | char => exact ⟨rest, rfl, rfl⟩

theorem encode_ofList (chars : List Char) :
    encode (.ofList chars) = chars.flatMap String.utf8EncodeChar := by
  rw [encode, String.toList_ofList]

theorem encode_concat (text : String) (c : Char) :
    encode (text ++ .singleton c) = encode text ++ String.utf8EncodeChar c := by
  rw [encode_append, encode, encode, String.toList_singleton, List.flatMap_singleton]

/-- Bytes in which the machine finds characters only are the encoding of these. -/
theorem eq_encode_of_pieces {bytes : Bytes} {chars : List Char}
    (h : pieces bytes = chars.map .char) : bytes = encode (.ofList chars) := by
  rw [encode_ofList]
  induction chars generalizing bytes with
  | nil =>
    cases bytes with
    | nil => rfl
    | cons b bytes =>
      obtain ⟨p, rest, -, hpieces⟩ := first_piece b bytes
      rw [hpieces] at h
      cases h
  | cons c chars ih =>
    obtain ⟨rest, rfl, hrest⟩ := exists_encodeChar_of_pieces h
    rw [List.flatMap_cons, ih hrest]

/-- What follows a text decides whether all of it is one. -/
theorem IsText.of_append {text : String} {rest : Bytes} (h : IsText (encode text ++ rest)) :
    IsText rest := by
  obtain ⟨whole, hwhole⟩ := h
  have hpieces := pieces_encode whole
  rw [← hwhole, pieces_encode_append] at hpieces
  obtain ⟨first, chars, -, -, hchars⟩ := List.map_eq_append_iff.1 hpieces.symm
  exact ⟨_, eq_encode_of_pieces hchars.symm⟩

theorem IsText.exists_encodeChar {bytes : Bytes} (h : IsText bytes) (hne : bytes ≠ []) :
    ∃ c rest, bytes = String.utf8EncodeChar c ++ rest := by
  obtain ⟨text, rfl⟩ := h
  rw [encode] at hne ⊢
  revert hne
  cases text.toList with
  | nil => exact fun hne => absurd rfl hne
  | cons c chars => exact fun _ => ⟨c, _, List.flatMap_cons⟩

theorem validStart_append (chars : List Char) (ps : List Piece) :
    validStart (chars.map .char ++ ps) = chars ++ validStart ps := by
  induction chars with
  | nil => rfl
  | cons c chars ih =>
    rw [List.map_cons, List.cons_append, List.cons_append, ← ih]
    rfl

theorem flaw?_append (chars : List Char) (ps : List Piece) :
    flaw? (chars.map .char ++ ps) = flaw? ps := by
  induction chars with
  | nil => rfl
  | cons c chars ih => exact ih

/-- Some bytes go on after a text with something else than a character, or with nothing. -/
structure Splits (bytes : Bytes) (text : String) (left : Bytes) : Prop where
  eq : bytes = encode text ++ left
  no_char : ∀ c rest, left ≠ String.utf8EncodeChar c ++ rest

theorem exists_splits (bytes : Bytes) : ∃ text left, Splits bytes text left := by
  generalize hsize : bytes.length = size
  induction size using Nat.strongRecOn generalizing bytes with
  | ind size ih =>
    by_cases hchar : ∃ c rest, bytes = String.utf8EncodeChar c ++ rest
    · obtain ⟨c, rest, rfl⟩ := hchar
      have hless : rest.length < size := by
        obtain ⟨b, tail, heq, -, -⟩ := encodeChar_eq c
        rw [← hsize, heq, List.length_append, List.length_cons]
        omega
      obtain ⟨text, left, hsplits⟩ := ih rest.length hless rest rfl
      refine ⟨.ofList (c :: text.toList), left, ?_, hsplits.no_char⟩
      rw [hsplits.eq, encode_ofList, List.flatMap_cons, List.append_assoc, encode]
    · refine ⟨"", bytes, rfl, ?_⟩
      intro c rest heq
      exact hchar ⟨c, rest, heq⟩

namespace Splits

variable {bytes left : Bytes} {text : String}

/-- The text in front is the longest there is. -/
theorem isLongest (h : Splits bytes text left) : IsLongest IsText bytes (encode text) where
  isPrefix := ⟨left, h.eq.symm⟩
  holds := ⟨text, rfl⟩
  longest := by
    rintro other ⟨rest, hother⟩ htext
    rw [h.eq, List.append_eq_append_iff] at hother
    obtain ⟨more, heq, -⟩ | ⟨more, rfl, hleft⟩ := hother
    · rw [heq, List.length_append]
      omega
    by_cases hmore : more = []
    · simp [hmore]
    · obtain ⟨c, tail, rfl⟩ := htext.of_append.exists_encodeChar hmore
      rw [List.append_assoc] at hleft
      exact absurd hleft (h.no_char c _)

/-- More bytes could make a text of all exactly if what is left begins a character. -/
theorem isStart_iff (h : Splits bytes text left) (hne : left ≠ []) :
    IsStart left ↔ ∃ more, IsText (bytes ++ more) := by
  constructor
  · rintro ⟨-, c, more, -, hchar⟩
    refine ⟨more, text ++ .singleton c, ?_⟩
    rw [h.eq, List.append_assoc, ← hchar, encode_concat]
  · rintro ⟨more, htext⟩
    rw [h.eq, List.append_assoc] at htext
    obtain ⟨c, rest, heq⟩ :=
      htext.of_append.exists_encodeChar (List.append_ne_nil_of_left_ne_nil hne more)
    rw [List.append_eq_append_iff] at heq
    obtain ⟨tail, hchar, -⟩ | ⟨tail, hleft, -⟩ := heq
    · refine ⟨hne, c, tail, ?_, hchar⟩
      rintro rfl
      exact h.no_char c [] (by rw [List.append_nil, hchar, List.append_nil])
    · exact absurd hleft (h.no_char c tail)

/-- What is left begins with a piece that is no character, which is a cut one exactly if all that is
left begins a character. -/
theorem exists_flaw (h : Splits bytes text left) (hne : left ≠ []) :
    ∃ p flaw rest, left = flaw ++ rest ∧ IsFlaw left flaw ∧ pieces left = p :: pieces rest ∧
      p.char? = none ∧ (p = .cut ↔ IsStart left) := by
  obtain ⟨b, tail, rfl⟩ := List.exists_cons_of_ne_nil hne
  obtain ⟨p, rest, hfirst, hpieces⟩ := first_piece b tail
  have hno_char := h.no_char
  generalize b :: tail = left at hfirst hpieces hno_char ⊢
  cases hfirst with
  | char c => exact absurd rfl (hno_char c rest)
  | stray hflaw hstart => exact ⟨.stray, _, rest, rfl, hflaw, hpieces, rfl, by simpa using hstart⟩
  | cut hstart =>
    exact ⟨.cut, left, [], (List.append_nil left).symm, hstart.isFlaw, hpieces, rfl,
      by simpa using hstart⟩

end Splits

end Utf8

namespace Chunk

open Utf8

variable {chunk left : Bytes} {text : String}

theorem decode_encode (text : String) : decode (encode text) = .ok text := by
  rw [decode, pieces_encode, ← List.append_nil (text.toList.map _)]
  simp only [flaw?_append, validStart_append]
  change Except.ok (String.ofList (text.toList ++ [])) = .ok text
  rw [List.append_nil, String.ofList_toList]

theorem decode_of_splits (h : Splits chunk text left) (hne : left ≠ []) :
    ∃ truncated, decode chunk = .error ⟨(encode text).length, chunk.length, truncated⟩ ∧
      (truncated = true ↔ ∃ more, IsText (chunk ++ more)) := by
  obtain ⟨p, flaw, rest, -, -, hpieces, hp, hcut⟩ := h.exists_flaw hne
  have hflaw : flaw? (pieces left) = some p := by simp [hpieces, flaw?, hp]
  have hstart : validStart (pieces left) = [] := by simp [hpieces, validStart, hp]
  refine ⟨p == .cut, ?_, ?_⟩
  · have hfound : pieces chunk = text.toList.map .char ++ pieces left := by
      rw [h.eq, pieces_encode_append]
    rw [decode, hfound]
    simp only [flaw?_append, validStart_append, hflaw, hstart, List.append_nil,
      String.ofList_toList, length_encode]
  · rw [beq_iff_eq, hcut, h.isStart_iff hne]

theorem decode_eq_ok_iff : decode chunk = .ok text ↔ chunk = encode text := by
  constructor
  · intro hdecode
    obtain ⟨front, left, hsplits⟩ := exists_splits chunk
    by_cases hleft : left = []
    · obtain rfl : chunk = encode front := by rw [hsplits.eq, hleft, List.append_nil]
      rw [decode_encode] at hdecode
      rw [Except.ok.inj hdecode]
    · obtain ⟨truncated, herror, -⟩ := decode_of_splits hsplits hleft
      rw [hdecode] at herror
      cases herror
  · rintro rfl
    exact decode_encode text

theorem ne_nil_of_decode_error {e : DecodeError} (h : decode chunk = .error e)
    (hsplits : Splits chunk text left) : left ≠ [] := by
  rintro rfl
  rw [hsplits.eq, List.append_nil, decode_encode] at h
  cases h

theorem of_decode_error {e : DecodeError} (h : decode chunk = .error e) :
    e.length = chunk.length ∧ e.validUpTo < e.length ∧
      (∃ first, IsLongest IsText chunk first ∧ first.length = e.validUpTo) ∧
      (e.truncated = true ↔ ∃ more, IsText (chunk ++ more)) := by
  obtain ⟨front, left, hsplits⟩ := exists_splits chunk
  have hleft := ne_nil_of_decode_error h hsplits
  obtain ⟨truncated, herror, htruncated⟩ := decode_of_splits hsplits hleft
  rw [h] at herror
  obtain rfl := Except.error.inj herror
  refine ⟨rfl, ?_, ⟨_, hsplits.isLongest, rfl⟩, htruncated⟩
  have hpos := List.length_pos_iff.2 hleft
  simp only [hsplits.eq, List.length_append]
  omega

/-- **Decoding and encoding undo each other, and a complaint tells how far and why they do not.** A
chunk decodes to a text exactly if it is the encoding of it. If it is no encoding, the complaint has
the length of the longest prefix that is one, and says whether more bytes could make the chunk one.
-/
theorem decode_iff_encode (chunk : Bytes) :
    (∀ text, decode chunk = .ok text ↔ chunk = Line.encode text) ∧
    ∀ e, decode chunk = .error e →
      e.length = chunk.length ∧ e.validUpTo < e.length ∧
      (∃ first, IsLongest IsText chunk first ∧ first.length = e.validUpTo) ∧
      (e.truncated = true ↔ ∃ more, IsText (chunk ++ more)) :=
  ⟨fun _ => decode_eq_ok_iff, fun _ => of_decode_error⟩

/-- A character that is cut off can still be repaired; the first half of a surrogate cannot. -/
theorem decode_iff_encode_cut_and_surrogate :
    (decode [0x61, 0xE2, 0x82] = .error ⟨1, 3, true⟩ ∧
      ∃ more, IsText ([0x61, 0xE2, 0x82] ++ more)) ∧
    decode [0x61, 0xED, 0xA0] = .error ⟨1, 3, false⟩ ∧
      ¬ ∃ more, IsText ([0x61, 0xED, 0xA0] ++ more) := by
  have hcut : decode [0x61, 0xE2, 0x82] = .error ⟨1, 3, true⟩ := by rfl
  have hsurrogate : decode [0x61, 0xED, 0xA0] = .error ⟨1, 3, false⟩ := by rfl
  have hrepaired := ((decode_iff_encode [0x61, 0xE2, 0x82]).2 _ hcut).2.2.2
  have hlost := ((decode_iff_encode [0x61, 0xED, 0xA0]).2 _ hsurrogate).2.2.2
  exact ⟨⟨hcut, hrepaired.1 rfl⟩, hsurrogate, fun hmore => Bool.false_ne_true (hlost.2 hmore)⟩

end Chunk

end TextRelay
