import TextRelay.Text.Chunk

/-!
# Reading encoded text

What the machine that reads UTF-8 finds in the bytes of a text: its characters, one piece each. And
what it finds in any bytes at all: at least as many pieces as there are bytes that can begin a
character, because such a byte never continues a piece (`heads_le_length_pieces`). Bytes that begin
in the middle of a character are more pieces than that.

A text can be cut between its characters and nowhere else, and the byte after a cut tells which it
is (`isValid_iff_fresh`).
-/

namespace TextRelay

namespace Utf8

/-! ## Bytes that begin a character -/

/-- Whether a byte can only stand inside a character, after its first byte. -/
def isTail (b : UInt8) : Bool := 0x80 ≤ b && b ≤ 0xBF

theorem isTail_iff {b : UInt8} : isTail b = true ↔ 0x80 ≤ b.toNat ∧ b.toNat ≤ 0xBF := by
  simp [isTail, UInt8.le_iff_toNat_le]

theorem isTail_ofNat (m : Nat) : isTail (.ofNat (m % 64 + 0x80)) = true := by
  rw [isTail_iff, UInt8.toNat_ofNat']
  omega

theorem isTail_eq_false {n : Nat} (hn : n < 0x80 ∨ 0xBF < n) (hbyte : n < 256) :
    isTail (.ofNat n) = false := by
  rw [Bool.eq_false_iff, ne_eq, isTail_iff, UInt8.toNat_ofNat']
  omega

/-- How many bytes are not inside a character. -/
def heads (bytes : Bytes) : Nat := bytes.countP (!isTail ·)

theorem heads_cons (b : UInt8) (bytes : Bytes) :
    heads (b :: bytes) = (!isTail b).toNat + heads bytes := by
  rw [heads, List.countP_cons, heads, Nat.add_comm]
  cases isTail b <;> rfl

theorem heads_append (first second : Bytes) :
    heads (first ++ second) = heads first + heads second :=
  List.countP_append

/-! ## Lead bytes -/

/-- No lead byte can stand inside a character, and what it asks for next can stand nowhere else. -/
theorem of_lead? {b : UInt8} {l : Lead} (h : lead? b = some l) :
    isTail b = false ∧ 0x80 ≤ l.low.toNat ∧ l.high.toNat ≤ 0xBF := by
  have htable : ∀ n < 256, (lead? (.ofNat n)).all fun l =>
      !isTail (.ofNat n) && 0x80 ≤ l.low.toNat && l.high.toNat ≤ 0xBF := by
    decide +kernel
  have hb := htable b.toNat b.toNat_lt
  rw [UInt8.ofNat_toNat, h] at hb
  simpa [and_assoc] using hb

theorem lead?_two : ∀ n < 32, 2 ≤ n → lead? (.ofNat (n + 0xC0)) = some ⟨n, 1, 0x80, 0xBF⟩ := by
  decide

theorem lead?_three : ∀ n < 16, lead? (.ofNat (n + 0xE0)) =
    some ⟨n, 2, if n = 0 then 0xA0 else 0x80, if n = 0xD then 0x9F else 0xBF⟩ := by
  decide

theorem lead?_four : ∀ n < 5, lead? (.ofNat (n + 0xF0)) =
    some ⟨n, 3, if n = 0 then 0x90 else 0x80, if n = 4 then 0x8F else 0xBF⟩ := by
  decide

/-! ## The machine -/

theorem piecesFrom_cons (s : State) (b : UInt8) (bytes : Bytes) :
    piecesFrom s (b :: bytes) = (step s b).1 ++ piecesFrom (step s b).2 bytes := by
  cases s <;> rfl

theorem piecesFrom_lead {b low high : UInt8} {bits more : Nat}
    (hlead : lead? b = some ⟨bits, more + 1, low, high⟩) (hb : 0x80 ≤ b.toNat) (rest : Bytes) :
    piecesFrom .between (b :: rest) = piecesFrom (.inside bits more low high) rest := by
  have hascii : ¬ b < 0x80 := by
    rw [UInt8.lt_iff_toNat_lt]
    exact Nat.not_lt.2 hb
  rw [piecesFrom_cons, step, enter, if_neg hascii, hlead]
  rfl

section inside

variable {bits n : Nat} {low high : UInt8} (hn : n < 64) (hlow : low.toNat ≤ n + 0x80)
  (hhigh : n + 0x80 ≤ high.toNat)

include hn hlow hhigh

/-- A byte inside a character, given by the six bits that it adds to the character's number. -/
theorem step_inside (after : Nat) :
    step (.inside bits after low high) (.ofNat (n + 0x80)) = match after with
      | 0 => ([.char (Char.ofNat (bits * 64 + n))], .between)
      | k + 1 => ([], .inside (bits * 64 + n) k 0x80 0xBF) := by
  have hbyte : (UInt8.ofNat (n + 0x80)).toNat = n + 0x80 := by
    rw [UInt8.toNat_ofNat']
    omega
  have hrange : low ≤ .ofNat (n + 0x80) ∧ .ofNat (n + 0x80) ≤ high := by
    rw [UInt8.le_iff_toNat_le, UInt8.le_iff_toNat_le, hbyte]
    exact ⟨hlow, hhigh⟩
  cases after <;> simp only [step, if_pos hrange, hbyte, Nat.add_sub_cancel]

theorem piecesFrom_more (k : Nat) (rest : Bytes) :
    piecesFrom (.inside bits (k + 1) low high) (.ofNat (n + 0x80) :: rest) =
      piecesFrom (.inside (bits * 64 + n) k 0x80 0xBF) rest := by
  rw [piecesFrom_cons, step_inside hn hlow hhigh]
  rfl

theorem piecesFrom_last (rest : Bytes) :
    piecesFrom (.inside bits 0 low high) (.ofNat (n + 0x80) :: rest) =
      .char (Char.ofNat (bits * 64 + n)) :: piecesFrom .between rest := by
  rw [piecesFrom_cons, step_inside hn hlow hhigh]
  rfl

end inside

/-! ## Characters

One lemma for each length of a character: its bytes, as they follow from its number `v`, are read
as that number again. The narrowed ranges after some lead bytes are met because the number has the
length that it needs and is no surrogate.
-/

section length

variable {v : Nat} (rest : Bytes)

theorem tail_bounds (m : Nat) :
    (0x80 : UInt8).toNat ≤ m % 64 + 0x80 ∧ m % 64 + 0x80 ≤ (0xBF : UInt8).toNat := by
  refine ⟨Nat.le_add_left _ _, ?_⟩
  change m % 64 + 0x80 ≤ 0xBF
  omega

theorem piecesFrom_one (hv : v ≤ 0x7F) :
    piecesFrom .between (.ofNat v :: rest) = .char (Char.ofNat v) :: piecesFrom .between rest := by
  have hbyte : (UInt8.ofNat v).toNat = v := by
    rw [UInt8.toNat_ofNat']
    omega
  have hascii : UInt8.ofNat v < 0x80 := by
    rw [UInt8.lt_iff_toNat_lt, hbyte]
    exact Nat.lt_succ_of_le hv
  rw [piecesFrom_cons, step, enter, if_pos hascii, hbyte]
  rfl

theorem piecesFrom_two (hmin : 0x7F < v) (hmax : v ≤ 0x7FF) :
    piecesFrom .between (.ofNat (v / 64 % 32 + 192) :: .ofNat (v % 64 + 128) :: rest) =
      .char (Char.ofNat v) :: piecesFrom .between rest := by
  have hlead := lead?_two (v / 64 % 32) (by omega) (by omega)
  have hbits : v / 64 % 32 * 64 + v % 64 = v := by omega
  rw [piecesFrom_lead hlead (by rw [UInt8.toNat_ofNat']; omega),
    piecesFrom_last (by omega) (tail_bounds v).1 (tail_bounds v).2, hbits]

theorem piecesFrom_three (hmin : 0x7FF < v) (hmax : v ≤ 0xFFFF)
    (hvalid : v < 0xD800 ∨ 0xDFFF < v) :
    piecesFrom .between (.ofNat (v / 4096 % 16 + 224) :: .ofNat (v / 64 % 64 + 128) ::
      .ofNat (v % 64 + 128) :: rest) = .char (Char.ofNat v) :: piecesFrom .between rest := by
  have hlead := lead?_three (v / 4096 % 16) (by omega)
  have hlow : (if v / 4096 % 16 = 0 then 0xA0 else 0x80 : UInt8).toNat ≤ v / 64 % 64 + 0x80 := by
    split
    · change 0xA0 ≤ _
      omega
    · exact (tail_bounds _).1
  have hhigh : v / 64 % 64 + 0x80 ≤ (if v / 4096 % 16 = 0xD then 0x9F else 0xBF : UInt8).toNat := by
    split
    · change _ ≤ 0x9F
      omega
    · exact (tail_bounds _).2
  have hbits : (v / 4096 % 16 * 64 + v / 64 % 64) * 64 + v % 64 = v := by omega
  rw [piecesFrom_lead hlead (by rw [UInt8.toNat_ofNat']; omega),
    piecesFrom_more (by omega) hlow hhigh,
    piecesFrom_last (by omega) (tail_bounds v).1 (tail_bounds v).2, hbits]

theorem piecesFrom_four (hmin : 0xFFFF < v) (hmax : v < 0x110000) :
    piecesFrom .between (.ofNat (v / 262144 % 8 + 240) :: .ofNat (v / 4096 % 64 + 128) ::
      .ofNat (v / 64 % 64 + 128) :: .ofNat (v % 64 + 128) :: rest) =
      .char (Char.ofNat v) :: piecesFrom .between rest := by
  have hlead := lead?_four (v / 262144 % 8) (by omega)
  have hlow : (if v / 262144 % 8 = 0 then 0x90 else 0x80 : UInt8).toNat ≤ v / 4096 % 64 + 0x80 := by
    split
    · change 0x90 ≤ _
      omega
    · exact (tail_bounds _).1
  have hhigh :
      v / 4096 % 64 + 0x80 ≤ (if v / 262144 % 8 = 4 then 0x8F else 0xBF : UInt8).toNat := by
    split
    · change _ ≤ 0x8F
      omega
    · exact (tail_bounds _).2
  have hbits : ((v / 262144 % 8 * 64 + v / 4096 % 64) * 64 + v / 64 % 64) * 64 + v % 64 = v := by
    omega
  rw [piecesFrom_lead hlead (by rw [UInt8.toNat_ofNat']; omega),
    piecesFrom_more (by omega) hlow hhigh,
    piecesFrom_more (by omega) (tail_bounds _).1 (tail_bounds _).2,
    piecesFrom_last (by omega) (tail_bounds v).1 (tail_bounds v).2, hbits]

end length

/-- **The machine finds the character that some bytes encode,** and goes on after them. -/
theorem piecesFrom_encodeChar (c : Char) (rest : Bytes) :
    piecesFrom .between (String.utf8EncodeChar c ++ rest) =
      .char c :: piecesFrom .between rest := by
  have hvalid : c.val.toNat < 0xD800 ∨ 0xDFFF < c.val.toNat ∧ c.val.toNat < 0x110000 := c.valid
  have hchar : c = Char.ofNat c.val.toNat := c.ofNat_toNat.symm
  rw [String.utf8EncodeChar]
  generalize c.val.toNat = v at hvalid hchar ⊢
  rw [hchar]
  split
  · exact piecesFrom_one rest ‹_›
  split
  · exact piecesFrom_two rest (by omega) ‹_›
  split
  · exact piecesFrom_three rest (by omega) ‹_› (by omega)
  · exact piecesFrom_four rest (by omega) (by omega)

/-- The first byte of a character can stand nowhere else in one, and the others only there. -/
theorem encodeChar_eq (c : Char) : ∃ b rest, String.utf8EncodeChar c = b :: rest ∧
    isTail b = false ∧ ∀ x ∈ rest, isTail x = true := by
  rw [String.utf8EncodeChar]
  have hvalid : c.val.toNat < 0xD800 ∨ 0xDFFF < c.val.toNat ∧ c.val.toNat < 0x110000 := c.valid
  generalize c.val.toNat = v at hvalid ⊢
  split
  · exact ⟨_, _, rfl, isTail_eq_false (by omega) (by omega), List.forall_mem_nil _⟩
  have hlast : ∀ x ∈ [UInt8.ofNat (v % 64 + 128)], isTail x = true :=
    List.forall_mem_singleton.2 (isTail_ofNat v)
  split
  · exact ⟨_, _, rfl, isTail_eq_false (by omega) (by omega), hlast⟩
  have hmore : ∀ x ∈ [UInt8.ofNat (v / 64 % 64 + 128), .ofNat (v % 64 + 128)], isTail x = true :=
    List.forall_mem_cons.2 ⟨isTail_ofNat (v / 64), hlast⟩
  split
  · exact ⟨_, _, rfl, isTail_eq_false (by omega) (by omega), hmore⟩
  · exact ⟨_, _, rfl, isTail_eq_false (by omega) (by omega),
      List.forall_mem_cons.2 ⟨isTail_ofNat (v / 4096), hmore⟩⟩

/-! ## Texts -/

theorem encode_append (first second : String) :
    encode (first ++ second) = encode first ++ encode second := by
  rw [encode, String.toList_append, List.flatMap_append]
  rfl

theorem length_encode (text : String) : (encode text).length = text.utf8ByteSize := by
  rw [← String.size_toByteArray, ← String.ofList_toList (s := text), String.toByteArray_ofList,
    List.utf8Encode, List.size_toByteArray, encode, String.toList_ofList]

theorem pieces_encode_append (text : String) (rest : Bytes) :
    pieces (encode text ++ rest) = text.toList.map .char ++ pieces rest := by
  rw [encode, pieces]
  induction text.toList with
  | nil => rfl
  | cons c chars ih =>
    rw [List.flatMap_cons, List.append_assoc, piecesFrom_encodeChar, ih, List.map_cons,
      List.cons_append]

/-- The bytes of a text are cut into its characters. -/
theorem pieces_encode (text : String) : pieces (encode text) = text.toList.map .char := by
  have happend := pieces_encode_append text []
  rw [List.append_nil] at happend
  exact happend.trans (List.append_nil _)

theorem heads_encodeChar (c : Char) : heads (String.utf8EncodeChar c) = 1 := by
  obtain ⟨b, rest, heq, hb, hrest⟩ := encodeChar_eq c
  have hnone : heads rest = 0 := by
    rw [heads, List.countP_eq_zero]
    intro x hx
    simp [hrest x hx]
  rw [heq, heads_cons, hb, hnone]
  rfl

theorem heads_encode (text : String) : heads (encode text) = text.length := by
  rw [encode, ← String.length_toList]
  induction text.toList with
  | nil => rfl
  | cons c rest ih =>
    rw [List.flatMap_cons, heads_append, heads_encodeChar, ih, List.length_cons, Nat.add_comm]

/-! ## Bytes of any kind -/

/-- How many pieces are begun and not yet found. -/
def State.begun : State → Nat
  | between => 0
  | inside .. => 1

/-- Inside a character, only a byte is waited for that can stand there. -/
def State.WF : State → Prop
  | between => True
  | inside _ _ low high => 0x80 ≤ low.toNat ∧ high.toNat ≤ 0xBF

theorem enter_of_isTail {b : UInt8} (hb : isTail b = true) : enter b = ([.stray], .between) := by
  have hascii : ¬ b < 0x80 := by
    rw [UInt8.lt_iff_toNat_lt]
    exact Nat.not_lt.2 (isTail_iff.1 hb).1
  rw [enter, if_neg hascii]
  cases hlead : lead? b with
  | none => rfl
  | some l =>
    rw [(of_lead? hlead).1] at hb
    cases hb

theorem wf_enter (b : UInt8) : (enter b).2.WF := by
  unfold enter
  split
  · trivial
  split
  · next l hlead => exact (of_lead? hlead).2
  · trivial

/-- Every byte between characters begins a piece. -/
theorem begun_enter (b : UInt8) : (enter b).1.length + (enter b).2.begun = 1 := by
  unfold enter
  split
  · rfl
  split <;> rfl

/-- A byte that can begin a character begins a piece, and one piece is begun at a time. -/
theorem begun_step {s : State} (hs : s.WF) (b : UInt8) :
    s.begun + (!isTail b).toNat ≤ (step s b).1.length + (step s b).2.begun ∧
      (step s b).2.WF := by
  have henter := begun_enter b
  have hhead : (!isTail b).toNat ≤ 1 := Bool.toNat_le _
  cases s with
  | between =>
    refine ⟨?_, wf_enter b⟩
    rw [step, State.begun]
    omega
  | inside bits after low high =>
    rw [step]
    split
    · next hrange =>
      simp only [UInt8.le_iff_toNat_le] at hrange
      have htail : isTail b = true :=
        isTail_iff.2 ⟨Nat.le_trans hs.1 hrange.1, Nat.le_trans hrange.2 hs.2⟩
      rw [htail]
      cases after with
      | zero => exact ⟨Nat.le_refl 1, trivial⟩
      | succ k => exact ⟨Nat.le_refl 1, Nat.le_refl 0x80, Nat.le_refl 0xBF⟩
    · refine ⟨?_, wf_enter b⟩
      change 1 + _ ≤ (enter b).1.length + 1 + (enter b).2.begun
      omega

theorem begun_le_length {s : State} (hs : s.WF) (bytes : Bytes) :
    s.begun + heads bytes ≤ (piecesFrom s bytes).length := by
  induction bytes generalizing s with
  | nil => cases s <;> exact Nat.le_refl _
  | cons b rest ih =>
    obtain ⟨hstep, hwf⟩ := begun_step hs b
    have hrest := ih hwf
    rw [piecesFrom_cons, heads_cons, List.length_append]
    omega

theorem heads_le_length_pieces (bytes : Bytes) : heads bytes ≤ (pieces bytes).length := by
  have hle := begun_le_length (s := .between) trivial bytes
  rwa [State.begun, Nat.zero_add] at hle

/-- Bytes that begin inside a character are more pieces than they have heads. -/
theorem heads_lt_length_pieces {b : UInt8} (hb : isTail b = true) (rest : Bytes) :
    heads (b :: rest) < (pieces (b :: rest)).length := by
  have hrest := heads_le_length_pieces rest
  rw [pieces, piecesFrom_cons, step, enter_of_isTail hb, heads_cons, hb, List.length_append]
  rw [pieces] at hrest
  simp only [Bool.not_true, Bool.toNat_false, List.length_singleton]
  omega

/-! ## Where a text can be cut -/

/-- Bytes do not go on in the middle of a character. -/
def Fresh (bytes : Bytes) : Prop := ∀ b ∈ bytes.head?, isTail b = false

theorem fresh_nil : Fresh [] := by
  intro b hb
  cases hb

theorem fresh_encode (text : String) : Fresh (encode text) := by
  rw [encode]
  cases text.toList with
  | nil => exact fresh_nil
  | cons c rest =>
    obtain ⟨b, tail, heq, hb, -⟩ := encodeChar_eq c
    rw [List.flatMap_cons, heq]
    intro x hx
    cases hx
    exact hb

/-- Where the bytes of some characters go on with a new one, they are cut between two. -/
theorem exists_chars_of_fresh {chars : List Char} {first second : Bytes}
    (h : chars.flatMap String.utf8EncodeChar = first ++ second) (hfresh : Fresh second) :
    ∃ before after, chars = before ++ after ∧ first = before.flatMap String.utf8EncodeChar ∧
      second = after.flatMap String.utf8EncodeChar := by
  induction chars generalizing first with
  | nil =>
    obtain ⟨rfl, rfl⟩ := List.append_eq_nil_iff.1 h.symm
    exact ⟨[], [], rfl, rfl, rfl⟩
  | cons c rest ih =>
    rw [List.flatMap_cons, List.append_eq_append_iff] at h
    obtain ⟨more, rfl, hrest⟩ | ⟨left, hchar, rfl⟩ := h
    · obtain ⟨before, after, rfl, rfl, rfl⟩ := ih hrest
      exact ⟨c :: before, after, rfl, rfl, rfl⟩
    · obtain ⟨b, tail, heq, -, htail⟩ := encodeChar_eq c
      -- What is left of the character is all of it or none, for it does not begin with a tail.
      cases left with
      | nil =>
        rw [List.append_nil] at hchar
        exact ⟨[c], rest, rfl, by rw [List.flatMap_singleton, hchar], rfl⟩
      | cons x left =>
        cases first with
        | nil => exact ⟨[], c :: rest, rfl, rfl, by rw [List.flatMap_cons, hchar]; rfl⟩
        | cons y first =>
          have hx : x ∈ tail := by
            rw [heq, List.cons_append, List.cons.injEq] at hchar
            rw [hchar.2]
            simp
          have hhead := hfresh x rfl
          rw [htail x hx] at hhead
          cases hhead

theorem exists_texts_of_fresh {text : String} {first second : Bytes}
    (h : encode text = first ++ second) (hfresh : Fresh second) :
    ∃ before after, text = before ++ after ∧ first = encode before ∧ second = encode after := by
  obtain ⟨before, after, hchars, hfirst, hsecond⟩ := exists_chars_of_fresh h hfresh
  refine ⟨.ofList before, .ofList after, ?_, ?_, ?_⟩
  · rw [← String.ofList_append, ← hchars, String.ofList_toList]
  · rw [encode, String.toList_ofList, hfirst]
  · rw [encode, String.toList_ofList, hsecond]

/-- **A text is cut between two characters exactly if the bytes after the cut begin a new one.** -/
theorem isValid_iff_fresh {text : String} {first second : Bytes}
    (h : encode text = first ++ second) :
    String.Pos.Raw.IsValid text ⟨first.length⟩ ↔ Fresh second := by
  rw [String.Pos.Raw.isValid_iff_exists_append]
  constructor
  · rintro ⟨before, after, rfl, hpos⟩
    have hlength : (encode before).length = first.length := by
      rw [length_encode, ← String.byteIdx_rawEndPos, ← hpos]
    rw [encode_append] at h
    rw [← (List.append_inj h hlength).2]
    exact fresh_encode after
  · intro hfresh
    obtain ⟨before, after, rfl, rfl, -⟩ := exists_texts_of_fresh h hfresh
    refine ⟨before, after, rfl, ?_⟩
    rw [length_encode]
    rfl

end Utf8

/-! ## What is shown -/

theorem Utf8.validStart_of_flaw? {ps : List Utf8.Piece} (hflaw : flaw? ps = none) :
    validStart ps = ps.map (·.shown) := by
  induction ps with
  | nil => rfl
  | cons p rest ih =>
    cases p with
    | char c =>
      have hrest := ih hflaw
      rw [List.map_cons, ← hrest]
      rfl
    | stray | cut => cases hflaw

namespace Chunk

/-- A chunk that is text shows no differently from one that is not: piece by piece. -/
theorem toList_shown (chunk : Bytes) :
    (shown chunk).toList = (Utf8.pieces chunk).map (·.shown) := by
  rw [shown, decode]
  cases hflaw : Utf8.flaw? (Utf8.pieces chunk) with
  | some flaw => exact String.toList_ofList
  | none => rw [String.toList_ofList, Utf8.validStart_of_flaw? hflaw]

theorem length_shown (chunk : Bytes) : (shown chunk).length = (Utf8.pieces chunk).length := by
  rw [← String.length_toList, toList_shown, List.length_map]

theorem shown_encode (text : String) : shown (Utf8.encode text) = text := by
  rw [String.ext_iff, toList_shown, Utf8.pieces_encode, List.map_map]
  exact List.map_id _

end Chunk

end TextRelay
