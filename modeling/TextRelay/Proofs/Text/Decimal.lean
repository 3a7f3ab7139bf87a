import TextRelay.Text.Decimal

/-!
# Decimal numerals

Which texts are numbers, said without reading them: `Numeral`. A text is read as a number exactly if
it is a numeral of that number and the number is within the bound (`readNat_eq_ok_iff`). The reader
looks at the bound after every digit, and might as well look at it once in the end: digits that are
appended to a number never make it smaller (`le_ofDigitChars`), so a bound that is passed stays
passed, and zeros in front come nowhere near it.
-/

namespace TextRelay.Decimal

/-- One or more digits. -/
structure IsDigits (cs : List Char) : Prop where
  ne_nil : cs ≠ []
  digits : ∀ c ∈ cs, c.isDigit = true

/-- A text and the number that it is: one or more digits, and before them at most a plus sign. -/
inductive Numeral : List Char → Nat → Prop where
  | plain {cs : List Char} (h : IsDigits cs) : Numeral cs (Nat.ofDigitChars 10 cs 0)
  | signed {cs : List Char} (h : IsDigits cs) : Numeral ('+' :: cs) (Nat.ofDigitChars 10 cs 0)

namespace Numeral

variable {cs : List Char} {n : Nat}

theorem plus_iff : Numeral ('+' :: cs) n ↔ IsDigits cs ∧ Nat.ofDigitChars 10 cs 0 = n := by
  constructor
  · intro h
    cases h with
    | plain hdigits => exact absurd (hdigits.digits '+' List.mem_cons_self) (by decide)
    | signed hdigits => exact ⟨hdigits, rfl⟩
  · rintro ⟨hdigits, rfl⟩
    exact .signed hdigits

theorem iff_of_no_sign (hsign : ∀ rest, cs ≠ '+' :: rest) :
    Numeral cs n ↔ IsDigits cs ∧ Nat.ofDigitChars 10 cs 0 = n := by
  constructor
  · intro h
    cases h with
    | plain hdigits => exact ⟨hdigits, rfl⟩
    | signed => exact absurd rfl (hsign _)
  · rintro ⟨hdigits, rfl⟩
    exact .plain hdigits

/-- The decimal form of a number is a numeral of it, with any number of zeros in front. -/
theorem padded (zeros n : Nat) : Numeral (List.replicate zeros '0' ++ Nat.toDigits 10 n) n := by
  have hdigits : IsDigits (List.replicate zeros '0' ++ Nat.toDigits 10 n) := by
    refine ⟨by simp, fun c hc => ?_⟩
    rcases List.mem_append.1 hc with hzero | hdigit
    · rw [List.eq_of_mem_replicate hzero]
      rfl
    · exact Nat.isDigit_of_mem_toDigits (by decide) (by decide) hdigit
  have hvalue : Nat.ofDigitChars 10 (List.replicate zeros '0' ++ Nat.toDigits 10 n) 0 = n := by
    rw [Nat.ofDigitChars_append, Nat.ofDigitChars_replicate_zero, Nat.mul_zero,
      Nat.ofDigitChars_ten_toDigits]
  have hnumeral := Numeral.plain hdigits
  rwa [hvalue] at hnumeral

end Numeral

/-! ## Reading -/

theorem digit?_eq (c : Char) :
    digit? c = if c.isDigit then some (c.toNat - '0'.toNat) else none := by
  simp [digit?, Char.isDigit, Char.le_def]

theorem le_ofDigitChars (cs : List Char) (value : Nat) : value ≤ Nat.ofDigitChars 10 cs value := by
  rw [Nat.ofDigitChars_eq_ofDigitChars_zero]
  have hpos : 0 < 10 ^ cs.length := Nat.pow_pos (by decide)
  exact Nat.le_add_right_of_le (Nat.le_mul_of_pos_left value hpos)

variable {bound n : Nat} {passed : NumberError}

/-- Digits are read if all of them are digits and the bound is kept in the end. -/
theorem readDigits_eq_ok_iff {cs : List Char} {value : Nat} (hvalue : value ≤ bound) :
    readDigits bound passed value cs = .ok n ↔
      (∀ c ∈ cs, c.isDigit = true) ∧ Nat.ofDigitChars 10 cs value = n ∧ n ≤ bound := by
  induction cs generalizing value with
  | nil =>
    rw [readDigits, Nat.ofDigitChars_nil, Except.ok.injEq]
    constructor
    · rintro rfl
      exact ⟨nofun, rfl, hvalue⟩
    · exact fun h => h.2.1
  | cons c cs ih =>
    rw [readDigits, digit?_eq, Nat.ofDigitChars_cons, List.forall_mem_cons, Nat.mul_comm 10 value]
    cases hdigit : c.isDigit with
    | false => simp
    | true =>
      simp only [if_true, true_and]
      split
      · next hkept => exact ih hkept
      · next hpassed =>
        -- What follows cannot bring the number back under the bound.
        have hgrows := le_ofDigitChars cs (value * 10 + (c.toNat - '0'.toNat))
        constructor
        · nofun
        · rintro ⟨-, rfl, hkept⟩
          exact absurd (Nat.le_trans hgrows hkept) hpassed

theorem readMagnitude_eq_ok_iff {cs : List Char} :
    readMagnitude bound passed cs = .ok n ↔
      (IsDigits cs ∧ Nat.ofDigitChars 10 cs 0 = n) ∧ n ≤ bound := by
  cases cs with
  | nil =>
    constructor
    · nofun
    · exact fun h => absurd rfl h.1.1.ne_nil
  | cons c cs =>
    rw [readMagnitude, readDigits_eq_ok_iff (Nat.zero_le bound)]
    constructor
    · exact fun ⟨hdigits, hvalue, hkept⟩ => ⟨⟨⟨List.cons_ne_nil c cs, hdigits⟩, hvalue⟩, hkept⟩
    · exact fun ⟨⟨hdigits, hvalue⟩, hkept⟩ => ⟨hdigits.digits, hvalue, hkept⟩

/-- **A text is read as a number exactly if it is a numeral of it, within the bound.** -/
theorem readNat_eq_ok_iff {text : String} :
    readNat bound text = .ok n ↔ Numeral text.toList n ∧ n ≤ bound := by
  unfold readNat
  split
  · next htext =>
    rw [htext, Numeral.iff_of_no_sign fun rest => (List.cons_ne_nil '+' rest).symm]
    constructor
    · nofun
    · exact fun h => absurd rfl h.1.1.ne_nil
  · next cs htext => rw [htext, Numeral.plus_iff, readMagnitude_eq_ok_iff]
  · next hsign => rw [Numeral.iff_of_no_sign hsign, readMagnitude_eq_ok_iff]

end TextRelay.Decimal
