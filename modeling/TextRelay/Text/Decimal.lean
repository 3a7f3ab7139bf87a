/-!
# Decimal numbers

Reading whole numbers from text: an optional sign, then one or more ASCII digits, with a bound on
the value. Leading zeros are fine in any number. The text is read from left to right and the first
trouble decides the answer; a character that is no digit is noticed before the bound is.
-/

namespace TextRelay.Decimal

inductive NumberError where
  | empty
  | badDigit
  | tooLarge
  | tooSmall
  deriving DecidableEq, Repr

def NumberError.message : NumberError → String
  | empty => "cannot parse integer from empty string"
  | badDigit => "invalid digit found in string"
  | tooLarge => "number too large to fit in target type"
  | tooSmall => "number too small to fit in target type"

def digit? (c : Char) : Option Nat :=
  if '0' ≤ c ∧ c ≤ '9' then some (c.toNat - '0'.toNat) else none

/-- Appends digits to a number of at most `bound`; passing the bound is answered by `passed`. -/
def readDigits (bound : Nat) (passed : NumberError) : Nat → List Char → Except NumberError Nat
  | value, [] => .ok value
  | value, c :: cs =>
    match digit? c with
    | none => .error .badDigit
    | some d =>
      if value * 10 + d ≤ bound then readDigits bound passed (value * 10 + d) cs
      else .error passed

def readMagnitude (bound : Nat) (passed : NumberError) : List Char → Except NumberError Nat
  | [] => .error .badDigit
  | c :: cs => readDigits bound passed 0 (c :: cs)

/-- A number from 0 to `bound`. A sign other than `+` is no digit. -/
def readNat (bound : Nat) (text : String) : Except NumberError Nat :=
  match text.toList with
  | [] => .error .empty
  | '+' :: cs => readMagnitude bound .tooLarge cs
  | cs => readMagnitude bound .tooLarge cs

def readInt64 (text : String) : Except NumberError Int :=
  match text.toList with
  | [] => .error .empty
  | '+' :: cs => (readMagnitude (0x7FFFFFFFFFFFFFFF) .tooLarge cs).map Int.ofNat
  | '-' :: cs => (readMagnitude (0x8000000000000000) .tooSmall cs).map (fun n => - Int.ofNat n)
  | cs => (readMagnitude (0x7FFFFFFFFFFFFFFF) .tooLarge cs).map Int.ofNat

end TextRelay.Decimal
