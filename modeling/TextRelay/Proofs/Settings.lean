import TextRelay.Proofs.Text.Decimal
import TextRelay.Settings

/-!
# What the settings say

Settings pass if each of three things is there at all; how large the chunk size is does not matter
(`validate_eq_ok_iff`).

The port and the chunk size are numbers, and a variable is a text. The number is taken from the
variable exactly if the text is a numeral of a number that the setting can hold; then the setting is
that number, and for every other text it is the default (`taken_iff_numeral`).
-/

namespace TextRelay

namespace Settings

theorem validate_eq_ok_iff (s : Settings) :
    s.validate = .ok () ↔ s.chunkSize ≠ 0 ∧ s.sentinel ≠ "" ∧ s.endpoint.host ≠ "" := by
  unfold validate
  split
  · next hsize => exact iff_of_false nofun fun h => h.1 hsize
  · next hsize =>
    split
    · next hsentinel => exact iff_of_false nofun fun h => h.2.1 (String.isEmpty_iff.1 hsentinel)
    · next hsentinel =>
      split
      · next hhost => exact iff_of_false nofun fun h => h.2.2 (String.isEmpty_iff.1 hhost)
      · next hhost =>
        refine iff_of_true rfl ⟨hsize, ?_, ?_⟩
        · exact mt String.isEmpty_iff.2 hsentinel
        · exact mt String.isEmpty_iff.2 hhost

/-- Settings that are in order ask for at least one byte at a time. -/
theorem chunkSize_pos {settings : Settings} (hvalid : settings.validate = .ok ()) :
    1 ≤ settings.chunkSize.toNat := by
  obtain ⟨hne, -⟩ := settings.validate_eq_ok_iff.1 hvalid
  exact Nat.one_le_iff_ne_zero.2 fun hzero => hne (UInt64.toNat.inj hzero)

end Settings

/-! ## Settings and their variables -/

/-- The settings that have an option and a variable. -/
inductive Field where
  | host
  | port
  | chunkSize
  | sentinel
  | label
  deriving DecidableEq

namespace Field

def Value : Field → Type
  | port => UInt16
  | chunkSize => UInt64
  | host | sentinel | label => String

def variableName : Field → String
  | host => "RELAY_HOST"
  | port => "RELAY_PORT"
  | chunkSize => "RELAY_CHUNK_SIZE"
  | sentinel => "RELAY_SENTINEL"
  | label => "RELAY_PEER_LABEL"

/-- The value where nothing else is said. -/
def builtIn : (field : Field) → field.Value
  | host => "127.0.0.1"
  | port => (25565 : UInt16)
  | chunkSize => (1024 : UInt64)
  | sentinel => "break"
  | label => "client"

/-- The value that a text is in a variable. -/
def readVariable : (field : Field) → String → Option field.Value
  | host, text | sentinel, text | label, text => some text
  | port, text => Settings.port? text
  | chunkSize, text => Settings.chunkSize? text

/-- The value in some settings. -/
def get (s : Settings) : (field : Field) → field.Value
  | host => s.endpoint.host
  | port => s.endpoint.port
  | chunkSize => s.chunkSize
  | sentinel => s.sentinel
  | label => s.label

/-- The value that the variable is set to. -/
def ofVariable (field : Field) (lookup : String → Option String) : Option field.Value :=
  (lookup field.variableName).bind field.readVariable

theorem get_ofLookup (field : Field) (lookup : String → Option String) :
    field.get (.ofLookup lookup) = (field.ofVariable lookup).getD field.builtIn := by
  cases field with
  | host | sentinel | label =>
    show (lookup _).getD _ = ((lookup _).bind some).getD _
    rw [Option.bind_fun_some]
    rfl
  | port | chunkSize => rfl

end Field

namespace Settings

/-! ## Numbers -/

/-- The settings that are numbers. -/
inductive Quantity where
  | port
  | chunkSize
  deriving DecidableEq

namespace Quantity

def field : Quantity → Field
  | port => .port
  | chunkSize => .chunkSize

/-- The largest number that the setting can hold. -/
def bound : Quantity → Nat
  | port => 65535
  | chunkSize => 0xFFFFFFFFFFFFFFFF

def toNat : (q : Quantity) → q.field.Value → Nat
  | port => UInt16.toNat
  | chunkSize => UInt64.toNat

def variableName (q : Quantity) : String := q.field.variableName

def default (q : Quantity) : Nat := q.toNat q.field.builtIn

/-- The number in some settings. -/
def get (s : Settings) (q : Quantity) : Nat := q.toNat (q.field.get s)

/-- The number that is taken from the variable. -/
def taken (q : Quantity) (lookup : String → Option String) : Option Nat :=
  (q.field.ofVariable lookup).map q.toNat

/-- The variable is set to a numeral of a number that the setting can hold. -/
def Named (q : Quantity) (lookup : String → Option String) (n : Nat) : Prop :=
  ∃ text, lookup q.variableName = some text ∧ Decimal.Numeral text.toList n ∧ n ≤ q.bound

/-- Numbers within the bound go through a word of their size unchanged. -/
theorem map_readNat_eq_some_iff {bound n : Nat} {text : String} {word : Nat → Nat}
    (hword : ∀ m ≤ bound, word m = m) :
    (Decimal.readNat bound text).toOption.map word = some n ↔
      Decimal.Numeral text.toList n ∧ n ≤ bound := by
  rw [← Decimal.readNat_eq_ok_iff]
  cases hread : Decimal.readNat bound text with
  | error e => simp [Except.toOption]
  | ok m => simp [Except.toOption, hword m (Decimal.readNat_eq_ok_iff.1 hread).2]

theorem read_eq_some_iff {q : Quantity} {text : String} {n : Nat} :
    (q.field.readVariable text).map q.toNat = some n ↔
      Decimal.Numeral text.toList n ∧ n ≤ q.bound := by
  cases q with
  | port =>
    show (port? text).map UInt16.toNat = some n ↔ _
    rw [port?, Option.map_map]
    exact map_readNat_eq_some_iff fun m hm => UInt16.toNat_ofNat_of_lt (Nat.lt_succ_of_le hm)
  | chunkSize =>
    show (chunkSize? text).map UInt64.toNat = some n ↔ _
    rw [chunkSize?, Option.map_map]
    exact map_readNat_eq_some_iff fun m hm => UInt64.toNat_ofNat_of_lt (Nat.lt_succ_of_le hm)

theorem taken_eq_some_iff {q : Quantity} {lookup : String → Option String} {n : Nat} :
    q.taken lookup = some n ↔ q.Named lookup n := by
  simp only [taken, Field.ofVariable, Option.map_bind, Option.bind_eq_some_iff, Function.comp,
    read_eq_some_iff, Named, variableName]

theorem get_ofLookup (q : Quantity) (lookup : String → Option String) :
    q.get (.ofLookup lookup) = (q.taken lookup).getD q.default := by
  rw [get, Field.get_ofLookup, taken, default, Option.getD_map]

/-- **A number is taken from its variable exactly if that is a numeral in range.** Then the setting
is this number, and otherwise it is the default; so the decimal form of every number that the
setting can hold is read back as that number, with any number of zeros in front. -/
theorem taken_iff_numeral (q : Quantity) (lookup : String → Option String) :
    (∀ n, q.taken lookup = some n ↔ q.Named lookup n) ∧
    (∀ n, q.Named lookup n → q.get (.ofLookup lookup) = n) ∧
    ((∀ n, ¬ q.Named lookup n) → q.get (.ofLookup lookup) = q.default) ∧
    ∀ zeros, ∀ n ≤ q.bound,
      lookup q.variableName = some (String.ofList (List.replicate zeros '0') ++ toString n) →
      q.get (.ofLookup lookup) = n := by
  have hnamed : ∀ n, q.Named lookup n → q.get (.ofLookup lookup) = n := by
    intro n hn
    rw [get_ofLookup, taken_eq_some_iff.2 hn, Option.getD_some]
  refine ⟨fun n => taken_eq_some_iff, hnamed, fun hnone => ?_, fun zeros n hn hlookup => ?_⟩
  · have htaken : q.taken lookup = none :=
      Option.eq_none_iff_forall_ne_some.2 fun n hn => hnone n (taken_eq_some_iff.1 hn)
    rw [get_ofLookup, htaken, Option.getD_none]
  · refine hnamed n ⟨_, hlookup, ?_, hn⟩
    rw [String.toList_append, String.toList_ofList, Nat.toString_eq_ofList_toDigits,
      String.toList_ofList]
    exact .padded zeros n

/-- A port with a sign and zeros in front, and a chunk size that is too large by one. -/
def borderline : String → Option String
  | "RELAY_PORT" => some "+00080"
  | "RELAY_CHUNK_SIZE" => some "18446744073709551616"
  | _ => none

theorem taken_iff_numeral_borderline :
    port.Named borderline 80 ∧ port.get (.ofLookup borderline) = 80 ∧
      (∀ n, ¬ chunkSize.Named borderline n) ∧ chunkSize.get (.ofLookup borderline) = 1024 := by
  have hdigits : Decimal.IsDigits "00080".toList := ⟨by decide, by simp⟩
  have hnumeral : Decimal.Numeral ('+' :: "00080".toList) 80 :=
    Decimal.Numeral.plus_iff.2 ⟨hdigits, by decide⟩
  have hport : port.Named borderline 80 := ⟨"+00080", rfl, hnumeral, by decide⟩
  have hsize : ∀ n, ¬ chunkSize.Named borderline n := by
    rintro n ⟨text, htext, hnumeral, hn⟩
    cases htext
    obtain ⟨-, rfl⟩ := (Decimal.Numeral.iff_of_no_sign (by simp)).1 hnumeral
    exact absurd hn (by decide)
  exact ⟨hport, (taken_iff_numeral port borderline).2.1 80 hport, hsize,
    (taken_iff_numeral chunkSize borderline).2.2.1 hsize⟩

end Quantity

end Settings

end TextRelay
