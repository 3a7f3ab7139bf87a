/-!
# UTF-8

Reading bytes as UTF-8, strictly. One machine walks over the bytes (`Utf8.step`) and cuts them into
pieces: characters, stray bytes that begin no character, and at the very end perhaps a character
that was cut off. Everything else is read off these pieces: whether the bytes are valid, how far
they are, whether more bytes could still repair them, and the text that is shown when they are not.

A piece of stray bytes is as long as it can be: the longest start of some character that stands
there, or one byte where no character starts. Overlong forms, surrogates and numbers beyond
`U+10FFFF` begin no character.
-/

namespace TextRelay

/-- Raw bytes, as they travel over a stream. -/
abbrev Bytes := List UInt8

namespace Utf8

def encode (text : String) : Bytes :=
  text.toList.flatMap String.utf8EncodeChar

/-- What a byte that opens a longer character asks for: its own share of the character's number,
how many bytes follow, and the least and greatest value of the first of them. -/
structure Lead where
  bits : Nat
  more : Nat
  low : UInt8
  high : UInt8
  deriving DecidableEq, Repr

/-- The lead bytes. The four narrowed ranges keep out overlong forms (after `E0` and `F0`),
surrogates (after `ED`) and numbers beyond the last character (after `F4`). -/
def lead? (b : UInt8) : Option Lead :=
  if 0xC2 ≤ b ∧ b ≤ 0xDF then some ⟨b.toNat - 0xC0, 1, 0x80, 0xBF⟩
  else if b = 0xE0 then some ⟨0, 2, 0xA0, 0xBF⟩
  else if b = 0xED then some ⟨0x0D, 2, 0x80, 0x9F⟩
  else if 0xE1 ≤ b ∧ b ≤ 0xEF then some ⟨b.toNat - 0xE0, 2, 0x80, 0xBF⟩
  else if b = 0xF0 then some ⟨0, 3, 0x90, 0xBF⟩
  else if 0xF1 ≤ b ∧ b ≤ 0xF3 then some ⟨b.toNat - 0xF0, 3, 0x80, 0xBF⟩
  else if b = 0xF4 then some ⟨4, 3, 0x80, 0x8F⟩
  else none

inductive State where
  | between
  /-- Inside a character: its number so far, how many bytes beyond the next one are still owed,
  and the range of the next one. -/
  | inside (bits : Nat) (after : Nat) (low high : UInt8)
  deriving DecidableEq, Repr

inductive Piece where
  | char (c : Char)
  /-- Bytes that begin no character, given what follows them. -/
  | stray
  /-- The start of a character at the end of the bytes. -/
  | cut
  deriving DecidableEq, Repr

/-- A byte between characters: a character of its own, a lead byte, or a stray. -/
def enter (b : UInt8) : List Piece × State :=
  if b < 0x80 then ([.char (Char.ofNat b.toNat)], .between)
  else match lead? b with
    | some l => ([], .inside l.bits (l.more - 1) l.low l.high)
    | none => ([.stray], .between)

/-- One byte. Inside a character, a byte out of range leaves the character's start behind as a
stray piece and is then looked at afresh. -/
def step : State → UInt8 → List Piece × State
  | .between, b => enter b
  | .inside bits after low high, b =>
    if low ≤ b ∧ b ≤ high then
      let bits := bits * 64 + (b.toNat - 0x80)
      match after with
      | 0 => ([.char (Char.ofNat bits)], .between)
      | n + 1 => ([], .inside bits n 0x80 0xBF)
    else
      let (found, next) := enter b
      (.stray :: found, next)

def piecesFrom : State → Bytes → List Piece
  | .between, [] => []
  | .inside .., [] => [.cut]
  | s, b :: bs => (step s b).1 ++ piecesFrom (step s b).2 bs

def pieces (bytes : Bytes) : List Piece :=
  piecesFrom .between bytes

namespace Piece

def char? : Piece → Option Char
  | char c => some c
  | _ => none

/-- The character shown for a piece: a piece that is none shows as `U+FFFD`. -/
def shown : Piece → Char
  | char c => c
  | _ => '�'

end Piece

def validStart (ps : List Piece) : List Char :=
  (ps.takeWhile (·.char?.isSome)).filterMap (·.char?)

def flaw? (ps : List Piece) : Option Piece :=
  ps.find? (·.char?.isNone)

def lossy (bytes : Bytes) : String :=
  String.ofList ((pieces bytes).map (·.shown))

end Utf8

end TextRelay
