import TextRelay.Text.Utf8

/-!
# Chunks

What one receive call brings is a chunk. Chunks are not aligned to characters, so each is decoded on
its own: strictly where that works, and otherwise lossily after a complaint that says how far the
chunk was valid and whether it only lacks its end.
-/

namespace TextRelay

structure DecodeError where
  /-- Length of the longest start of the chunk that is text. -/
  validUpTo : Nat
  length : Nat
  /-- Whether the chunk ends in the middle of a character. -/
  truncated : Bool
  deriving DecidableEq, Repr

def DecodeError.message (e : DecodeError) : String :=
  s!"invalid UTF-8 after {e.validUpTo} of {e.length} bytes"

namespace Chunk

def decode (chunk : Bytes) : Except DecodeError String :=
  let found := Utf8.pieces chunk
  let text := String.ofList (Utf8.validStart found)
  match Utf8.flaw? found with
  | none => .ok text
  | some flaw => .error ⟨text.utf8ByteSize, chunk.length, flaw == .cut⟩

/-- The text of a chunk, with `U+FFFD` for what is not text. -/
def decodeLossy (chunk : Bytes) : String :=
  Utf8.lossy chunk

def shown (chunk : Bytes) : String :=
  match decode chunk with
  | .ok text => text
  | .error _ => decodeLossy chunk

end Chunk

end TextRelay
