import TextRelay.Fault

/-!
# Listeners

A listener waits for peers on a medium. It is bound first, accepts then, and is closed at last;
closing it again does nothing more.
-/

namespace TextRelay

class Listener (ℓ : Type) (κ : outParam Type) where
  bind : ℓ → κ → Except Fault Unit × ℓ × κ
  /-- Accepts a peer, and returns the handle of the stream to it. Without a peer the call blocks. -/
  accept : ℓ → κ → Option (Except Fault Nat × ℓ × κ)
  close : ℓ → κ → ℓ × κ
  /-- The address it is bound to, or is meant to be bound to. -/
  describe : ℓ → κ → String

def notBound : Fault := ⟨.notConnected, "Not bound"⟩

end TextRelay
