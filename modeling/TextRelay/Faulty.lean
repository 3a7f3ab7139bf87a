import TextRelay.Medium

/-!
# Faulty media

A medium around another one that fails where it is told to, and counts the calls that matter: how
often a stream was shut down, and how often a handle was cloned.
-/

namespace TextRelay

/-- A medium with faults in store. -/
structure Faulty (κ : Type) where
  base : κ
  /-- The fault of the clone call with this number, counted from one. -/
  cloneFault : Option (Nat × Fault) := none
  /-- What a shutdown reports after it was done. -/
  shutdownFault : Option Fault := none
  sendFault : Option Fault := none
  /-- The fault of the next receive that is at the end of its stream. -/
  endFault : Option Fault := none
  clones : Nat := 0
  shutdowns : Nat := 0

namespace Faulty

variable {κ : Type} [Medium κ]

def send (w : Faulty κ) (h : Nat) (data : Bytes) : Option (Except Fault Nat × Faulty κ) :=
  match w.sendFault with
  | some fault => some (.error fault, { w with sendFault := none })
  | none => (Medium.send w.base h data).map fun (result, base) => (result, { w with base })

/-- Receives, and fails once in place of the end of the stream if told to. -/
def receive (w : Faulty κ) (h size : Nat) : Option (Except Fault Bytes × Faulty κ) :=
  (Medium.receive w.base h size).map fun (result, base) =>
    match result, w.endFault with
    | .ok [], some fault => (.error fault, { w with base, endFault := none })
    | _, _ => (result, { w with base })

def clone (w : Faulty κ) (h : Nat) : Except Fault Nat × Faulty κ :=
  let w := { w with clones := w.clones + 1 }
  let clean :=
    let (result, base) := Medium.clone w.base h
    (result, { w with base })
  match w.cloneFault with
  | some (at_, fault) => if at_ = w.clones then (.error fault, w) else clean
  | none => clean

def shutdown (w : Faulty κ) (h : Nat) : Except Fault Unit × Faulty κ :=
  let (result, base) := Medium.shutdown w.base h
  let w := { w with base, shutdowns := w.shutdowns + 1 }
  match w.shutdownFault with
  | some fault => (.error fault, w)
  | none => (result, w)

instance : Medium (Faulty κ) where
  send := send
  listen w h := { w with base := Medium.listen w.base h }
  receive := receive
  clone := clone
  shutdown := shutdown
  drop w h := { w with base := Medium.drop w.base h }
  peer w h := Medium.peer w.base h
  inTransit w := Medium.inTransit w.base

end Faulty

end TextRelay
