/-
This file names the payload type that every codec writes and every transport carries.
-/

namespace Switchboard

/-- A payload is a finite sequence of bytes and carries no type of its own. -/
abbrev Bytes := List UInt8

namespace Bytes

/-- The length says how many big-endian bytes hold the number, which is taken modulo their range. -/
def bigEndian : Nat → Nat → Bytes
  | 0, _ => []
  | length + 1, number => UInt8.ofNat (number / Nat.pow 256 length) :: bigEndian length number

/-- The first byte of a big-endian number weighs the most. -/
def toNat (bytes : Bytes) : Nat :=
  bytes.foldl (fun number byte => number * 256 + byte.toNat) 0

theorem bigEndian_length (length number : Nat) : (bigEndian length number).length = length := by
  induction length with
  | zero => rfl
  | succ length inductionHypothesis => simp [bigEndian, inductionHypothesis]

end Bytes

end Switchboard
