import Mathlib.Algebra.Group.Nat.Defs
import Switchboard.Bytes

/-
This file shows that big-endian bytes read back as the number they were written for.
-/

namespace Switchboard.Bytes

theorem bigEndian_succ (length number : Nat) :
    bigEndian (length + 1) number =
      UInt8.ofNat (number / 256 ^ length) :: bigEndian length number := rfl

/-- Bytes read after others weigh less than these. -/
theorem foldl_bigEndian (length number held : Nat) :
    (bigEndian length number).foldl (fun total byte => total * 256 + byte.toNat) held =
      held * 256 ^ length + number % 256 ^ length := by
  induction length generalizing held with
  | zero => simp [bigEndian, Nat.mod_one]
  | succ length inductionHypothesis =>
      have digit : (UInt8.ofNat (number / 256 ^ length)).toNat = number / 256 ^ length % 256 :=
        UInt8.toNat_ofNat'
      have split : number % 256 ^ (length + 1) =
          number % 256 ^ length + 256 ^ length * (number / 256 ^ length % 256) := by
        rw [Nat.pow_succ, Nat.mod_mul]
      rw [bigEndian_succ, List.foldl_cons, inductionHypothesis, digit, split, Nat.pow_succ,
        Nat.add_mul]
      rw [Nat.mul_comm (number / 256 ^ length % 256), Nat.mul_assoc held, Nat.mul_comm 256]
      omega

/-- A number is written modulo the range of its bytes. -/
theorem toNat_bigEndian (length number : Nat) :
    toNat (bigEndian length number) = number % 256 ^ length := by
  rw [toNat, foldl_bigEndian, Nat.zero_mul, Nat.zero_add]

theorem toNat_bigEndian_of_lt {length number : Nat} (fits : number < 256 ^ length) :
    toNat (bigEndian length number) = number := by
  rw [toNat_bigEndian, Nat.mod_eq_of_lt fits]

theorem foldl_lt (bytes : Bytes) {held range : Nat} (within : held < range) :
    bytes.foldl (fun total byte => total * 256 + byte.toNat) held < range * 256 ^ bytes.length := by
  induction bytes generalizing held range with
  | nil =>
      rw [List.foldl_nil, List.length_nil, Nat.pow_zero, Nat.mul_one]
      exact within
  | cons byte bytes inductionHypothesis =>
      have small : byte.toNat < 256 := byte.toNat_lt
      have next : held * 256 + byte.toNat < range * 256 := by omega
      have later := inductionHypothesis next
      rw [Nat.mul_assoc, ← Nat.pow_succ'] at later
      exact later

/-- Bytes hold no more than their number allows. -/
theorem toNat_lt (bytes : Bytes) : toNat bytes < 256 ^ bytes.length := by
  have bounded := foldl_lt bytes Nat.zero_lt_one
  rw [Nat.one_mul] at bounded
  exact bounded

end Switchboard.Bytes
