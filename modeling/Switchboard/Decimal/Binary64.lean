/-
This file holds binary floating-point numbers of 64 bits as the bits that codecs carry.
-/

namespace Switchboard

/-- Two numbers are the same exactly when their bits are, so both zeros and every NaN differ. -/
structure Binary64 where
  bits : UInt64
  deriving DecidableEq, Repr

namespace Binary64

def ofFloat (value : Float) : Binary64 := ⟨value.toBits⟩

def toFloat (number : Binary64) : Float := Float.ofBits number.bits

def isNegative (number : Binary64) : Bool := Nat.pow 2 63 ≤ number.bits.toNat

def exponentField (number : Binary64) : Nat := number.bits.toNat / Nat.pow 2 52 % Nat.pow 2 11

def fractionField (number : Binary64) : Nat := number.bits.toNat % Nat.pow 2 52

/-- The largest exponent field marks the infinities and the NaNs. -/
def isFinite (number : Binary64) : Bool := number.exponentField ≠ 2047

def isNaN (number : Binary64) : Bool := number.exponentField = 2047 && number.fractionField ≠ 0

/-- A number with exponent field zero has no hidden leading bit. -/
def significand (number : Binary64) : Nat :=
  if number.exponentField = 0 then number.fractionField else number.fractionField + Nat.pow 2 52

/-- A finite number is its significand times two to the power of this exponent. -/
def exponent (number : Binary64) : Int :=
  if number.exponentField = 0 then -1074 else (number.exponentField : Int) - 1075

/-- This function widens a number of 32 bits, which every 64-bit number system contains. -/
def ofBinary32Bits (bits : UInt32) : Binary64 := ofFloat (Float32.ofBits bits).toFloat

end Binary64

end Switchboard
