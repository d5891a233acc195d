import Switchboard.Json.Fault

/-
This file reads the numbers of a JSON payload.
-/

namespace Switchboard.Json

/-- A number token keeps its digits; an absent fraction has none. -/
structure NumberToken where
  whole : Bytes
  fraction : Bytes
  exponent : Option (Bool × Bytes)
  deriving DecidableEq, Repr

def startsWithDigit : Bytes → Bool
  | [] => false
  | byte :: _ => isDigit byte

/-- The whole part is a single zero or starts with another digit. -/
def readWhole : Reader Bytes
  | [] => .error (faultAt .endInValue [])
  | first :: rest =>
    if isDigit first = false then .error (faultAt .invalidNumber rest)
    else if first = zero && startsWithDigit rest then .error (faultPast .invalidNumber rest)
    else .ok (first :: rest.takeWhile isDigit, rest.dropWhile isDigit)

/-- A point is followed by at least one digit. -/
def readFraction : Reader Bytes
  | [] => .ok ([], [])
  | byte :: rest =>
    if byte ≠ point then .ok ([], byte :: rest)
    else if startsWithDigit rest then .ok (rest.takeWhile isDigit, rest.dropWhile isDigit)
    else
      match rest with
      | [] => .error (faultAt .endInValue [])
      | rest => .error (faultPast .invalidNumber rest)

/-- The sign of an exponent may be left out. -/
def readExponentSign : Bytes → Bool × Bytes
  | [] => (true, [])
  | byte :: rest =>
    if byte = plus then (true, rest)
    else if byte = minus then (false, rest)
    else (true, byte :: rest)

/-- Either case of the letter starts an exponent, which has at least one digit. -/
def readExponent : Reader (Option (Bool × Bytes))
  | [] => .ok (none, [])
  | byte :: rest =>
    if byte = letterE || byte = 0x45 then
      let (positive, digits) := readExponentSign rest
      match digits with
      | [] => .error (faultAt .endInValue [])
      | digit :: rest =>
        if isDigit digit then
          .ok (some (positive, digit :: rest.takeWhile isDigit), rest.dropWhile isDigit)
        else .error (faultAt .invalidNumber rest)
    else .ok (none, byte :: rest)

/-- This reader starts after the sign of the number. -/
def readNumberToken : Reader NumberToken := fun bytes => do
  let (whole, rest) ← readWhole bytes
  let (fraction, rest) ← readFraction rest
  let (exponent, rest) ← readExponent rest
  return (⟨whole, fraction, exponent⟩, rest)

/-- Digits are added to a number as long as it stays within the bound; the others are left out. -/
def accumulate (bound : Nat) (number : Nat) : Bytes → Nat × Bytes
  | [] => (number, [])
  | digit :: rest =>
    if number * 10 + digitValue digit ≤ bound then
      accumulate bound (number * 10 + digitValue digit) rest
    else (number, digit :: rest)

/-- The significand of a number fits into 64 bits and its written exponent into 31. -/
def significandBound : Nat := 18446744073709551615

def exponentBound : Nat := 2147483647

inductive Number where
  | integer (value : Int)
  | float (value : Binary64)
  deriving DecidableEq, Repr

/--
This function scales by powers of ten that are numbers themselves. It has no result when the scaled
value exceeds every finite number.
-/
def scaleByTen (value : Float) (exponent : Int) : Option Float :=
  if exponent.natAbs ≤ 308 then
    if 0 ≤ exponent then
      let scaled := value * Float.ofScientific 1 false exponent.natAbs
      if scaled.isInf then none else some scaled
    else some (value / Float.ofScientific 1 false exponent.natAbs)
  else if value == 0 then some value
  else if 0 ≤ exponent then none
  else scaleByTen (value / Float.ofScientific 1 false 308) (exponent + 308)
termination_by exponent.natAbs
decreasing_by omega

/-- An exponent beyond the bound saturates. -/
def saturate (exponent : Int) : Int := max (-2147483648) (min exponent 2147483647)

def signed (negative : Bool) (value : Float) : Number :=
  .float (.ofFloat (if negative then -value else value))

/-- The error counts the digits of the exponent that were not looked at. -/
abbrev Evaluation := Except Nat Number

/-- The significand and the exponent give the number, unless it is out of range. -/
def evaluateParts (negative : Bool) (significand : Nat) (exponent : Int) : Evaluation :=
  match scaleByTen significand.toUInt64.toFloat exponent with
  | some value => .ok (signed negative value)
  | none => .error 0

/-- A written exponent beyond the bound makes the number zero or puts it out of range. -/
def evaluateExponent (negative : Bool) (significand : Nat) (exponent : Int) (positive : Bool)
    (digits : Bytes) : Evaluation :=
  let (written, leftOut) := accumulate exponentBound 0 digits
  match leftOut with
  | [] =>
    evaluateParts negative significand
      (saturate (if positive then exponent + written else exponent - written))
  | _ :: unread =>
    if significand ≠ 0 && positive then .error unread.length
    else .ok (signed negative 0)

/-- A whole number that no integer type holds becomes a float, and so does the negative zero. -/
def evaluateWhole (negative : Bool) (significand : Nat) : Number :=
  if negative = false then .integer significand
  else if significand = 0 || 9223372036854775808 < significand then
    signed true significand.toUInt64.toFloat
  else .integer (-significand)

/-- Digits beyond the bound of the significand only move the exponent. -/
def NumberToken.evaluate (negative : Bool) (token : NumberToken) : Evaluation :=
  let (whole, wholeLeft) := accumulate significandBound 0 token.whole
  let (significand, fractionLeft) := accumulate significandBound whole token.fraction
  let exponent : Int :=
    (wholeLeft.length : Int) - (token.fraction.length - fractionLeft.length : Nat)
  match token.exponent with
  | some (positive, digits) => evaluateExponent negative significand exponent positive digits
  | none =>
    if token.fraction = [] && wholeLeft = [] then .ok (evaluateWhole negative whole)
    else evaluateParts negative significand exponent

/-- This reader starts after the sign of the number. -/
def readNumber (negative : Bool) : Reader Number := fun bytes => do
  let (token, rest) ← readNumberToken bytes
  match token.evaluate negative with
  | .ok number => return (number, rest)
  | .error unread => .error ⟨.numberOutOfRange, rest.length + unread⟩

end Switchboard.Json
