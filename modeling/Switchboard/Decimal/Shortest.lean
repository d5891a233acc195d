import Switchboard.Decimal.Binary64

/-
This file finds the fewest decimal digits that read back as a given binary number.
-/

namespace Switchboard.Decimal

/-- The digits stand for their number times ten to the power of the exponent. -/
structure Digits where
  digits : Nat
  exponent : Int
  deriving DecidableEq, Repr

namespace Digits

/-- Trailing zeros move into the exponent; the fuel bounds how many there are. -/
def strip : Nat → Digits → Digits
  | 0, value => value
  | fuel + 1, value =>
    if value.digits ≠ 0 && value.digits % 10 = 0 then
      strip fuel ⟨value.digits / 10, value.exponent + 1⟩
    else value

/-- The digits are written in positional notation without leading zeros. -/
def characters (value : Digits) : List Char := Nat.toDigits 10 value.digits

/-- The magnitude is the exponent of the first digit. -/
def magnitude (value : Digits) : Int := value.exponent + value.characters.length - 1

end Digits

/--
The numbers that round to a given binary number form an interval around it. All three points share
one denominator, and the ends belong to the interval exactly when the significand is even.
-/
structure Interval where
  lower : Nat
  value : Nat
  upper : Nat
  denominator : Nat
  closed : Bool

/-- The gap below a power of two is half the gap above it, except at the smallest exponent. -/
def Interval.ofFinite (number : Binary64) : Interval :=
  let significand := number.significand
  let below := if number.fractionField = 0 && 1 < number.exponentField then 1 else 2
  let shift := (number.exponent - 2).toNat
  let scale := Nat.pow 2 shift
  let denominator := Nat.pow 2 (2 - number.exponent).toNat
  ⟨(4 * significand - below) * scale, 4 * significand * scale, (4 * significand + 2) * scale,
    denominator, significand % 2 = 0⟩

/-- A decimal point times the power of ten is compared with the ends without rounding. -/
def Interval.contains (interval : Interval) (numerator denominator : Nat) : Bool :=
  let point := numerator * interval.denominator
  let lower := interval.lower * denominator
  let upper := interval.upper * denominator
  if interval.closed then lower ≤ point && point ≤ upper
  else lower < point && point < upper

/-- The decimal grid with the given exponent has a numerator or a denominator as its step. -/
def gridStep (exponent : Int) : Nat × Nat :=
  (Nat.pow 10 exponent.toNat, Nat.pow 10 (-exponent).toNat)

/-- A value halfway between two neighbours goes to the even one or to the greater one. -/
inductive Tie where
  | toEven
  | up
  deriving DecidableEq, Repr

def Tie.goesDown (tie : Tie) (below : Nat) : Bool :=
  match tie with
  | .toEven => below % 2 = 0
  | .up => false

/-- The two neighbours of the value on a grid are tried; the nearer of two hits wins. -/
def Interval.onGrid? (tie : Tie) (interval : Interval) (exponent : Int) : Option Digits :=
  let (stepNumerator, stepDenominator) := gridStep exponent
  let scaled := interval.value * stepDenominator
  let unit := interval.denominator * stepNumerator
  let below := scaled / unit
  let above := below + 1
  let belowHits := below ≠ 0 && interval.contains (below * stepNumerator) stepDenominator
  let aboveHits := interval.contains (above * stepNumerator) stepDenominator
  let nearerBelow := scaled - below * unit < above * unit - scaled
  let halfway := scaled - below * unit = above * unit - scaled
  if belowHits && (!aboveHits || nearerBelow || (halfway && tie.goesDown below)) then
    some ⟨below, exponent⟩
  else if aboveHits then some ⟨above, exponent⟩
  else none

/-- Coarse grids come first, so the first hit has the fewest digits. -/
def Interval.search (tie : Tie) (interval : Interval) : Nat → Int → Digits
  | 0, exponent => ⟨interval.value / interval.denominator, exponent⟩
  | fuel + 1, exponent =>
    match interval.onGrid? tie exponent with
    | some digits => digits
    | none => interval.search tie fuel (exponent - 1)

/-- The number of places before the point bounds the coarsest grid that can hit. -/
def Interval.places (interval : Interval) : Int :=
  let whole := interval.value / interval.denominator
  if whole = 0 then
    1 - (Nat.toDigits 10 (interval.denominator / (interval.value + 1))).length
  else (Nat.toDigits 10 whole).length

/-- Zero has the digit zero; every other finite number has at most seventeen digits. -/
def shortest (tie : Tie) (number : Binary64) : Digits :=
  if number.significand = 0 then ⟨0, 0⟩
  else
    let interval := Interval.ofFinite number
    (interval.search tie 20 interval.places).strip 20

end Switchboard.Decimal
