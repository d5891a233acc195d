import Switchboard.Decimal.Shortest

/-
This file lays out the digits of a binary number as text.
-/

namespace Switchboard.Decimal

/-- A layout says which magnitudes are written positionally and how the others are written. -/
structure Layout where
  positional : Int → Bool
  /-- The sign of a nonnegative exponent is written between the mark and the exponent. -/
  positiveSign : String
  /-- Of two texts that are equally short and equally near, the layout prefers one. -/
  tie : Tie

/-- Payloads and their faults write magnitudes from -5 to 15 positionally. -/
def Layout.payload : Layout :=
  ⟨fun magnitude => -5 ≤ magnitude && magnitude ≤ 15, "+", .toEven⟩

/-- The plain layout knows no exponents. -/
def Layout.plain : Layout := ⟨fun _ => true, "+", .up⟩

/-- A positional text always has a point and at least one digit on both sides of it. -/
def positionalText (value : Digits) : String :=
  let characters := value.characters
  if 0 ≤ value.exponent then
    String.ofList (characters ++ List.replicate value.exponent.toNat '0' ++ ['.', '0'])
  else
    let places := (-value.exponent).toNat
    let padded := List.replicate (places + 1 - characters.length) '0' ++ characters
    let whole := padded.length - places
    String.ofList (padded.take whole ++ '.' :: padded.drop whole)

/-- A scientific text has a point only when it has a second digit. -/
def scientificText (layout : Layout) (value : Digits) : String :=
  let mantissa := match value.characters with
    | first :: second :: rest => first :: '.' :: second :: rest
    | single => single
  let magnitude := value.magnitude
  let sign := if 0 ≤ magnitude then layout.positiveSign else "-"
  String.ofList mantissa ++ "e" ++ sign ++ toString magnitude.natAbs

/-- The sign stands before the digits, also before those of a negative zero. -/
def Layout.text (layout : Layout) (number : Binary64) : String :=
  if number.isNaN then "NaN"
  else
    let sign := if number.isNegative then "-" else ""
    if number.isFinite = false then sign ++ "inf"
    else
      let value := shortest layout.tie number
      sign ++ (if layout.positional value.magnitude then positionalText value
        else scientificText layout value)

end Switchboard.Decimal
