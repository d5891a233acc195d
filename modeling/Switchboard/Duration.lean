/-
This file measures time spans in nanoseconds and writes them in the largest unit that fits.
-/

namespace Switchboard

/-- A duration counts whole nanoseconds. -/
structure Duration where
  nanoseconds : Nat
  deriving DecidableEq, Repr

namespace Duration

def ofMilliseconds (milliseconds : Nat) : Duration := ⟨milliseconds * 1000000⟩

def ofSeconds (seconds nanoseconds : Nat) : Duration := ⟨seconds * 1000000000 + nanoseconds⟩

/-- A part of a millisecond does not count. -/
def toMilliseconds (duration : Duration) : Nat := duration.nanoseconds / 1000000

def min (first second : Duration) : Duration :=
  if first.nanoseconds ≤ second.nanoseconds then first else second

/-- The digits of a fraction end with a digit other than zero. -/
def fractionDigits (width numerator : Nat) : List Char :=
  let digits := Nat.toDigits 10 numerator
  let padded := List.replicate (width - digits.length) '0' ++ digits
  (padded.reverse.dropWhile (· = '0')).reverse

/-- The unit is the width of the fraction: a unit of ten to the power `width` nanoseconds. -/
def inUnit (width : Nat) (unit : String) (nanoseconds : Nat) : String :=
  let whole := nanoseconds / Nat.pow 10 width
  let part := nanoseconds % Nat.pow 10 width
  if part = 0 then s!"{whole}{unit}"
  else s!"{whole}.{String.ofList (fractionDigits width part)}{unit}"

/-- The unit is the largest one in which the duration is at least one; zero counts nanoseconds. -/
def text (duration : Duration) : String :=
  if 1000000000 ≤ duration.nanoseconds then inUnit 9 "s" duration.nanoseconds
  else if 1000000 ≤ duration.nanoseconds then inUnit 6 "ms" duration.nanoseconds
  else if 1000 ≤ duration.nanoseconds then inUnit 3 "µs" duration.nanoseconds
  else inUnit 0 "ns" duration.nanoseconds

end Duration

end Switchboard
