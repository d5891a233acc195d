import Switchboard.Ascending
import Switchboard.Decimal.Binary64

/-
This file holds the values that payloads carry, apart from any payload format.
-/

namespace Switchboard

/-- Pairs of integers are ordered by their first part and then by their second. -/
instance instOrdIntPair : Ord (Int × Int) := lexOrd

/--
A datum is what a sender writes and a reader gets. An object lists its entries in writing order.
Pairs are a table whose keys are pairs of integers, which not every format can write.
-/
inductive Datum where
  | null
  | bool (value : Bool)
  | int (value : Int)
  | float (value : Binary64)
  | text (value : String)
  | list (items : List Datum)
  | object (entries : List (String × Datum))
  | pairs (entries : List ((Int × Int) × Int))
  deriving Repr, Inhabited

namespace Datum

/-- Payloads hold the integers of 64 bits, signed or unsigned. -/
def isPlainInteger (value : Int) : Bool :=
  -9223372036854775808 ≤ value && value ≤ 18446744073709551615

mutual

/-- A plain datum is one that a reader without expectations can return. -/
def isPlain : Datum → Bool
  | .null => true
  | .bool _ => true
  | .int value => isPlainInteger value
  | .float value => value.isFinite
  | .text _ => true
  | .list items => arePlain items
  | .object entries => decide (Ascending.IsAscending (entries.map Prod.fst)) && entriesPlain entries
  | .pairs _ => false

def arePlain : List Datum → Bool
  | [] => true
  | item :: rest => isPlain item && arePlain rest

def entriesPlain : List (String × Datum) → Bool
  | [] => true
  | (_, value) :: rest => isPlain value && entriesPlain rest

end

mutual

/-- The depth counts the containers around the innermost datum. -/
def depth : Datum → Nat
  | .list items => listDepth items + 1
  | .object entries => entriesDepth entries + 1
  | .pairs _ => 2
  | _ => 0

def listDepth : List Datum → Nat
  | [] => 0
  | item :: rest => max (depth item) (listDepth rest)

def entriesDepth : List (String × Datum) → Nat
  | [] => 0
  | (_, value) :: rest => max (depth value) (entriesDepth rest)

end

end Datum

end Switchboard
