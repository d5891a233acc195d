import Switchboard.Datum

/-
This file describes what a reader expects of a payload.
-/

namespace Switchboard

/-- The integer types differ in their least and greatest numbers only. -/
inductive IntegerType where
  | u8
  | i8
  | u32
  | i32
  | u64
  | i64
  deriving DecidableEq, Repr

namespace IntegerType

def name : IntegerType → String
  | .u8 => "u8"
  | .i8 => "i8"
  | .u32 => "u32"
  | .i32 => "i32"
  | .u64 => "u64"
  | .i64 => "i64"

def minimum : IntegerType → Int
  | .u8 => 0
  | .i8 => -128
  | .u32 => 0
  | .i32 => -2147483648
  | .u64 => 0
  | .i64 => -9223372036854775808

def maximum : IntegerType → Int
  | .u8 => 255
  | .i8 => 127
  | .u32 => 4294967295
  | .i32 => 2147483647
  | .u64 => 18446744073709551615
  | .i64 => 9223372036854775807

def holds (type : IntegerType) (value : Int) : Bool :=
  type.minimum ≤ value && value ≤ type.maximum

end IntegerType

mutual

/--
A shape says which data a reader accepts. A dictionary has texts as keys and one shape for its
values; a pair table has pairs of 32-bit integers as keys and 32-bit integers as values.
-/
inductive Shape where
  | unit
  | bool
  | integer (type : IntegerType)
  | text
  | optional (content : Shape)
  | list (item : Shape)
  | dictionary (value : Shape)
  | pair (first second : Shape)
  | pairTable
  | record (name : String) (fields : Fields)
  | any
  deriving DecidableEq, Repr

/--
The fields of a record stand in declaration order. A defaulted field may be missing at the end of a
record that is written as a list.
-/
inductive Fields where
  | nil
  | cons (name : String) (defaulted : Bool) (shape : Shape) (rest : Fields)
  deriving DecidableEq, Repr

end

namespace Shape

/-- A fault names what was expected in these words. -/
def expected : Shape → String
  | .unit => "unit"
  | .bool => "a boolean"
  | .integer type => type.name
  | .text => "a string"
  | .optional content => content.expected
  | .list _ => "a sequence"
  | .dictionary _ => "a map"
  | .pair _ _ => "a tuple of size 2"
  | .pairTable => "a map"
  | .record name _ => s!"struct {name}"
  | .any => "any valid JSON value"

def isOptional : Shape → Bool
  | .optional _ => true
  | _ => false

end Shape

def Fields.count : Fields → Nat
  | .nil => 0
  | .cons _ _ _ rest => rest.count + 1

def Fields.names : Fields → List String
  | .nil => []
  | .cons name _ _ rest => name :: rest.names

/-- A list that is too short for a record is reported in these words. -/
def Shape.expectedLength : Shape → String
  | .record name fields =>
    let noun := if fields.count = 1 then "element" else "elements"
    s!"struct {name} with {fields.count} {noun}"
  | shape => shape.expected

mutual

/-- This function decides whether a datum has a shape, in the form in which readers return it. -/
def Shape.holds : Shape → Datum → Bool
  | .unit, .null => true
  | .bool, .bool _ => true
  | .integer type, .int value => type.holds value
  | .text, .text _ => true
  | .optional content, datum =>
    match datum with
    | .null => true
    | datum => content.holds datum
  | .list item, .list items => items.all item.holds
  | .dictionary value, .object entries =>
    decide (Ascending.IsAscending (entries.map Prod.fst)) &&
      entries.all fun entry => value.holds entry.2
  | .pair first second, .list [one, two] => first.holds one && second.holds two
  | .pairTable, .pairs entries =>
    decide (Ascending.IsAscending (entries.map Prod.fst)) && entries.all fun entry =>
      IntegerType.i32.holds entry.1.1 && IntegerType.i32.holds entry.1.2 &&
        IntegerType.i32.holds entry.2
  | .record _ fields, .object entries => fields.hold entries
  | .any, datum => datum.isPlain
  | _, _ => false

/-- The entries of a record are its fields in declaration order, absent ones included. -/
def Fields.hold : Fields → List (String × Datum) → Bool
  | .nil, [] => true
  | .cons name _ shape rest, (key, value) :: entries =>
    key = name && shape.holds value && rest.hold entries
  | _, _ => false

end

end Switchboard
