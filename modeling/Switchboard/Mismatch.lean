import Switchboard.Shape
import Switchboard.Decimal.Layout
import Switchboard.Text.Quoted

/-
This file says how a well-formed payload can fail to have the expected shape.
-/

namespace Switchboard

/-- A reader finds one of these kinds of data where it expects another. -/
inductive Found where
  | null
  | bool (value : Bool)
  | integer (value : Int)
  | float (value : Binary64)
  | text (value : String)
  | byteArray
  | extension
  | sequence
  | map
  deriving DecidableEq, Repr

/-- Payload formats differ in their name for the absent value and in how they write numbers. -/
structure Wording where
  null : String
  layout : Decimal.Layout

def Found.message (wording : Wording) : Found → String
  | .null => wording.null
  | .bool value => s!"boolean `{value}`"
  | .integer value => s!"integer `{value}`"
  | .float value => s!"floating point `{wording.layout.text value}`"
  | .text value => s!"string {Text.quoted value}"
  | .byteArray => "byte array"
  | .extension => "newtype struct"
  | .sequence => "sequence"
  | .map => "map"

/-- A mismatch concerns the type of a value, its range, a length or the fields of a record. -/
inductive Mismatch where
  | invalidType (found : Found) (expected : String)
  | invalidValue (found : Found) (expected : String)
  | invalidLength (length : Nat) (expected : String)
  | missingField (name : String)
  | duplicateField (name : String)
  deriving DecidableEq, Repr

def Mismatch.message (wording : Wording) : Mismatch → String
  | .invalidType found expected =>
    s!"invalid type: {found.message wording}, expected {expected}"
  | .invalidValue found expected =>
    s!"invalid value: {found.message wording}, expected {expected}"
  | .invalidLength length expected => s!"invalid length {length}, expected {expected}"
  | .missingField name => s!"missing field `{name}`"
  | .duplicateField name => s!"duplicate field `{name}`"

/-- An integer out of range is a wrong value and not a wrong type. -/
def IntegerType.accept (type : IntegerType) (value : Int) : Except Mismatch Int :=
  if type.holds value then .ok value
  else .error (.invalidValue (.integer value) type.name)

/--
A record is complete when every field that is not optional was found. The entries come back in
declaration order, and the first missing field is reported.
-/
def Fields.assemble (found : List (String × Datum)) :
    Fields → Except Mismatch (List (String × Datum))
  | .nil => .ok []
  | .cons name _ shape rest =>
    match found.lookup name with
    | some value => (rest.assemble found).map ((name, value) :: ·)
    | none =>
      if shape.isOptional then (rest.assemble found).map ((name, .null) :: ·)
      else .error (.missingField name)

end Switchboard
