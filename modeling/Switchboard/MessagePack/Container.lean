import Switchboard.MessagePack.Skip

/-
This file walks through the lists and maps of a MessagePack payload.
-/

namespace Switchboard.MessagePack

/-- The head of a list says how many items follow. -/
def readItems (item : Reader Datum) : Nat → Reader (List Datum)
  | 0, bytes => .ok ([], bytes)
  | count + 1, bytes => do
    let (value, rest) ← item bytes
    let (more, rest) ← readItems item count rest
    return (value :: more, rest)

def readEntries {κ ν : Type} (key : Reader κ) (value : Reader ν) : Nat → Reader (List (κ × ν))
  | 0, bytes => .ok ([], bytes)
  | count + 1, bytes => do
    let (name, rest) ← key bytes
    let (held, rest) ← value rest
    let (more, rest) ← readEntries key value count rest
    return ((name, held) :: more, rest)

/-- A field reader also takes single bytes, because a byte array can stand for a record. -/
structure FieldReader where
  name : String
  defaulted : Bool
  read : Reader Datum
  ofByte : UInt8 → Except Mismatch Datum

/-- Each field takes one of the items that follow; the first index counts the items before it. -/
def readPositional (expected : String) :
    Nat → Nat → List FieldReader → Reader (List (String × Datum))
  | _, _, [], bytes => .ok ([], bytes)
  | index, count + 1, field :: fields, bytes => do
    let (value, rest) ← field.read bytes
    let (more, rest) ← readPositional expected (index + 1) count fields rest
    return ((field.name, value) :: more, rest)
  | index, 0, field :: fields, bytes =>
    if field.defaulted then do
      let (more, rest) ← readPositional expected (index + 1) 0 fields bytes
      return ((field.name, .null) :: more, rest)
    else .error (.mismatch (.invalidLength index expected))

/-- The bytes of a byte array act as the items of a list, and surplus ones are ignored. -/
def ofBytes (expected : String) :
    Nat → Bytes → List FieldReader → Except Mismatch (List (String × Datum))
  | _, _, [] => .ok []
  | index, byte :: bytes, field :: fields => do
    let value ← field.ofByte byte
    let more ← ofBytes expected (index + 1) bytes fields
    return (field.name, value) :: more
  | index, [], field :: fields =>
    if field.defaulted then do
      let more ← ofBytes expected (index + 1) [] fields
      return (field.name, .null) :: more
    else .error (.invalidLength index expected)

def liftMismatch {α : Type} : Except Mismatch α → Except Fault α
  | .ok value => .ok value
  | .error mismatch => .error (.mismatch mismatch)

/-- A list that is longer than what reads it is refused at the end. -/
def readFieldItems (expected : String) (fields : List FieldReader) (length : Nat) :
    Reader (List (String × Datum)) := fun bytes => do
  let (entries, rest) ← readPositional expected 0 length fields bytes
  if fields.length < length then .error (.itemsLeft fields.length) else return (entries, rest)

def readFieldBytes (expected : String) (fields : List FieldReader) (length : Nat) :
    Reader (List (String × Datum)) := fun bytes => do
  let (content, rest) ← readContent length bytes
  let entries ← liftMismatch (ofBytes expected 0 content fields)
  return (entries, rest)

/-- The key of a record entry is a name, in a text or a byte array, or the index of a field. -/
inductive FieldKey where
  | name (bytes : Bytes)
  | index (value : Nat)
  deriving DecidableEq, Repr

def readFieldKey (depth : Nat) : Reader FieldKey := fun bytes => do
  let (head, rest) ← readHead bytes
  match head with
  | .text length | .bytes length => do
    let (content, rest) ← readContent length rest
    return (.name content, rest)
  | .unsigned value => return (.index value, rest)
  | head => refuse depth "field identifier" head rest

/-- A name that is no field and an index past the last field find nothing. -/
def FieldKey.find? (key : FieldKey) (fields : List FieldReader) : Option FieldReader :=
  match key with
  | .name bytes => fields.find? fun field => Text.Utf8.encode field.name = bytes
  | .index value => fields[value]?

/--
Entries that name a field are collected, each field at most once; all others are skipped. A
duplicate is refused before its value is looked at.
-/
def readNamed (depth : Nat) (fields : List FieldReader) :
    Nat → List (String × Datum) → Reader (List (String × Datum))
  | 0, found, bytes => .ok (found, bytes)
  | count + 1, found, bytes => do
    let (key, rest) ← readFieldKey depth bytes
    match key.find? fields with
    | some field =>
      if (found.lookup field.name).isSome then .error (.mismatch (.duplicateField field.name))
      else
        let (value, rest) ← field.read rest
        readNamed depth fields count (found ++ [(field.name, value)]) rest
    | none =>
      let (_, rest) ← skipValue depth rest
      readNamed depth fields count found rest

end Switchboard.MessagePack
