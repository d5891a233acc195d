import Switchboard.MessagePack.Container

/-
This file reads MessagePack payloads, either as any value or as a value of a given shape.
-/

namespace Switchboard.MessagePack

/-- This many containers may be open at once. -/
def maximalDepth : Nat := 1023

/-- A text is also accepted as a byte array with the right encoding. -/
def readTextValue (depth : Nat) (expected : String) : Reader String := fun bytes => do
  let (head, rest) ← readHead bytes
  match head with
  | .text length => readText length rest
  | .bytes length => do
    let (content, rest) ← readContent length rest
    match Text.Utf8.decode content with
    | .ok text => return (text, rest)
    | .error _ => .error (.mismatch (.invalidValue .byteArray expected))
  | head => refuse depth expected head rest

def readInteger (type : IntegerType) : Reader Int := fun bytes => do
  let (head, rest) ← readSimpleHead bytes
  match head with
  | .unsigned value => return (← liftMismatch (type.accept value), rest)
  | .signed value => return (← liftMismatch (type.accept value), rest)
  | head => refuse 0 type.name head rest

/-- The first key of an object without expectations is a text and not a byte array. -/
def readFirstKey (depth : Nat) : Reader String := fun bytes => do
  let (head, rest) ← readHead bytes
  match head with
  | .text length => readText length rest
  | head => refuse depth "a string key" head rest

def readAnyEntries (depth : Nat) (value : Reader Datum) : Nat → Reader (List (String × Datum))
  | 0, bytes => .ok ([], bytes)
  | count + 1, bytes => do
    let (name, rest) ← readFirstKey depth bytes
    let (held, rest) ← value rest
    let (more, rest) ← readEntries (readTextValue depth Shape.text.expected) value count rest
    return ((name, held) :: more, rest)

/-- A number that is not finite reads as the absent value. -/
def anyFloat (value : Binary64) : Datum := if value.isFinite then .float value else .null

/-- A reader without expectations accepts every value but byte arrays and extensions. -/
def readAny : Nat → Reader Datum
  | 0, bytes => do
    let (head, rest) ← readHead bytes
    match head with
    | .null => return (.null, rest)
    | .bool value => return (.bool value, rest)
    | .unsigned value => return (.int value, rest)
    | .signed value => return (.int value, rest)
    | .float value => return (anyFloat value, rest)
    | .text length => do
      let (text, rest) ← readText length rest
      return (.text text, rest)
    | .list _ | .map _ => .error .tooDeep
    | head => refuse 0 Shape.any.expected head rest
  | depth + 1, bytes => do
    let (head, rest) ← readHead bytes
    match head with
    | .null => return (.null, rest)
    | .bool value => return (.bool value, rest)
    | .unsigned value => return (.int value, rest)
    | .signed value => return (.int value, rest)
    | .float value => return (anyFloat value, rest)
    | .text length => do
      let (text, rest) ← readText length rest
      return (.text text, rest)
    | .list length => do
      let (items, rest) ← readItems (readAny depth) length rest
      return (.list items, rest)
    | .map length => do
      let (entries, rest) ← readAnyEntries depth (readAny depth) length rest
      return (.object (Ascending.ofList entries), rest)
    | head => refuse (depth + 1) Shape.any.expected head rest

/-- An item of a byte array is an unsigned integer; no other shape takes it. -/
def ofByte (shape : Shape) (byte : UInt8) : Except Mismatch Datum :=
  match shape with
  | .integer type => (type.accept byte.toNat).map .int
  | .any => .ok (.int byte.toNat)
  | .optional _ => .error (.invalidType (.integer byte.toNat) "option")
  | shape => .error (.invalidType (.integer byte.toNat) shape.expected)

def startsWithNull : Bytes → Bool
  | [] => false
  | byte :: _ => byte = 0xC0

/-- Two integers of 32 bits make the key of a pair table. -/
def readPairItems (expected : String) : Nat → Reader (Int × Int)
  | 0, _ => .error (.mismatch (.invalidLength 0 expected))
  | 1, bytes => do
    let (_, _) ← readInteger .i32 bytes
    .error (.mismatch (.invalidLength 1 expected))
  | surplus + 2, bytes => do
    let (first, rest) ← readInteger .i32 bytes
    let (second, rest) ← readInteger .i32 rest
    if surplus = 0 then return ((first, second), rest) else .error (.itemsLeft 2)

def pairOfBytes (expected : String) : Bytes → Except Mismatch (Int × Int)
  | [] => .error (.invalidLength 0 expected)
  | [byte] => do
    let _ ← IntegerType.i32.accept byte.toNat
    .error (.invalidLength 1 expected)
  | first :: second :: _ => do
    let one ← IntegerType.i32.accept first.toNat
    let two ← IntegerType.i32.accept second.toNat
    return (one, two)

def readPairKey (depth : Nat) (expected : String) : Reader (Int × Int) := fun bytes => do
  let (head, rest) ← readHead bytes
  match head with
  | .list length => enter depth fun _ => readPairItems expected length rest
  | .bytes length => do
    let (content, rest) ← readContent length rest
    return (← liftMismatch (pairOfBytes expected content), rest)
  | head => refuse depth expected head rest

/-- The items of a pair are read like the fields of a record. -/
def pairFields (first second : Shape) (readFirst readSecond : Reader Datum) : List FieldReader :=
  [⟨"first", false, readFirst, ofByte first⟩, ⟨"second", false, readSecond, ofByte second⟩]

mutual

/-- The depth counts the containers that may still be opened. -/
def readShape : Shape → Nat → Reader Datum
  | .unit, depth, bytes => do
    let (head, rest) ← readHead bytes
    match head with
    | .null => return (.null, rest)
    | head => refuse depth Shape.unit.expected head rest
  | .bool, _, bytes => do
    let (head, rest) ← readSimpleHead bytes
    match head with
    | .bool value => return (.bool value, rest)
    | head => refuse 0 Shape.bool.expected head rest
  | .integer type, _, bytes => do
    let (value, rest) ← readInteger type bytes
    return (.int value, rest)
  | .text, depth, bytes => do
    let (text, rest) ← readTextValue depth Shape.text.expected bytes
    return (.text text, rest)
  | .optional content, depth, bytes =>
    if startsWithNull bytes then .ok (.null, bytes.drop 1) else readShape content depth bytes
  | .list item, depth, bytes => do
    let (head, rest) ← readHead bytes
    match head with
    | .list length =>
      enter depth fun inner => do
        let (items, rest) ← readItems (readShape item inner) length rest
        return (.list items, rest)
    | .bytes length => do
      let (content, rest) ← readContent length rest
      let items ← liftMismatch (content.mapM (ofByte item))
      return (.list items, rest)
    | head => refuse depth (Shape.list item).expected head rest
  | .dictionary value, depth, bytes => do
    let (head, rest) ← readHead bytes
    match head with
    | .map length =>
      enter depth fun inner => do
        let key := readTextValue inner Shape.text.expected
        let (entries, rest) ← readEntries key (readShape value inner) length rest
        return (.object (Ascending.ofList entries), rest)
    | head => refuse depth (Shape.dictionary value).expected head rest
  | .pair first second, depth, bytes => do
    let (head, rest) ← readHead bytes
    let expected := (Shape.pair first second).expected
    match head with
    | .list length =>
      enter depth fun inner => do
        let fields := pairFields first second (readShape first inner) (readShape second inner)
        let (items, rest) ← readFieldItems expected fields length rest
        return (.list (items.map Prod.snd), rest)
    | .bytes length => do
      let fields := pairFields first second (readShape first depth) (readShape second depth)
      let (items, rest) ← readFieldBytes expected fields length rest
      return (.list (items.map Prod.snd), rest)
    | head => refuse depth expected head rest
  | .pairTable, depth, bytes => do
    let (head, rest) ← readHead bytes
    match head with
    | .map length =>
      enter depth fun inner => do
        let key := readPairKey inner (Shape.pair .unit .unit).expected
        let (entries, rest) ← readEntries key (readInteger .i32) length rest
        return (.pairs (Ascending.ofList entries), rest)
    | head => refuse depth Shape.pairTable.expected head rest
  | .record name fields, depth, bytes => do
    let (head, rest) ← readHead bytes
    let expected := (Shape.record name fields).expectedLength
    match head with
    | .list length =>
      enter depth fun inner => do
        let (entries, rest) ← readFieldItems expected (readFields fields inner) length rest
        return (.object entries, rest)
    | .bytes length => do
      let (entries, rest) ← readFieldBytes expected (readFields fields depth) length rest
      return (.object entries, rest)
    | .map length =>
      enter depth fun inner => do
        let (found, rest) ← readNamed inner (readFields fields inner) length [] rest
        let entries ← liftMismatch (fields.assemble found)
        return (.object entries, rest)
    | head => refuse depth (Shape.record name fields).expected head rest
  | .any, depth, bytes => readAny depth bytes

/-- Every field of a record has a reader of its own. -/
def readFields : Fields → Nat → List FieldReader
  | .nil, _ => []
  | .cons name defaulted shape rest, depth =>
    ⟨name, defaulted, readShape shape depth, ofByte shape⟩ :: readFields rest depth

end

/-- Bytes after the value of a payload are ignored. -/
def readPayload (shape : Shape) (payload : Bytes) : Except Fault Datum := do
  let (datum, _) ← readShape shape maximalDepth payload
  return datum

end Switchboard.MessagePack
