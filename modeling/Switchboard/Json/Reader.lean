import Switchboard.Json.Container

/-
This file reads JSON payloads, either as any value or as a value of a given shape.
-/

namespace Switchboard.Json

/-- This many brackets of values that are read may be open at once. -/
def maximalDepth : Nat := 127

def Head.scalar : Head → Datum
  | .null => .null
  | .bool value => .bool value
  | .number (.integer value) => .int value
  | .number (.float value) => .float value
  | .text value => .text value
  | .openList => .null
  | .openObject => .null

/-- A reader without expectations accepts every value within the depth. -/
def readAny : Nat → Reader Datum
  | 0, bytes => do
    let (head, rest) ← readHead bytes
    match head with
    | .openList => .error (faultPast .tooDeep rest)
    | .openObject => .error (faultPast .tooDeep rest)
    | head => return (head.scalar, rest)
  | depth + 1, bytes => do
    let (head, rest) ← readHead bytes
    match head with
    | .openList => readList (readAny depth) (rest.drop 1)
    | .openObject => readDictionary (readAny depth) (rest.drop 1)
    | head => return (head.scalar, rest)

/-- A mismatch is reported after a scalar and before a bracket. -/
def mismatched {α : Type} (mismatch : Mismatch) (rest : Bytes) : Except Fault (α × Bytes) :=
  .error (faultAt (.mismatch mismatch) rest)

/-- An absent value starts like the literal for it. -/
def startsLikeNull : Bytes → Bool
  | [] => false
  | byte :: _ => byte = letterN

mutual

/-- The depth counts the brackets that may still be opened. -/
def readShape : Shape → Nat → Reader Datum
  | .unit, _, bytes => do
    let (head, rest) ← readHead bytes
    match head with
    | .null => return (.null, rest)
    | head => mismatched (.invalidType head.found Shape.unit.expected) rest
  | .bool, _, bytes => do
    let (head, rest) ← readHead bytes
    match head with
    | .bool value => return (.bool value, rest)
    | head => mismatched (.invalidType head.found Shape.bool.expected) rest
  | .integer type, _, bytes => do
    let (head, rest) ← readHead bytes
    match head with
    | .number (.integer value) =>
      match type.accept value with
      | .ok value => return (.int value, rest)
      | .error mismatch => mismatched mismatch rest
    | head => mismatched (.invalidType head.found type.name) rest
  | .text, _, bytes => do
    let (head, rest) ← readHead bytes
    match head with
    | .text value => return (.text value, rest)
    | head => mismatched (.invalidType head.found Shape.text.expected) rest
  | .optional content, depth, bytes =>
    if startsLikeNull (skipBlanks bytes) then do
      let (head, rest) ← readHead bytes
      return (head.scalar, rest)
    else readShape content depth bytes
  | .list item, depth, bytes => do
    let (head, rest) ← readHead bytes
    match head with
    | .openList => enter depth (fun inner => readList (readShape item inner)) rest
    | head => mismatched (.invalidType head.found (Shape.list item).expected) rest
  | .dictionary value, depth, bytes => do
    let (head, rest) ← readHead bytes
    match head with
    | .openObject => enter depth (fun inner => readDictionary (readShape value inner)) rest
    | head => mismatched (.invalidType head.found (Shape.dictionary value).expected) rest
  | .pair first second, depth, bytes => do
    let (head, rest) ← readHead bytes
    let expected := (Shape.pair first second).expected
    match head with
    | .openList =>
      enter depth
        (fun inner => readPair expected (readShape first inner) (readShape second inner)) rest
    | head => mismatched (.invalidType head.found expected) rest
  | .pairTable, depth, bytes => do
    let (head, rest) ← readHead bytes
    match head with
    | .openObject =>
      enter depth (fun _ => readPairTable (Shape.pair .unit .unit).expected) rest
    | head => mismatched (.invalidType head.found Shape.pairTable.expected) rest
  | .record name fields, depth, bytes => do
    let (head, rest) ← readHead bytes
    match head with
    | .openList =>
      enter depth (fun inner =>
        readRecordList (Shape.record name fields).expectedLength (readFields fields inner)) rest
    | .openObject =>
      enter depth (fun inner => readRecordObject fields (readFields fields inner)) rest
    | head => mismatched (.invalidType head.found (Shape.record name fields).expected) rest
  | .any, depth, bytes => readAny depth bytes

/-- Every field of a record has a reader of its own. -/
def readFields : Fields → Nat → List FieldReader
  | .nil, _ => []
  | .cons name defaulted shape rest, depth =>
    ⟨name, defaulted, readShape shape depth⟩ :: readFields rest depth

end

/-- Only blanks may follow the value of a payload. -/
def readPayload (shape : Shape) (payload : Bytes) : Except Fault Datum := do
  let (datum, rest) ← readShape shape maximalDepth payload
  match skipBlanks rest with
  | [] => return datum
  | rest => .error (faultPast .trailingBytes rest)

end Switchboard.Json
