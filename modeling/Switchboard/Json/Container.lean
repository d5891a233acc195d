import Switchboard.Json.Skip

/-
This file walks through the lists and objects of a JSON payload.
-/

namespace Switchboard.Json

/-- The next item starts here, or the closing bracket stands here. -/
inductive Next where
  | item
  | closed
  deriving DecidableEq, Repr

/-- A comma stands between two items, and none stands before the first or after the last. -/
def nextItem (first : Bool) : Reader Next := fun bytes =>
  match skipBlanks bytes with
  | [] => .error (faultAt .endInList [])
  | byte :: rest =>
    if byte = closeList then .ok (.closed, byte :: rest)
    else if first then .ok (.item, byte :: rest)
    else if byte = comma then
      match skipBlanks rest with
      | [] => .error (faultAt .endInValue [])
      | byte :: rest =>
        if byte = closeList then .error (faultPast .trailingComma (byte :: rest))
        else .ok (.item, byte :: rest)
    else .error (faultPast .expectedListSeparator (byte :: rest))

/-- An entry starts with the quote of its key, which is eaten. -/
def nextKey (first : Bool) : Reader Next := fun bytes =>
  match skipBlanks bytes with
  | [] => .error (faultAt .endInObject [])
  | byte :: rest =>
    if byte = closeObject then .ok (.closed, byte :: rest)
    else if first then
      if byte = quote then .ok (.item, rest) else .error (faultPast .keyNotText (byte :: rest))
    else if byte = comma then
      match skipBlanks rest with
      | [] => .error (faultAt .endInValue [])
      | byte :: rest =>
        if byte = quote then .ok (.item, rest)
        else if byte = closeObject then .error (faultPast .trailingComma (byte :: rest))
        else .error (faultPast .keyNotText (byte :: rest))
    else .error (faultPast .expectedObjectSeparator (byte :: rest))

def readColon : Reader Unit := fun bytes =>
  match skipBlanks bytes with
  | [] => .error (faultAt .endInObject [])
  | byte :: rest =>
    if byte = colon then .ok ((), rest) else .error (faultPast .expectedColon (byte :: rest))

/-- A list that was read to its end closes; another item is one too many. -/
def readListEnd : Reader Unit := fun bytes =>
  match skipBlanks bytes with
  | [] => .error (faultAt .endInList [])
  | byte :: rest =>
    if byte = closeList then .ok ((), rest)
    else if byte = comma then
      match skipBlanks rest with
      | [] => .error (faultPast .trailingBytes [])
      | byte :: rest =>
        if byte = closeList then .error (faultPast .trailingComma (byte :: rest))
        else .error (faultPast .trailingBytes (byte :: rest))
    else .error (faultPast .trailingBytes (byte :: rest))

def readObjectEnd : Reader Unit := fun bytes =>
  match skipBlanks bytes with
  | [] => .error (faultAt .endInObject [])
  | byte :: rest =>
    if byte = closeObject then .ok ((), rest)
    else if byte = comma then .error (faultPast .trailingComma (byte :: rest))
    else .error (faultPast .trailingBytes (byte :: rest))

/-- A mismatch of a whole list is reported behind its closing bracket or the comma that is next. -/
def listFault (mismatch : Mismatch) (bytes : Bytes) : Fault :=
  match skipBlanks bytes with
  | [] => faultAt (.mismatch mismatch) []
  | byte :: rest =>
    if byte = closeList then faultAt (.mismatch mismatch) rest
    else if byte = comma then faultAt (.mismatch mismatch) (skipBlanks rest)
    else faultAt (.mismatch mismatch) (byte :: rest)

/-- A mismatch of a whole object is reported behind its closing brace if that is next. -/
def objectFault (mismatch : Mismatch) (bytes : Bytes) : Fault :=
  match skipBlanks bytes with
  | [] => faultAt (.mismatch mismatch) []
  | byte :: rest =>
    if byte = closeObject then faultAt (.mismatch mismatch) rest
    else faultAt (.mismatch mismatch) (byte :: rest)

/-- The items run to the closing bracket, and the bound has an element for each of them. -/
def readItems (item : Reader Datum) : Bytes → Bool → Reader (List Datum)
  | [], _, bytes => .error (faultAt .endInList bytes)
  | _ :: bound, first, bytes => do
    let (next, rest) ← nextItem first bytes
    match next with
    | .closed => return ([], rest)
    | .item =>
      let (value, rest) ← item rest
      let (more, rest) ← readItems item bound false rest
      return (value :: more, rest)

/-- The entries run to the closing brace and come back in the order of the payload. -/
def readEntries (value : Reader Datum) : Bytes → Bool → Reader (List (String × Datum))
  | [], _, bytes => .error (faultAt .endInObject bytes)
  | _ :: bound, first, bytes => do
    let (next, rest) ← nextKey first bytes
    match next with
    | .closed => return ([], rest)
    | .item =>
      let (key, rest) ← readText rest
      let (_, rest) ← readColon rest
      let (held, rest) ← value rest
      let (more, rest) ← readEntries value bound false rest
      return ((key, held) :: more, rest)

/-- A field reader knows how its field is named and what its absence means. -/
structure FieldReader where
  name : String
  defaulted : Bool
  read : Reader Datum

/-- The reader of a field is found by its name. -/
def FieldReader.find? (name : String) : List FieldReader → Option FieldReader
  | [] => none
  | field :: rest => if field.name = name then some field else find? name rest

/-- Each field takes one item; the index counts the items before it. -/
def readPositional (expected : String) :
    Nat → Bool → List FieldReader → Reader (List (String × Datum))
  | _, _, [], bytes => .ok ([], bytes)
  | index, first, field :: fields, bytes => do
    let (next, rest) ← nextItem first bytes
    match next with
    | .item =>
      let (value, rest) ← field.read rest
      let (more, rest) ← readPositional expected (index + 1) false fields rest
      return ((field.name, value) :: more, rest)
    | .closed =>
      if field.defaulted then
        let (more, rest) ← readPositional expected (index + 1) first fields rest
        return ((field.name, .null) :: more, rest)
      else .error (listFault (.invalidLength index expected) rest)

/--
Entries that name a field are collected, each field at most once; all others are skipped. A
duplicate is refused before its value is looked at.
-/
def readNamed (fields : List FieldReader) :
    Bytes → Bool → List (String × Datum) → Reader (List (String × Datum))
  | [], _, _, bytes => .error (faultAt .endInObject bytes)
  | _ :: bound, first, found, bytes => do
    let (next, rest) ← nextKey first bytes
    match next with
    | .closed => return (found, rest)
    | .item =>
      let (key, rest) ← readText rest
      match FieldReader.find? key fields with
      | some field =>
        if (found.lookup key).isSome then .error (objectFault (.duplicateField key) rest)
        else
          let (_, rest) ← readColon rest
          let (value, rest) ← field.read rest
          readNamed fields bound false (found ++ [(key, value)]) rest
      | none =>
        let (_, rest) ← readColon rest
        let (_, rest) ← skipValue rest
        readNamed fields bound false found rest

/-- A container takes one of the brackets that may still be opened. -/
def enter (depth : Nat) (inside : Nat → Reader Datum) : Reader Datum := fun bytes =>
  match depth with
  | 0 => .error (faultPast .tooDeep bytes)
  | depth + 1 => inside depth (bytes.drop 1)

def readList (item : Reader Datum) : Reader Datum := fun bytes => do
  let (items, rest) ← readItems item bytes true bytes
  let (_, rest) ← readListEnd rest
  return (.list items, rest)

/-- Of several entries with one key the last one counts. -/
def readDictionary (value : Reader Datum) : Reader Datum := fun bytes => do
  let (entries, rest) ← readEntries value bytes true bytes
  let (_, rest) ← readObjectEnd rest
  return (.object (Ascending.ofList entries), rest)

/-- The keys of a JSON object are texts, so only an empty object is a table with pairs as keys. -/
def readPairTable (expectedKey : String) : Reader Datum := fun bytes => do
  let (next, rest) ← nextKey true bytes
  match next with
  | .closed =>
    let (_, rest) ← readObjectEnd rest
    return (.pairs [], rest)
  | .item =>
    let (key, rest) ← readText rest
    .error (objectFault (.invalidType (.text key) expectedKey) rest)

def readPair (expected : String) (first second : Reader Datum) : Reader Datum := fun bytes => do
  let fields := [⟨"first", false, first⟩, ⟨"second", false, second⟩]
  let (items, rest) ← readPositional expected 0 true fields bytes
  let (_, rest) ← readListEnd rest
  return (.list (items.map Prod.snd), rest)

def readRecordList (expected : String) (fields : List FieldReader) : Reader Datum :=
  fun bytes => do
    let (entries, rest) ← readPositional expected 0 true fields bytes
    let (_, rest) ← readListEnd rest
    return (.object entries, rest)

def readRecordObject (declared : Fields) (fields : List FieldReader) : Reader Datum :=
  fun bytes => do
    let (found, rest) ← readNamed fields bytes true [] bytes
    match declared.assemble found with
    | .error mismatch => .error (objectFault mismatch rest)
    | .ok entries =>
      let (_, rest) ← readObjectEnd rest
      return (.object entries, rest)

end Switchboard.Json
