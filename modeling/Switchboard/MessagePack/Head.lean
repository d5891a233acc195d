import Switchboard.MessagePack.Fault

/-
This file reads the start of a MessagePack value, which tells its kind and its length.
-/

namespace Switchboard.MessagePack

/-- A head holds a number or the length of the content that follows it. -/
inductive Head where
  | null
  | bool (value : Bool)
  | unsigned (value : Nat)
  | signed (value : Int)
  | float (value : Binary64)
  | text (length : Nat)
  | bytes (length : Nat)
  | list (length : Nat)
  | map (length : Nat)
  | extension (length : Nat)
  deriving DecidableEq, Repr

def readMarker : Reader Marker
  | [] => .error .noMarker
  | byte :: rest => .ok (Marker.ofByte byte, rest)

/-- This reader takes a fixed number of bytes, and their absence is the given fault. -/
def readExactly (fault : Fault) (length : Nat) : Reader Bytes := fun bytes =>
  let content := bytes.take length
  if content.length < length then .error fault else .ok (content, bytes.drop length)

def readUnsigned (width : Nat) : Reader Nat := fun bytes => do
  let (digits, rest) ← readExactly .noNumber width bytes
  return (Bytes.toNat digits, rest)

/-- The upper half of the range stands for the negative numbers. -/
def complement (width value : Nat) : Int :=
  if value < Nat.pow 2 (8 * width - 1) then value else (value : Int) - Nat.pow 2 (8 * width)

def readSigned (width : Nat) : Reader Int := fun bytes => do
  let (value, rest) ← readUnsigned width bytes
  return (complement width value, rest)

/-- The number or length that a marker announces is read with it. -/
def readAfterMarker : Marker → Reader Head
  | .fixPositive value, bytes => .ok (.unsigned value, bytes)
  | .fixMap length, bytes => .ok (.map length, bytes)
  | .fixArray length, bytes => .ok (.list length, bytes)
  | .fixText length, bytes => .ok (.text length, bytes)
  | .null, bytes => .ok (.null, bytes)
  | .reserved, _ => .error (.wrongMarker .reserved)
  | .bool value, bytes => .ok (.bool value, bytes)
  | .fixExtension length, bytes => .ok (.extension length, bytes)
  | .fixNegative value, bytes => .ok (.signed value, bytes)
  | .bytes width, bytes => do
    let (length, rest) ← readUnsigned width bytes
    return (.bytes length, rest)
  | .extension width, bytes => do
    let (length, rest) ← readUnsigned width bytes
    return (.extension length, rest)
  | .float32, bytes => do
    let (bits, rest) ← readUnsigned 4 bytes
    return (.float (.ofBinary32Bits bits.toUInt32), rest)
  | .float64, bytes => do
    let (bits, rest) ← readUnsigned 8 bytes
    return (.float ⟨bits.toUInt64⟩, rest)
  | .unsigned width, bytes => do
    let (value, rest) ← readUnsigned width bytes
    return (.unsigned value, rest)
  | .signed width, bytes => do
    let (value, rest) ← readSigned width bytes
    return (.signed value, rest)
  | .text width, bytes => do
    let (length, rest) ← readUnsigned width bytes
    return (.text length, rest)
  | .array width, bytes => do
    let (length, rest) ← readUnsigned width bytes
    return (.list length, rest)
  | .map width, bytes => do
    let (length, rest) ← readUnsigned width bytes
    return (.map length, rest)

def readHead : Reader Head := fun bytes => do
  let (marker, rest) ← readMarker bytes
  readAfterMarker marker rest

/-- A number is never looked for behind a marker that has a length or a content. -/
def readSimpleHead : Reader Head := fun bytes => do
  let (marker, rest) ← readMarker bytes
  if marker.isSimple then readAfterMarker marker rest else .error (.wrongMarker marker)

def readContent (length : Nat) : Reader Bytes := readExactly .noContent length

def readText (length : Nat) : Reader String := fun bytes => do
  let (content, rest) ← readContent length bytes
  match Text.Utf8.decode content with
  | .ok text => return (text, rest)
  | .error fault => .error (.wrongEncoding fault)

/-- A container takes one of the levels that may still be opened. -/
def enter {α : Type} (depth : Nat) (inside : Nat → Except Fault α) : Except Fault α :=
  match depth with
  | 0 => .error .tooDeep
  | depth + 1 => inside depth

/--
A head of the wrong kind is reported with what it starts. The content of a text is read and checked
first, and a container has to fit into the depth.
-/
def refuse {α : Type} (depth : Nat) (expected : String) (head : Head) (rest : Bytes) :
    Except Fault α :=
  let invalidType (found : Found) : Fault := .mismatch (.invalidType found expected)
  match head with
  | .null => .error (invalidType .null)
  | .bool value => .error (invalidType (.bool value))
  | .unsigned value => .error (invalidType (.integer value))
  | .signed value => .error (invalidType (.integer value))
  | .float value => .error (invalidType (.float value))
  | .text length => do
    let (text, _) ← readText length rest
    .error (invalidType (.text text))
  | .bytes length => do
    let (_, _) ← readContent length rest
    .error (invalidType .byteArray)
  | .list _ => enter depth fun _ => .error (invalidType .sequence)
  | .map _ => enter depth fun _ => .error (invalidType .map)
  | .extension _ => enter depth fun _ => .error (invalidType .extension)

end Switchboard.MessagePack
