import Switchboard.Datum
import Switchboard.Decimal.Layout
import Switchboard.Json.Byte
import Switchboard.Text.Utf8

/-
This file writes data as JSON payloads without blanks.
-/

namespace Switchboard.Json

/-- Only a table whose keys are not texts has no JSON form. -/
inductive WriteFault where
  | keyNotText
  deriving DecidableEq, Repr

def WriteFault.message : WriteFault → String
  | .keyNotText => "key must be a string"

/-- The digit is written in lowercase. -/
def hexDigit (value : Nat) : UInt8 :=
  UInt8.ofNat (if value < 10 then 0x30 + value else 0x57 + value)

/-- Quotes, backslashes and control characters are escaped; every other character is written as is. -/
def writeChar (character : Char) : Bytes :=
  let code := character.toNat
  if code = 0x22 then [backslash, quote]
  else if code = 0x5C then [backslash, backslash]
  else if code = 0x08 then [backslash, letterB]
  else if code = 0x0C then [backslash, letterF]
  else if code = 0x0A then [backslash, letterN]
  else if code = 0x0D then [backslash, letterR]
  else if code = 0x09 then [backslash, letterT]
  else if code < 0x20 then
    [backslash, letterU, zero, zero, hexDigit (code / 16), hexDigit (code % 16)]
  else Text.Utf8.encodeChar character

def writeText (text : String) : Bytes :=
  quote :: (text.toList.flatMap writeChar ++ [quote])

/-- A natural number is written without leading zeros. -/
def writeNat (value : Nat) : Bytes :=
  (Nat.toDigits 10 value).map fun digit => UInt8.ofNat digit.toNat

def writeInt (value : Int) : Bytes :=
  if value < 0 then minus :: writeNat value.natAbs else writeNat value.natAbs

/-- A number that is not finite has no JSON form and is written as null. -/
def writeFloat (value : Binary64) : Bytes :=
  if value.isFinite then
    (Decimal.Layout.payload.text value).toList.map fun character => UInt8.ofNat character.toNat
  else nullLiteral

mutual

def write : Datum → Except WriteFault Bytes
  | .null => .ok nullLiteral
  | .bool true => .ok trueLiteral
  | .bool false => .ok falseLiteral
  | .int value => .ok (writeInt value)
  | .float value => .ok (writeFloat value)
  | .text value => .ok (writeText value)
  | .list [] => .ok [openList, closeList]
  | .list (item :: rest) => do
    let first ← write item
    let others ← writeItems rest
    return openList :: first ++ others
  | .object [] => .ok [openObject, closeObject]
  | .object ((key, value) :: rest) => do
    let first ← write value
    let others ← writeEntries rest
    return openObject :: writeText key ++ colon :: first ++ others
  | .pairs [] => .ok [openObject, closeObject]
  | .pairs (_ :: _) => .error .keyNotText

/-- The items after the first one are written with their separators and the closing bracket. -/
def writeItems : List Datum → Except WriteFault Bytes
  | [] => .ok [closeList]
  | item :: rest => do
    let first ← write item
    let others ← writeItems rest
    return comma :: first ++ others

/-- The entries after the first one are written with their separators and the closing brace. -/
def writeEntries : List (String × Datum) → Except WriteFault Bytes
  | [] => .ok [closeObject]
  | (key, value) :: rest => do
    let first ← write value
    let others ← writeEntries rest
    return comma :: writeText key ++ colon :: first ++ others

end

end Switchboard.Json
