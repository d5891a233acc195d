import Switchboard.Datum
import Switchboard.Text.Utf8

/-
This file writes data as MessagePack payloads in their shortest form.
-/

namespace Switchboard.MessagePack

/-- A number that is not negative is written in the smallest unsigned form. -/
def writeNat (value : Nat) : Bytes :=
  if value < 0x80 then [UInt8.ofNat value]
  else if value < 0x100 then 0xCC :: Bytes.bigEndian 1 value
  else if value < 0x10000 then 0xCD :: Bytes.bigEndian 2 value
  else if value < 0x100000000 then 0xCE :: Bytes.bigEndian 4 value
  else 0xCF :: Bytes.bigEndian 8 value

/-- A negative number is written as its complement in the smallest signed form. -/
def writeNegative (value : Int) : Bytes :=
  if -32 ≤ value then [UInt8.ofNat (value + 256).toNat]
  else if -128 ≤ value then 0xD0 :: Bytes.bigEndian 1 (value + 0x100).toNat
  else if -32768 ≤ value then 0xD1 :: Bytes.bigEndian 2 (value + 0x10000).toNat
  else if -2147483648 ≤ value then 0xD2 :: Bytes.bigEndian 4 (value + 0x100000000).toNat
  else 0xD3 :: Bytes.bigEndian 8 (value + 0x10000000000000000).toNat

def writeInt (value : Int) : Bytes :=
  if value < 0 then writeNegative value else writeNat value.toNat

def writeText (text : String) : Bytes :=
  let content := Text.Utf8.encode text
  let length := content.length
  if length < 32 then UInt8.ofNat (0xA0 + length) :: content
  else if length < 0x100 then 0xD9 :: (Bytes.bigEndian 1 length ++ content)
  else if length < 0x10000 then 0xDA :: (Bytes.bigEndian 2 length ++ content)
  else 0xDB :: (Bytes.bigEndian 4 length ++ content)

/-- The head of a list counts its items. -/
def writeListHead (length : Nat) : Bytes :=
  if length < 16 then [UInt8.ofNat (0x90 + length)]
  else if length < 0x10000 then 0xDC :: Bytes.bigEndian 2 length
  else 0xDD :: Bytes.bigEndian 4 length

/-- The head of a map counts its entries. -/
def writeMapHead (length : Nat) : Bytes :=
  if length < 16 then [UInt8.ofNat (0x80 + length)]
  else if length < 0x10000 then 0xDE :: Bytes.bigEndian 2 length
  else 0xDF :: Bytes.bigEndian 4 length

def writePairEntry (entry : (Int × Int) × Int) : Bytes :=
  writeListHead 2 ++ writeInt entry.1.1 ++ writeInt entry.1.2 ++ writeInt entry.2

mutual

def write : Datum → Bytes
  | .null => [0xC0]
  | .bool true => [0xC3]
  | .bool false => [0xC2]
  | .int value => writeInt value
  | .float value => 0xCB :: Bytes.bigEndian 8 value.bits.toNat
  | .text value => writeText value
  | .list items => writeListHead items.length ++ writeItems items
  | .object entries => writeMapHead entries.length ++ writeEntries entries
  | .pairs entries => writeMapHead entries.length ++ entries.flatMap writePairEntry

def writeItems : List Datum → Bytes
  | [] => []
  | item :: rest => write item ++ writeItems rest

def writeEntries : List (String × Datum) → Bytes
  | [] => []
  | (key, value) :: rest => writeText key ++ write value ++ writeEntries rest

end

end Switchboard.MessagePack
