import Switchboard.Bytes

/-
This file names the bytes that structure a JSON payload.
-/

namespace Switchboard.Json

abbrev quote : UInt8 := 0x22
abbrev backslash : UInt8 := 0x5C
abbrev slash : UInt8 := 0x2F
abbrev comma : UInt8 := 0x2C
abbrev colon : UInt8 := 0x3A
abbrev openList : UInt8 := 0x5B
abbrev closeList : UInt8 := 0x5D
abbrev openObject : UInt8 := 0x7B
abbrev closeObject : UInt8 := 0x7D
abbrev minus : UInt8 := 0x2D
abbrev plus : UInt8 := 0x2B
abbrev point : UInt8 := 0x2E
abbrev zero : UInt8 := 0x30

/-- The letters of the literals and of the escapes are lowercase. -/
abbrev letterB : UInt8 := 0x62
abbrev letterE : UInt8 := 0x65
abbrev letterF : UInt8 := 0x66
abbrev letterN : UInt8 := 0x6E
abbrev letterR : UInt8 := 0x72
abbrev letterT : UInt8 := 0x74
abbrev letterU : UInt8 := 0x75

abbrev nullLiteral : Bytes := [0x6E, 0x75, 0x6C, 0x6C]
abbrev trueLiteral : Bytes := [0x74, 0x72, 0x75, 0x65]
abbrev falseLiteral : Bytes := [0x66, 0x61, 0x6C, 0x73, 0x65]

/-- Blanks are the space, the tab and the two line ends. -/
def isBlank (byte : UInt8) : Bool := byte = 0x20 || byte = 0x09 || byte = 0x0A || byte = 0x0D

def isDigit (byte : UInt8) : Bool := 0x30 ≤ byte && byte ≤ 0x39

def digitValue (byte : UInt8) : Nat := byte.toNat - 0x30

/-- Both cases of a letter have the same hexadecimal value. -/
def hexValue? (byte : UInt8) : Option Nat :=
  if 0x30 ≤ byte && byte ≤ 0x39 then some (byte.toNat - 0x30)
  else if 0x61 ≤ byte && byte ≤ 0x66 then some (byte.toNat - 0x61 + 10)
  else if 0x41 ≤ byte && byte ≤ 0x46 then some (byte.toNat - 0x41 + 10)
  else none

def skipBlanks (bytes : Bytes) : Bytes := bytes.dropWhile isBlank

end Switchboard.Json
