import Switchboard.Bytes

/-
This file names the markers that start MessagePack values.
-/

namespace Switchboard.MessagePack

/-- A fixed marker holds its number or length itself; the others announce where it follows. -/
inductive Marker where
  | fixPositive (value : Nat)
  | fixMap (length : Nat)
  | fixArray (length : Nat)
  | fixText (length : Nat)
  | null
  | reserved
  | bool (value : Bool)
  | bytes (width : Nat)
  | extension (width : Nat)
  | float32
  | float64
  | unsigned (width : Nat)
  | signed (width : Nat)
  | fixExtension (length : Nat)
  | text (width : Nat)
  | array (width : Nat)
  | map (width : Nat)
  | fixNegative (value : Int)
  deriving DecidableEq, Repr

namespace Marker

/-- The markers above the fixed ones of small values are listed one by one. -/
def ofHighByte (byte : Nat) : Marker :=
  match byte with
  | 0xC0 => .null
  | 0xC1 => .reserved
  | 0xC2 => .bool false
  | 0xC3 => .bool true
  | 0xC4 => .bytes 1
  | 0xC5 => .bytes 2
  | 0xC6 => .bytes 4
  | 0xC7 => .extension 1
  | 0xC8 => .extension 2
  | 0xC9 => .extension 4
  | 0xCA => .float32
  | 0xCB => .float64
  | 0xCC => .unsigned 1
  | 0xCD => .unsigned 2
  | 0xCE => .unsigned 4
  | 0xCF => .unsigned 8
  | 0xD0 => .signed 1
  | 0xD1 => .signed 2
  | 0xD2 => .signed 4
  | 0xD3 => .signed 8
  | 0xD4 => .fixExtension 1
  | 0xD5 => .fixExtension 2
  | 0xD6 => .fixExtension 4
  | 0xD7 => .fixExtension 8
  | 0xD8 => .fixExtension 16
  | 0xD9 => .text 1
  | 0xDA => .text 2
  | 0xDB => .text 4
  | 0xDC => .array 2
  | 0xDD => .array 4
  | 0xDE => .map 2
  | 0xDF => .map 4
  | byte => .fixNegative ((byte : Int) - 256)

/-- Every byte is a marker. -/
def ofByte (byte : UInt8) : Marker :=
  let code := byte.toNat
  if code < 0x80 then .fixPositive code
  else if code < 0x90 then .fixMap (code - 0x80)
  else if code < 0xA0 then .fixArray (code - 0x90)
  else if code < 0xC0 then .fixText (code - 0xA0)
  else ofHighByte code

/-- The name of a marker counts the bits of the number that follows it. -/
def name : Marker → String
  | .fixPositive value => s!"FixPos({value})"
  | .fixMap length => s!"FixMap({length})"
  | .fixArray length => s!"FixArray({length})"
  | .fixText length => s!"FixStr({length})"
  | .null => "Null"
  | .reserved => "Reserved"
  | .bool true => "True"
  | .bool false => "False"
  | .bytes width => s!"Bin{8 * width}"
  | .extension width => s!"Ext{8 * width}"
  | .float32 => "F32"
  | .float64 => "F64"
  | .unsigned width => s!"U{8 * width}"
  | .signed width => s!"I{8 * width}"
  | .fixExtension length => s!"FixExt{length}"
  | .text width => s!"Str{8 * width}"
  | .array width => s!"Array{8 * width}"
  | .map width => s!"Map{8 * width}"
  | .fixNegative value => s!"FixNeg({value})"

/-- Numbers, truth values and the absent value have no length and no content. -/
def isSimple : Marker → Bool
  | .fixPositive _ => true
  | .null => true
  | .bool _ => true
  | .float32 => true
  | .float64 => true
  | .unsigned _ => true
  | .signed _ => true
  | .fixNegative _ => true
  | _ => false

end Marker

end Switchboard.MessagePack
