import Switchboard.Text.Utf8

/-
This file writes bytes as percent signs with two hexadecimal digits and reads them back.
-/

namespace Switchboard.Url

/-- These characters of a path stand for themselves. -/
def isPlainInPath (character : Char) : Bool :=
  0x21 ≤ character.toNat && character.toNat ≤ 0x7E &&
    !(['"', '#', '<', '>', '?', Char.ofNat 0x60, '\x7b', '\x7d'].contains character)

/-- The digits of an encoded byte are uppercase. -/
def hexDigit (digit : Nat) : Char :=
  if digit < 10 then Char.ofNat (0x30 + digit) else Char.ofNat (0x41 + (digit - 10))

def encodeByte (byte : UInt8) : List Char :=
  ['%', hexDigit (byte.toNat / 16), hexDigit (byte.toNat % 16)]

/-- All other characters of a path are written as the bytes of their UTF-8 form. -/
def encodeInPath (character : Char) : List Char :=
  if isPlainInPath character then [character]
  else (Text.Utf8.encodeChar character).flatMap encodeByte

/-- The digits of a number may be uppercase or lowercase. -/
def hexValue? (character : Char) : Option Nat :=
  let code := character.toNat
  if 0x30 ≤ code ∧ code ≤ 0x39 then some (code - 0x30)
  else if 0x41 ≤ code ∧ code ≤ 0x46 then some (code - 0x41 + 10)
  else if 0x61 ≤ code ∧ code ≤ 0x66 then some (code - 0x61 + 10)
  else none

/-- A percent sign without two digits after it stands for itself. -/
def decode : List Char → Bytes
  | [] => []
  | [character] => Text.Utf8.encodeChar character
  | [first, second] => Text.Utf8.encodeChar first ++ Text.Utf8.encodeChar second
  | first :: second :: third :: rest =>
    if first = '%' then
      match hexValue? second, hexValue? third with
      | some high, some low => UInt8.ofNat (high * 16 + low) :: decode rest
      | _, _ => Text.Utf8.encodeChar first ++ decode (second :: third :: rest)
    else Text.Utf8.encodeChar first ++ decode (second :: third :: rest)

end Switchboard.Url
