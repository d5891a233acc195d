import Switchboard.Text.Unprintable

/-
This file quotes a text so that it fits on one line and every character in it can be told apart.
-/

namespace Switchboard.Text

/-- The digits of a code point are lowercase hexadecimal without leading zeros. -/
def hexDigits (number : Nat) : List Char := Nat.toDigits 16 number

/-- A character that cannot stand for itself is written by name or by its code point. -/
def quoteChar (character : Char) : List Char :=
  if character = '"' then ['\\', '"']
  else if character = '\\' then ['\\', '\\']
  else if character = '\t' then ['\\', 't']
  else if character = '\r' then ['\\', 'r']
  else if character = '\n' then ['\\', 'n']
  else if character.toNat = 0 then ['\\', '0']
  else if character.toNat < 0x20 || isUnprintable character.toNat then
    ['\\', 'u', '\x7b'] ++ hexDigits character.toNat ++ ['\x7d']
  else [character]

/-- A quoted text stands between double quotes. -/
def quoted (text : String) : String :=
  String.ofList ('"' :: text.toList.flatMap quoteChar ++ ['"'])

end Switchboard.Text
