import Switchboard.Domain.Name
import Switchboard.Url.Percent

/-
This file reads the many spellings of a four-byte address and writes the dotted one.
-/

namespace Switchboard.Url

/-- The bytes of an address stand in writing order. -/
structure Ipv4 where
  first : UInt8
  second : UInt8
  third : UInt8
  fourth : UInt8
  deriving DecidableEq, Repr

namespace Ipv4

def ofNat (number : Nat) : Ipv4 :=
  ⟨UInt8.ofNat (number / 16777216), UInt8.ofNat (number / 65536), UInt8.ofNat (number / 256),
    UInt8.ofNat number⟩

def text (address : Ipv4) : List Char :=
  ['.'].intercalate ([address.first, address.second, address.third, address.fourth].map fun byte =>
    Nat.toDigits 10 byte.toNat)

/-- The digits of a number are smaller than its base. -/
def numberIn? (base : Nat) (digits : List Char) : Option Nat :=
  digits.foldl
    (fun total character =>
      match total, hexValue? character with
      | some total, some digit => if digit < base then some (total * base + digit) else none
      | _, _ => none)
    (some 0)

/-- Numbers are hexadecimal after `0x`, octal after another zero, and decimal otherwise. -/
def number? : List Char → Option Nat
  | [] => none
  | '0' :: 'x' :: digits => numberIn? 16 digits
  | '0' :: 'X' :: digits => numberIn? 16 digits
  | '0' :: digit :: digits => numberIn? 8 (digit :: digits)
  | digits => numberIn? 10 digits

/-- A dot at the end of a name adds no part. -/
def parts (name : List Char) : List (List Char) :=
  let parts := Domain.splitAt '.' name
  if parts.getLast? = some [] then parts.dropLast else parts

/-- A name whose last part looks like a number can only be an address. -/
def isMeant (name : List Char) : Bool :=
  match (parts name).getLast? with
  | none => false
  | some last => (last ≠ [] && last.all Char.isDigit) || (number? last).isSome

/-- The last number fills all the bytes that the numbers before it leave. -/
def ofNumbers? : List Nat → Option Ipv4
  | [one] => if one < 4294967296 then some (ofNat one) else none
  | [one, two] =>
    if one < 256 ∧ two < 16777216 then some (ofNat (one * 16777216 + two)) else none
  | [one, two, three] =>
    if one < 256 ∧ two < 256 ∧ three < 65536 then
      some (ofNat (one * 16777216 + two * 65536 + three))
    else none
  | [one, two, three, four] =>
    if one < 256 ∧ two < 256 ∧ three < 256 ∧ four < 256 then
      some (ofNat (one * 16777216 + two * 65536 + three * 256 + four))
    else none
  | _ => none

def read? (name : List Char) : Option Ipv4 :=
  match (parts name).mapM number? with
  | none => none
  | some numbers => ofNumbers? numbers

end Ipv4

end Switchboard.Url
