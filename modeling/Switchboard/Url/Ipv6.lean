import Switchboard.Url.Ipv4

/-
This file reads the spellings of a sixteen-byte address and writes the shortest one.
-/

namespace Switchboard.Url

/-- An address has eight pieces of two bytes. -/
structure Ipv6 where
  pieces : List UInt16
  eight : pieces.length = 8
  deriving DecidableEq, Repr

namespace Ipv6

/-- The zeros at the start of a list form a run. -/
def zeroRun (pieces : List UInt16) : Nat := (pieces.takeWhile (· = 0)).length

/-- The longest run of zeros is found with the number of pieces before it; of equal runs, the first. -/
def longestRun : List UInt16 → Nat × Nat
  | [] => (0, 0)
  | piece :: rest =>
    let here := zeroRun (piece :: rest)
    let (before, length) := longestRun rest
    if length ≤ here then (0, here) else (before + 1, length)

def pieceText (piece : UInt16) : List Char := Nat.toDigits 16 piece.toNat

def joinPieces (pieces : List UInt16) : List Char := [':'].intercalate (pieces.map pieceText)

/-- Two colons stand for the longest run of at least two zeros. -/
def text (address : Ipv6) : List Char :=
  let (before, length) := longestRun address.pieces
  if length < 2 then joinPieces address.pieces
  else
    joinPieces (address.pieces.take before) ++ ':' :: ':' ::
      joinPieces (address.pieces.drop (before + length))

/-- A piece has one to four hexadecimal digits. -/
def piece? (digits : List Char) : Option UInt16 :=
  if digits = [] ∨ 4 < digits.length then none
  else (Ipv4.numberIn? 16 digits).map UInt16.ofNat

/-- A byte in decimal has no leading zeros. -/
def byte? (digits : List Char) : Option Nat :=
  if digits = [] ∨ (1 < digits.length ∧ digits.head? = some '0') then none
  else
    match Ipv4.numberIn? 10 digits with
    | some number => if number < 256 then some number else none
    | none => none

/-- The last two pieces may be written as four bytes in decimal. -/
def tail? (text : List Char) : Option (List UInt16) :=
  if text.contains '.' then
    match (Domain.splitAt '.' text).mapM byte? with
    | some [one, two, three, four] =>
      some [UInt16.ofNat (one * 256 + two), UInt16.ofNat (three * 256 + four)]
    | _ => none
  else (piece? text).map fun piece => [piece]

/-- Pieces stand between colons. -/
def pieces? (texts : List (List Char)) : Option (List UInt16) := texts.mapM piece?

def piecesWithTail? : List (List Char) → Option (List UInt16)
  | [] => some []
  | [last] => tail? last
  | text :: rest =>
    match piece? text, piecesWithTail? rest with
    | some piece, some pieces => some (piece :: pieces)
    | _, _ => none

/-- No text has no pieces, and not one empty piece. -/
def splitPieces : List Char → List (List Char)
  | [] => []
  | text => Domain.splitAt ':' text

/-- This function splits a text at the first two colons that touch. -/
def splitAtGap : List Char → Option (List Char × List Char)
  | ':' :: ':' :: rest => some ([], rest)
  | [] => none
  | character :: rest =>
    match splitAtGap rest with
    | some (before, after) => some (character :: before, after)
    | none => none

def ofPieces? (pieces : List UInt16) : Option Ipv6 :=
  if eight : pieces.length = 8 then some ⟨pieces, eight⟩ else none

/-- A gap stands for at least one zero piece. -/
def read? (text : List Char) : Option Ipv6 :=
  match splitAtGap text with
  | none =>
    match piecesWithTail? (Domain.splitAt ':' text) with
    | some pieces => ofPieces? pieces
    | none => none
  | some (before, after) =>
    match pieces? (splitPieces before), piecesWithTail? (splitPieces after) with
    | some front, some back =>
      if front.length + back.length < 8 then
        ofPieces? (front ++ List.replicate (8 - front.length - back.length) 0 ++ back)
      else none
    | _, _ => none

end Ipv6

end Switchboard.Url
