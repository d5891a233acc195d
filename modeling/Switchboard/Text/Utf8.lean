import Switchboard.Bytes

/-
This file writes texts as UTF-8 and reads UTF-8 back, strictly or with replacement characters.
-/

namespace Switchboard.Text.Utf8

/-- A character takes one to four bytes; every byte after the first holds six of its bits. -/
def encodeChar (character : Char) : Bytes :=
  let code := character.toNat
  if code < 0x80 then [UInt8.ofNat code]
  else if code < 0x800 then
    [UInt8.ofNat (0xC0 + code / 64), UInt8.ofNat (0x80 + code % 64)]
  else if code < 0x10000 then
    [UInt8.ofNat (0xE0 + code / 4096), UInt8.ofNat (0x80 + code / 64 % 64),
      UInt8.ofNat (0x80 + code % 64)]
  else
    [UInt8.ofNat (0xF0 + code / 262144), UInt8.ofNat (0x80 + code / 4096 % 64),
      UInt8.ofNat (0x80 + code / 64 % 64), UInt8.ofNat (0x80 + code % 64)]

def encodeChars (characters : List Char) : Bytes := characters.flatMap encodeChar

def encode (text : String) : Bytes := encodeChars text.toList

/-- A piece is a whole character, a malformed run of bytes, or a character that the end cuts off. -/
inductive Piece where
  | character (value : Char)
  | malformed (length : Nat)
  | cutOff
  deriving DecidableEq, Repr

/-- Every byte after the first of a character lies in this range. -/
def isContinuation (byte : UInt8) : Bool := 0x80 ≤ byte && byte ≤ 0xBF

/-- The second byte of a three-byte character excludes overlong forms and surrogates. -/
def isSecondOfThree (first second : UInt8) : Bool :=
  if first = 0xE0 then 0xA0 ≤ second && second ≤ 0xBF
  else if first = 0xED then 0x80 ≤ second && second ≤ 0x9F
  else isContinuation second

/-- The second byte of a four-byte character excludes overlong forms and codes past U+10FFFF. -/
def isSecondOfFour (first second : UInt8) : Bool :=
  if first = 0xF0 then 0x90 ≤ second && second ≤ 0xBF
  else if first = 0xF4 then 0x80 ≤ second && second ≤ 0x8F
  else isContinuation second

def twoByteChar (first second : UInt8) : Char :=
  Char.ofNat ((first.toNat - 0xC0) * 64 + (second.toNat - 0x80))

def threeByteChar (first second third : UInt8) : Char :=
  Char.ofNat ((first.toNat - 0xE0) * 4096 + (second.toNat - 0x80) * 64 + (third.toNat - 0x80))

def fourByteChar (first second third fourth : UInt8) : Char :=
  Char.ofNat ((first.toNat - 0xF0) * 262144 + (second.toNat - 0x80) * 4096 +
    (third.toNat - 0x80) * 64 + (fourth.toNat - 0x80))

/--
The pieces of a byte sequence follow each other without gaps. A malformed run is the longest one
that starts like a character; it never takes a byte that could start the next character.
-/
def pieces : Bytes → List Piece
  | [] => []
  | first :: rest =>
    if first < 0x80 then .character (Char.ofNat first.toNat) :: pieces rest
    else if 0xC2 ≤ first && first ≤ 0xDF then
      match rest with
      | [] => [.cutOff]
      | second :: rest₂ =>
        if isContinuation second then .character (twoByteChar first second) :: pieces rest₂
        else .malformed 1 :: pieces (second :: rest₂)
    else if 0xE0 ≤ first && first ≤ 0xEF then
      match rest with
      | [] => [.cutOff]
      | second :: rest₂ =>
        if isSecondOfThree first second then
          match rest₂ with
          | [] => [.cutOff]
          | third :: rest₃ =>
            if isContinuation third then
              .character (threeByteChar first second third) :: pieces rest₃
            else .malformed 2 :: pieces (third :: rest₃)
        else .malformed 1 :: pieces (second :: rest₂)
    else if 0xF0 ≤ first && first ≤ 0xF4 then
      match rest with
      | [] => [.cutOff]
      | second :: rest₂ =>
        if isSecondOfFour first second then
          match rest₂ with
          | [] => [.cutOff]
          | third :: rest₃ =>
            if isContinuation third then
              match rest₃ with
              | [] => [.cutOff]
              | fourth :: rest₄ =>
                if isContinuation fourth then
                  .character (fourByteChar first second third fourth) :: pieces rest₄
                else .malformed 3 :: pieces (fourth :: rest₄)
            else .malformed 2 :: pieces (third :: rest₃)
        else .malformed 1 :: pieces (second :: rest₂)
    else .malformed 1 :: pieces rest

/-- A fault names the index of the first byte that belongs to no character. -/
inductive Fault where
  | malformed (length index : Nat)
  | cutOff (index : Nat)
  deriving DecidableEq, Repr

def Fault.index : Fault → Nat
  | .malformed _ index => index
  | .cutOff index => index

def Fault.message : Fault → String
  | .malformed length index => s!"invalid utf-8 sequence of {length} bytes from index {index}"
  | .cutOff index => s!"incomplete utf-8 byte sequence from index {index}"

/-- The index counts the bytes of the characters before the pieces. -/
def charsOfPieces (index : Nat) : List Piece → Except Fault (List Char)
  | [] => .ok []
  | .character value :: rest =>
    match charsOfPieces (index + value.utf8Size) rest with
    | .ok characters => .ok (value :: characters)
    | .error fault => .error fault
  | .malformed length :: _ => .error (.malformed length index)
  | .cutOff :: _ => .error (.cutOff index)

/-- Strict reading accepts whole characters only. -/
def decode (bytes : Bytes) : Except Fault String :=
  match charsOfPieces 0 (pieces bytes) with
  | .ok characters => .ok (String.ofList characters)
  | .error fault => .error fault

/-- This character stands for each malformed run when a text is read leniently. -/
def replacement : Char := Char.ofNat 0xFFFD

def Piece.lenient : Piece → Char
  | .character value => value
  | .malformed _ => replacement
  | .cutOff => replacement

/-- Lenient reading accepts every byte sequence. -/
def decodeLenient (bytes : Bytes) : String :=
  String.ofList ((pieces bytes).map Piece.lenient)

end Switchboard.Text.Utf8
