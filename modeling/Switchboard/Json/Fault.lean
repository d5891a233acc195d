import Switchboard.Mismatch
import Switchboard.Json.Byte

/-
This file says why and where reading a JSON payload stops.
-/

namespace Switchboard.Json

/-- A cause is a violation of the grammar, of a limit or of the expected shape. -/
inductive Cause where
  | endInValue
  | endInList
  | endInObject
  | endInText
  | expectedValue
  | expectedLiteral
  | expectedColon
  | expectedListSeparator
  | expectedObjectSeparator
  | keyNotText
  | trailingComma
  | trailingBytes
  | invalidNumber
  | numberOutOfRange
  | controlCharacter
  | invalidEscape
  | incompleteSurrogatePair
  | loneSurrogate
  | invalidEncoding
  | tooDeep
  | mismatch (cause : Mismatch)
  deriving DecidableEq, Repr

/-- JSON writes the absent value as null and numbers in the payload layout. -/
def wording : Wording := ⟨"null", .payload⟩

def Cause.message : Cause → String
  | .endInValue => "EOF while parsing a value"
  | .endInList => "EOF while parsing a list"
  | .endInObject => "EOF while parsing an object"
  | .endInText => "EOF while parsing a string"
  | .expectedValue => "expected value"
  | .expectedLiteral => "expected ident"
  | .expectedColon => "expected `:`"
  | .expectedListSeparator => "expected `,` or `]`"
  | .expectedObjectSeparator => "expected `,` or `\x7d`"
  | .keyNotText => "key must be a string"
  | .trailingComma => "trailing comma"
  | .trailingBytes => "trailing characters"
  | .invalidNumber => "invalid number"
  | .numberOutOfRange => "number out of range"
  | .controlCharacter => "control character (\\u0000-\\u001F) found while parsing a string"
  | .invalidEscape => "invalid escape"
  | .incompleteSurrogatePair => "unexpected end of hex escape"
  | .loneSurrogate => "lone leading surrogate in hex escape"
  | .invalidEncoding => "invalid unicode code point"
  | .tooDeep => "recursion limit exceeded"
  | .mismatch cause => cause.message wording

/-- A fault stands where this many bytes of the payload are left. -/
structure Fault where
  cause : Cause
  left : Nat
  deriving DecidableEq, Repr

/-- The fault is reported after the bytes read so far. -/
def faultAt (cause : Cause) (rest : Bytes) : Fault := ⟨cause, rest.length⟩

/-- The fault is reported after the next byte, if there is one. -/
def faultPast (cause : Cause) (rest : Bytes) : Fault := ⟨cause, rest.length - 1⟩

/-- Lines are counted from one; the column counts the bytes read since the last line end. -/
structure Position where
  line : Nat
  column : Nat
  deriving DecidableEq, Repr

def Position.after (bytes : Bytes) : Position :=
  ⟨bytes.count 0x0A + 1, (bytes.reverse.takeWhile (· ≠ 0x0A)).length⟩

def Fault.message (payload : Bytes) (fault : Fault) : String :=
  let position := Position.after (payload.take (payload.length - fault.left))
  s!"{fault.cause.message} at line {position.line} column {position.column}"

/-- A reader takes a value off the front of the bytes, or it stops with a fault. -/
abbrev Reader (α : Type) : Type := Bytes → Except Fault (α × Bytes)

end Switchboard.Json
