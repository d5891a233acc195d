import Switchboard.Proofs.Ascending
import Switchboard.Proofs.Json.Head
import Switchboard.Proofs.Json.Numeral

/-
This file writes down the grammar of JSON payloads and what its values denote, apart from any
reader.
-/

namespace Switchboard.Json

open Text.Utf8

section Texts

/-- Four hexadecimal digits spell a unit of 16 bits. -/
inductive SpellsUnit : Bytes → Nat → Prop where
  | digits {first second third fourth : UInt8} {one two three four : Nat}
    (isOne : hexValue? first = some one) (isTwo : hexValue? second = some two)
    (isThree : hexValue? third = some three) (isFour : hexValue? fourth = some four) :
    SpellsUnit [first, second, third, fourth] (one * 0x1000 + two * 0x100 + three * 0x10 + four)

/--
Half of a surrogate pair is no character, so a leading half is followed at once by a trailing half
that is escaped itself.
-/
inductive NumericEscape : Bytes → Bytes → Prop where
  | single {digits : Bytes} {unit : Nat} (spelled : SpellsUnit digits unit)
    (notLeading : isLeadingSurrogate unit = false)
    (notTrailing : isTrailingSurrogate unit = false) :
    NumericEscape digits (encodeChar (Char.ofNat unit))
  | pair {first second : Bytes} {leading trailing : Nat} (isFirst : SpellsUnit first leading)
    (isLeading : isLeadingSurrogate leading = true) (isSecond : SpellsUnit second trailing)
    (isTrailing : isTrailingSurrogate trailing = true) :
    NumericEscape (first ++ backslash :: letterU :: second)
      (encodeChar (Char.ofNat (surrogatePair leading trailing)))

/-- An escape names a byte by a mark, or a character by its units. -/
inductive Escape : Bytes → Bytes → Prop where
  | simple {mark value : UInt8} (named : simpleEscape? mark = some value) : Escape [mark] [value]
  | numeric {run value : Bytes} (escape : NumericEscape run value) : Escape (letterU :: run) value

/-- A byte stands for itself, or a backslash and an escape stand for a character. -/
inductive StandsFor : Bytes → Bytes → Prop where
  | plain {byte : UInt8} (isPlain : IsPlainContent byte) : StandsFor [byte] [byte]
  | escaped {run value : Bytes} (escape : Escape run value) : StandsFor (backslash :: run) value

/-- The raw bytes of a text stand for the bytes of its content one run after the other. -/
inductive Content : Bytes → Bytes → Prop where
  | empty : Content [] []
  | more {run value raw content : Bytes} (standsFor : StandsFor run value)
    (rest : Content raw content) : Content (run ++ raw) (value ++ content)

/-- A text stands between quotes, and its content has to be valid. -/
inductive IsText : Bytes → String → Prop where
  | quoted {raw : Bytes} {text : String} (content : Content raw (encode text)) :
    IsText (quote :: raw ++ [quote]) text

end Texts

section Numbers

inductive SpellsFraction : Bytes → Bytes → Prop where
  | absent : SpellsFraction [] []
  | digits {digits : Bytes} (all : AreDigits digits) : SpellsFraction (point :: digits) digits

/-- An exponent starts with a letter in either case, and its sign may be left out. -/
inductive SpellsExponent : Bytes → Option (Bool × Bytes) → Prop where
  | absent : SpellsExponent [] none
  | unsigned {letter : UInt8} {digits : Bytes} (isLetter : letter = letterE ∨ letter = 0x45)
    (all : AreDigits digits) : SpellsExponent (letter :: digits) (some (true, digits))
  | signed {letter sign : UInt8} {digits : Bytes} (isLetter : letter = letterE ∨ letter = 0x45)
    (isSign : sign = plus ∨ sign = minus) (all : AreDigits digits) :
    SpellsExponent (letter :: sign :: digits) (some (sign = plus, digits))

/-- A number without its sign is spelled in up to three parts. -/
inductive Spells : Bytes → NumberToken → Prop where
  | parts {whole fraction exponent fractionDigits : Bytes}
    {exponentParts : Option (Bool × Bytes)} (isWhole : IsWhole whole)
    (isFraction : SpellsFraction fraction fractionDigits)
    (isExponent : SpellsExponent exponent exponentParts) :
    Spells (whole ++ (fraction ++ exponent)) ⟨whole, fractionDigits, exponentParts⟩

/-- A whole number denotes an integer if 64 bits hold it, but the negative zero denotes none. -/
def NumberToken.integer? (negative : Bool) (token : NumberToken) : Option Int :=
  if token.fraction = [] ∧ token.exponent = none then
    let magnitude := digitsValue 0 token.whole
    if negative then
      if magnitude ≠ 0 ∧ magnitude ≤ 9223372036854775808 then some (-magnitude) else none
    else if magnitude ≤ 18446744073709551615 then some magnitude else none
  else none

/-- A token has no conversion if it lies beyond all finite numbers. -/
def NumberToken.float? (negative : Bool) (token : NumberToken) : Option Binary64 :=
  match token.evaluate negative with
  | .ok (.float value) => some value
  | _ => none

/-- A token that denotes no integer denotes the number that it is converted to. -/
inductive Denotes (negative : Bool) (token : NumberToken) : Datum → Prop where
  | integer {value : Int} (held : token.integer? negative = some value) :
    Denotes negative token (.int value)
  | float {value : Binary64} (notHeld : token.integer? negative = none)
    (converted : token.float? negative = some value) : Denotes negative token (.float value)

end Numbers

/-- A scalar is a value without brackets. -/
inductive Scalar : Bytes → Datum → Prop where
  | null : Scalar nullLiteral .null
  | boolTrue : Scalar trueLiteral (.bool true)
  | boolFalse : Scalar falseLiteral (.bool false)
  | positive {bytes : Bytes} {token : NumberToken} {datum : Datum} (spelled : Spells bytes token)
    (denotes : Denotes false token datum) : Scalar bytes datum
  | negative {bytes : Bytes} {token : NumberToken} {datum : Datum} (spelled : Spells bytes token)
    (denotes : Denotes true token datum) : Scalar (minus :: bytes) datum
  | text {bytes : Bytes} {text : String} (isText : IsText bytes text) : Scalar bytes (.text text)

section Containers

variable {α : Type}

/-- Blanks may stand around a token. -/
inductive Padded (token : Bytes → α → Prop) : Bytes → α → Prop where
  | blanks {before bytes after : Bytes} {meaning : α} (isBefore : AreBlanks before)
    (isToken : token bytes meaning) (isAfter : AreBlanks after) :
    Padded token (before ++ (bytes ++ after)) meaning

/-- Parts are separated by commas, and there is at least one of them. -/
inductive Separated (part : Bytes → α → Prop) : Bytes → List α → Prop where
  | last {bytes : Bytes} {meaning : α} (isPart : part bytes meaning) :
    Separated part bytes [meaning]
  | more {bytes rest : Bytes} {meaning : α} {meanings : List α} (isPart : part bytes meaning)
    (others : Separated part rest meanings) :
    Separated part (bytes ++ comma :: rest) (meaning :: meanings)

/-- Of several entries with one key the last one counts. -/
structure IsTable (entries table : List (String × Datum)) : Prop where
  ascending : Ascending.IsAscending (table.map Prod.fst)
  last : ∀ key, Ascending.find? key table = entries.reverse.lookup key

/-- An entry is a text and a value with a colon between them. -/
inductive Entry (value : Bytes → α → Prop) : Bytes → String × α → Prop where
  | colon {name before after token : Bytes} {key : String} {meaning : α}
    (isKey : IsText name key) (isBefore : AreBlanks before) (isAfter : AreBlanks after)
    (isValue : value token meaning) :
    Entry value (name ++ (before ++ colon :: (after ++ token))) (key, meaning)

variable (value : Bytes → Datum → Prop)

/-- Nothing but blanks stands between the brackets of an empty container. -/
inductive Container : Bytes → Datum → Prop where
  | emptyList {blanks : Bytes} (all : AreBlanks blanks) :
    Container (openList :: (blanks ++ [closeList])) (.list [])
  | list {inner : Bytes} {items : List Datum} (isInner : Separated (Padded value) inner items) :
    Container (openList :: (inner ++ [closeList])) (.list items)
  | emptyObject {blanks : Bytes} (all : AreBlanks blanks) :
    Container (openObject :: (blanks ++ [closeObject])) (.object [])
  | object {inner : Bytes} {entries table : List (String × Datum)}
    (isInner : Separated (Padded (Entry value)) inner entries) (isTable : IsTable entries table) :
    Container (openObject :: (inner ++ [closeObject])) (.object table)

end Containers

/-- A value nests at most this many brackets. -/
def Value : Nat → Bytes → Datum → Prop
  | 0, bytes, datum => Scalar bytes datum
  | depth + 1, bytes, datum => Scalar bytes datum ∨ Container (Value depth) bytes datum

section Tables

theorem isTable_ofList (entries : List (String × Datum)) :
    IsTable entries (Ascending.ofList entries) :=
  ⟨Ascending.isAscending_ofList entries, fun key => Ascending.find?_ofList key entries⟩

/-- Entries are collected in one way only. -/
theorem isTable_iff {entries table : List (String × Datum)} :
    IsTable entries table ↔ table = Ascending.ofList entries := by
  constructor
  · intro isTable
    have collected := isTable_ofList entries
    refine Ascending.eq_of_find?_eq isTable.ascending collected.ascending fun key => ?_
    rw [isTable.last, collected.last]
  · rintro rfl
    exact isTable_ofList entries

end Tables

end Switchboard.Json
