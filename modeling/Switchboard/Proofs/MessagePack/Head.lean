import Mathlib.Algebra.Group.Int.Defs
import Switchboard.MessagePack.Reader
import Switchboard.MessagePack.Writer
import Switchboard.Proofs.Bytes
import Switchboard.Proofs.Except
import Switchboard.Proofs.Shape
import Switchboard.Proofs.Text.Utf8

/-
This file shows that the head of a written MessagePack value is read back, whatever follows it. No
other value starts like the absent one.
-/

namespace Switchboard.MessagePack

section Numbers

variable (rest : Bytes)

theorem readExactly_append (fault : Fault) (content : Bytes) :
    readExactly fault content.length (content ++ rest) = .ok (content, rest) := by
  simp only [readExactly, List.take_left, List.drop_left, Nat.lt_irrefl, if_false]

theorem readUnsigned_append (digits : Bytes) :
    readUnsigned digits.length (digits ++ rest) = .ok (Bytes.toNat digits, rest) := by
  rw [readUnsigned, readExactly_append, ok_bind]
  rfl

/-- A number is read back from as many bytes as hold it. -/
theorem readUnsigned_bigEndian {width number : Nat} (fits : number < 256 ^ width) :
    readUnsigned width (Bytes.bigEndian width number ++ rest) = .ok (number, rest) := by
  have read := readUnsigned_append rest (Bytes.bigEndian width number)
  rwa [Bytes.bigEndian_length, Bytes.toNat_bigEndian_of_lt fits] at read

/-- The complement of a negative number is in the upper half of the range. -/
theorem complement_toNat {width : Nat} {value : Int} (positive : 0 < width) (negative : value < 0)
    (least : -(2 ^ (8 * width - 1) : Nat) ≤ value) :
    complement width (value + (2 ^ (8 * width) : Nat)).toNat = value := by
  have halves : 2 ^ (8 * width) = 2 * 2 ^ (8 * width - 1) := by
    rw [← Nat.pow_succ', Nat.succ_eq_add_one, Nat.sub_add_cancel (by omega)]
  rw [complement, Nat.pow_eq, Nat.pow_eq, if_neg (by omega)]
  omega

theorem readSigned_bigEndian {width : Nat} {value : Int} (positive : 0 < width)
    (negative : value < 0) (least : -(2 ^ (8 * width - 1) : Nat) ≤ value) :
    readSigned width (Bytes.bigEndian width (value + (2 ^ (8 * width) : Nat)).toNat ++ rest) =
      .ok (value, rest) := by
  have range : 2 ^ (8 * width) = 256 ^ width := Nat.pow_mul 2 8 width
  have fits : (value + (2 ^ (8 * width) : Nat)).toNat < 256 ^ width := by
    rw [← range]
    have some : 0 < 2 ^ (8 * width) := Nat.two_pow_pos _
    omega
  rw [readSigned, readUnsigned_bigEndian rest fits]
  simp only [ok_bind, complement_toNat positive negative least]
  rfl

end Numbers

namespace Marker

theorem ofByte_fixPositive {value : Nat} (small : value < 0x80) :
    ofByte (UInt8.ofNat value) = .fixPositive value := by
  have all : ∀ value < 0x80, ofByte (UInt8.ofNat value) = .fixPositive value := by decide
  exact all value small

theorem ofByte_fixMap {length : Nat} (small : length < 16) :
    ofByte (UInt8.ofNat (0x80 + length)) = .fixMap length := by
  have all : ∀ length < 16, ofByte (UInt8.ofNat (0x80 + length)) = .fixMap length := by decide
  exact all length small

theorem ofByte_fixArray {length : Nat} (small : length < 16) :
    ofByte (UInt8.ofNat (0x90 + length)) = .fixArray length := by
  have all : ∀ length < 16, ofByte (UInt8.ofNat (0x90 + length)) = .fixArray length := by decide
  exact all length small

theorem ofByte_fixText {length : Nat} (small : length < 32) :
    ofByte (UInt8.ofNat (0xA0 + length)) = .fixText length := by
  have all : ∀ length < 32, ofByte (UInt8.ofNat (0xA0 + length)) = .fixText length := by decide
  exact all length small

theorem ofByte_fixNegative {value : Int} (least : -32 ≤ value) (negative : value < 0) :
    ofByte (UInt8.ofNat (value + 256).toNat) = .fixNegative value := by
  have all : ∀ distance < 32, ofByte (UInt8.ofNat (224 + distance)) =
      .fixNegative (-32 + distance) := by decide
  have here := all (value + 32).toNat (by omega)
  have number : 224 + (value + 32).toNat = (value + 256).toNat := by omega
  have same : (-32 + (value + 32).toNat : Int) = value := by omega
  rwa [number, same] at here

end Marker

/-- The marker is followed by a number of this width, and the head is made of the number. -/
def Announces (marker : Marker) (width : Nat) (kind : Nat → Head) : Prop :=
  ∀ bytes, readAfterMarker marker bytes = do
    let (number, rest) ← readUnsigned width bytes
    return (kind number, rest)

theorem Announces.read {marker : Marker} {width : Nat} {kind : Nat → Head}
    (announces : Announces marker width kind) {number : Nat} (fits : number < 256 ^ width)
    (rest : Bytes) :
    readAfterMarker marker (Bytes.bigEndian width number ++ rest) = .ok (kind number, rest) := by
  rw [announces, readUnsigned_bigEndian rest fits]
  rfl

theorem announces_unsigned (width : Nat) : Announces (.unsigned width) width .unsigned :=
  fun _ => rfl

theorem readAfterMarker_signed {width : Nat} {value : Int} (positive : 0 < width)
    (negative : value < 0) (least : -(2 ^ (8 * width - 1) : Nat) ≤ value) (rest : Bytes) :
    readAfterMarker (.signed width)
        (Bytes.bigEndian width (value + (2 ^ (8 * width) : Nat)).toNat ++ rest) =
      .ok (.signed value, rest) := by
  rw [readAfterMarker, readSigned_bigEndian rest positive negative least]
  rfl

theorem readHead_cons (byte : UInt8) (bytes : Bytes) :
    readHead (byte :: bytes) = readAfterMarker (Marker.ofByte byte) bytes := rfl

theorem readHead_fixPositive {value : Nat} (small : value < 0x80) (rest : Bytes) :
    readHead (UInt8.ofNat value :: rest) = .ok (.unsigned value, rest) := by
  rw [readHead_cons, Marker.ofByte_fixPositive small]
  rfl

theorem readHead_fixNegative {value : Int} (least : -32 ≤ value) (negative : value < 0)
    (rest : Bytes) :
    readHead (UInt8.ofNat (value + 256).toNat :: rest) = .ok (.signed value, rest) := by
  rw [readHead_cons, Marker.ofByte_fixNegative least negative]
  rfl

/-- A head that says what its value is has a simple marker. -/
structure StartsWith (written : Bytes) (head : Head) : Prop where
  read : ∀ rest, readHead (written ++ rest) = .ok (head, rest)
  readSimple : ∀ rest, readSimpleHead (written ++ rest) = .ok (head, rest)

theorem startsWith_cons {byte : UInt8} {digits : Bytes} {head : Head}
    (simple : (Marker.ofByte byte).isSimple)
    (read : ∀ rest, readAfterMarker (Marker.ofByte byte) (digits ++ rest) = .ok (head, rest)) :
    StartsWith (byte :: digits) head := by
  refine ⟨fun rest => ?_, fun rest => ?_⟩
  · rw [List.cons_append, readHead_cons, read]
  · rw [List.cons_append, readSimpleHead, readMarker]
    simp only [ok_bind, simple, if_true, read]

/-- A number that is not negative is read back as an unsigned one. -/
theorem startsWith_writeNat {value : Nat} (fits : value < 2 ^ 64) :
    StartsWith (writeNat value) (.unsigned value) := by
  by_cases one : value < 0x80
  · have marker := Marker.ofByte_fixPositive one
    rw [writeNat, if_pos one]
    apply startsWith_cons
    · rw [marker]
      rfl
    · intro rest
      rw [marker]
      rfl
  rw [writeNat, if_neg one]
  by_cases two : value < 0x100
  · rw [if_pos two]
    exact startsWith_cons rfl ((announces_unsigned _).read two)
  rw [if_neg two]
  by_cases three : value < 0x10000
  · rw [if_pos three]
    exact startsWith_cons rfl ((announces_unsigned _).read three)
  rw [if_neg three]
  by_cases five : value < 0x100000000
  · rw [if_pos five]
    exact startsWith_cons rfl ((announces_unsigned _).read five)
  rw [if_neg five]
  exact startsWith_cons rfl ((announces_unsigned _).read fits)

/-- A negative number is read back as a signed one. -/
theorem startsWith_writeNegative {value : Int} (negative : value < 0) (least : -2 ^ 63 ≤ value) :
    StartsWith (writeNegative value) (.signed value) := by
  by_cases one : -32 ≤ value
  · have marker := Marker.ofByte_fixNegative one negative
    rw [writeNegative, if_pos one]
    apply startsWith_cons
    · rw [marker]
      rfl
    · intro rest
      rw [marker]
      rfl
  rw [writeNegative, if_neg one]
  by_cases two : -128 ≤ value
  · rw [if_pos two]
    exact startsWith_cons rfl (readAfterMarker_signed (by decide) negative two)
  rw [if_neg two]
  by_cases three : -32768 ≤ value
  · rw [if_pos three]
    exact startsWith_cons rfl (readAfterMarker_signed (by decide) negative three)
  rw [if_neg three]
  by_cases five : -2147483648 ≤ value
  · rw [if_pos five]
    exact startsWith_cons rfl (readAfterMarker_signed (by decide) negative five)
  rw [if_neg five]
  exact startsWith_cons rfl (readAfterMarker_signed (by decide) negative least)

/-- An integer is read back with its sign. -/
def integerHead (value : Int) : Head :=
  if value < 0 then .signed value else .unsigned value.toNat

theorem startsWith_writeInt {value : Int} (plain : Datum.isPlainInteger value) :
    StartsWith (writeInt value) (integerHead value) := by
  simp only [Datum.isPlainInteger, Bool.and_eq_true, decide_eq_true_eq] at plain
  by_cases negative : value < 0
  · rw [writeInt, integerHead, if_pos negative, if_pos negative]
    exact startsWith_writeNegative negative plain.1
  · rw [writeInt, integerHead, if_neg negative, if_neg negative]
    exact startsWith_writeNat (by omega)

section Lengths

/--
A fixed head is its length below a bound; the others stand in front of it, even if it is small.
-/
inductive Counts (fixed bound : Nat) (markers : List (UInt8 × Nat)) (length : Nat) :
    Bytes → Prop where
  | fixed (small : length < bound) :
    Counts fixed bound markers length [UInt8.ofNat (fixed + length)]
  | announced {marker : UInt8} {width : Nat} (announced : (marker, width) ∈ markers)
    (fits : length < 256 ^ width) :
    Counts fixed bound markers length (marker :: Bytes.bigEndian width length)

def IsListHead : Nat → Bytes → Prop := Counts 0x90 16 [(0xDC, 2), (0xDD, 4)]

def IsMapHead : Nat → Bytes → Prop := Counts 0x80 16 [(0xDE, 2), (0xDF, 4)]

def IsTextHead : Nat → Bytes → Prop := Counts 0xA0 32 [(0xD9, 1), (0xDA, 2), (0xDB, 4)]

/-- No length of a byte array is below its bound. -/
def IsBytesHead : Nat → Bytes → Prop := Counts 0xC0 0 [(0xC4, 1), (0xC5, 2), (0xC6, 4)]

/-- An extension has fixed heads for powers of two. -/
inductive IsExtensionHead (length : Nat) : Bytes → Prop where
  | fixed {marker : UInt8}
    (listed : (marker, length) ∈ [(0xD4, 1), (0xD5, 2), (0xD6, 4), (0xD7, 8), (0xD8, 16)]) :
    IsExtensionHead length [marker]
  | announced {marker : UInt8} {width : Nat}
    (announced : (marker, width) ∈ [(0xC7, 1), (0xC8, 2), (0xC9, 4)])
    (fits : length < 256 ^ width) :
    IsExtensionHead length (marker :: Bytes.bigEndian width length)

variable {length : Nat} {head : Bytes}

/-- The length is read whatever head announces it. -/
theorem Counts.read {fixed bound : Nat} {markers : List (UInt8 × Nat)}
    (counts : Counts fixed bound markers length head) (marker : Nat → Marker) {kind : Nat → Head}
    (ofFixed : ∀ length < bound, ∀ rest,
      readAfterMarker (Marker.ofByte (UInt8.ofNat (fixed + length))) rest =
        .ok (kind length, rest))
    (listed : ∀ entry ∈ markers, Marker.ofByte entry.1 = marker entry.2)
    (ofWidth : ∀ width, Announces (marker width) width kind)
    (rest : Bytes) : readHead (head ++ rest) = .ok (kind length, rest) := by
  cases counts with
  | fixed small =>
      rw [List.cons_append, readHead_cons]
      exact ofFixed length small rest
  | announced announced fits =>
      rw [List.cons_append, readHead_cons, listed _ announced]
      exact (ofWidth _).read fits rest

theorem IsListHead.read (isHead : IsListHead length head) (rest : Bytes) :
    readHead (head ++ rest) = .ok (.list length, rest) := by
  refine Counts.read isHead .array (fun length small rest => ?_) (by decide) (fun _ _ => rfl) rest
  rw [Marker.ofByte_fixArray small]
  rfl

theorem IsMapHead.read (isHead : IsMapHead length head) (rest : Bytes) :
    readHead (head ++ rest) = .ok (.map length, rest) := by
  refine Counts.read isHead .map (fun length small rest => ?_) (by decide) (fun _ _ => rfl) rest
  rw [Marker.ofByte_fixMap small]
  rfl

theorem IsTextHead.read (isHead : IsTextHead length head) (rest : Bytes) :
    readHead (head ++ rest) = .ok (.text length, rest) := by
  refine Counts.read isHead .text (fun length small rest => ?_) (by decide) (fun _ _ => rfl) rest
  rw [Marker.ofByte_fixText small]
  rfl

theorem IsBytesHead.read (isHead : IsBytesHead length head) (rest : Bytes) :
    readHead (head ++ rest) = .ok (.bytes length, rest) :=
  Counts.read isHead .bytes (fun _ small => absurd small (Nat.not_lt_zero _)) (by decide)
    (fun _ _ => rfl) rest

theorem IsExtensionHead.read (isHead : IsExtensionHead length head) (rest : Bytes) :
    readHead (head ++ rest) = .ok (.extension length, rest) := by
  cases isHead with
  | fixed listed =>
      have all : ∀ entry ∈ [((0xD4 : UInt8), 1), (0xD5, 2), (0xD6, 4), (0xD7, 8), (0xD8, 16)],
          Marker.ofByte entry.1 = .fixExtension entry.2 := by decide
      rw [List.cons_append, readHead_cons, all _ listed]
      rfl
  | @announced _ width announced fits =>
      have all : ∀ entry ∈ [((0xC7 : UInt8), 1), (0xC8, 2), (0xC9, 4)],
          Marker.ofByte entry.1 = .extension entry.2 := by decide
      rw [List.cons_append, readHead_cons, all _ announced]
      have announces : Announces (.extension width) width .extension := fun _ => rfl
      exact announces.read fits rest

/-- A text is written behind one of its heads. -/
theorem exists_isTextHead {text : String} (short : Datum.isShortText text) :
    ∃ head, IsTextHead (Text.Utf8.encode text).length head ∧
      writeText text = head ++ Text.Utf8.encode text := by
  simp only [Datum.isShortText, Datum.isShortLength, decide_eq_true_eq] at short
  rw [writeText]
  generalize Text.Utf8.encode text = content at short ⊢
  split
  · next one => exact ⟨_, .fixed one, rfl⟩
  split
  · next two => exact ⟨_, .announced (show (0xD9, 1) ∈ _ by decide) two, rfl⟩
  split
  · next three => exact ⟨_, .announced (show (0xDA, 2) ∈ _ by decide) three, rfl⟩
  · exact ⟨_, .announced (show (0xDB, 4) ∈ _ by decide) short, rfl⟩

theorem readHead_writeText {text : String} (short : Datum.isShortText text) (rest : Bytes) :
    readHead (writeText text ++ rest) =
      .ok (.text (Text.Utf8.encode text).length, Text.Utf8.encode text ++ rest) := by
  obtain ⟨head, isHead, same⟩ := exists_isTextHead short
  rw [same, List.append_assoc, isHead.read]

variable (short : Datum.isShortLength length)
include short

theorem isListHead_writeListHead : IsListHead length (writeListHead length) := by
  simp only [Datum.isShortLength, decide_eq_true_eq] at short
  rw [writeListHead]
  split
  · next one => exact .fixed one
  split
  · next three => exact .announced (by decide) three
  · exact .announced (by decide) short

theorem isMapHead_writeMapHead : IsMapHead length (writeMapHead length) := by
  simp only [Datum.isShortLength, decide_eq_true_eq] at short
  rw [writeMapHead]
  split
  · next one => exact .fixed one
  split
  · next three => exact .announced (by decide) three
  · exact .announced (by decide) short

variable (rest : Bytes)

theorem readHead_writeListHead :
    readHead (writeListHead length ++ rest) = .ok (.list length, rest) :=
  (isListHead_writeListHead short).read rest

theorem readHead_writeMapHead :
    readHead (writeMapHead length ++ rest) = .ok (.map length, rest) :=
  (isMapHead_writeMapHead short).read rest

end Lengths

theorem readHead_float (value : Binary64) (rest : Bytes) :
    readHead (write (.float value) ++ rest) = .ok (.float value, rest) := by
  have fits : value.bits.toNat < 256 ^ 8 := UInt64.toNat_lt value.bits
  have bits := readUnsigned_bigEndian rest fits
  have marker : Marker.ofByte 0xCB = .float64 := rfl
  rw [write, List.cons_append, readHead_cons, marker, readAfterMarker, bits]
  simp only [ok_bind, Nat.toUInt64_eq, UInt64.ofNat_toNat]
  rfl

/-- A head that is looked for behind simple markers only is read like any other, or refused. -/
theorem readSimpleHead_cases (bytes : Bytes) :
    readSimpleHead bytes = readHead bytes ∨ ∃ fault, readSimpleHead bytes = .error fault := by
  cases bytes with
  | nil => exact .inr ⟨_, rfl⟩
  | cons byte bytes =>
      rw [readSimpleHead, readMarker, readHead_cons]
      simp only [ok_bind]
      by_cases simple : (Marker.ofByte byte).isSimple
      · exact .inl (if_pos simple)
      · exact .inr ⟨_, if_neg simple⟩

/-- A head of the wrong kind is never accepted, whatever comes behind it. -/
theorem exists_fault_of_refuse {α : Type} (depth : Nat) (expected : String) (head : Head)
    (rest : Bytes) : ∃ fault, (refuse depth expected head rest : Except Fault α) = .error fault := by
  cases head with
  | null | bool _ | unsigned _ | signed _ | float _ => exact ⟨_, rfl⟩
  | text length =>
      rw [refuse]
      cases readText length rest with
      | ok _ => exact ⟨_, rfl⟩
      | error fault => exact ⟨fault, rfl⟩
  | bytes length =>
      rw [refuse]
      cases readContent length rest with
      | ok _ => exact ⟨_, rfl⟩
      | error fault => exact ⟨fault, rfl⟩
  | list _ | map _ | extension _ => cases depth <;> exact ⟨_, rfl⟩

/-- Heads without a content are whole values, and a reader without expectations takes them so. -/
def Head.scalar? : Head → Option Datum
  | .null => some .null
  | .bool value => some (.bool value)
  | .unsigned value => some (.int value)
  | .signed value => some (.int value)
  | .float value => some (anyFloat value)
  | .text _ | .bytes _ | .list _ | .map _ | .extension _ => none

theorem scalar?_integerHead (value : Int) : (integerHead value).scalar? = some (.int value) := by
  rw [integerHead]
  by_cases negative : value < 0
  · rw [if_pos negative, Head.scalar?]
  · rw [if_neg negative, Head.scalar?, Int.toNat_of_nonneg (by omega)]

section Written

/-- A datum is written under this head. -/
def Head.ofDatum : Datum → Head
  | .null => .null
  | .bool value => .bool value
  | .int value => integerHead value
  | .float value => .float value
  | .text value => .text (Text.Utf8.encode value).length
  | .list items => .list items.length
  | .object entries => .map entries.length
  | .pairs entries => .map entries.length

/-- Behind the head stands what the datum holds. -/
def content : Datum → Bytes
  | .text value => Text.Utf8.encode value
  | .list items => writeItems items
  | .object entries => writeEntries entries
  | .pairs entries => entries.flatMap writePairEntry
  | _ => []

/-- The format keeps the integers of the datum and writes its lengths in full. -/
structure IsWritable (datum : Datum) : Prop where
  plain : datum.hasPlainIntegers
  short : datum.isShort

/-- The head of a written datum is read back, and its content comes next. -/
theorem readHead_write {datum : Datum} (writable : IsWritable datum) (rest : Bytes) :
    readHead (write datum ++ rest) = .ok (Head.ofDatum datum, content datum ++ rest) := by
  obtain ⟨plain, short⟩ := writable
  match datum with
  | .null | .bool true | .bool false => rfl
  | .int value => exact (startsWith_writeInt plain).read rest
  | .float value => exact readHead_float value rest
  | .text value => exact readHead_writeText short rest
  | .list items =>
      rw [Datum.isShort, Bool.and_eq_true] at short
      rw [write, List.append_assoc]
      exact readHead_writeListHead short.1 _
  | .object entries =>
      rw [Datum.isShort, Bool.and_eq_true] at short
      rw [write, List.append_assoc]
      exact readHead_writeMapHead short.1 _
  | .pairs entries =>
      rw [write, List.append_assoc]
      exact readHead_writeMapHead short _

/-- Only the absent value starts like it. -/
theorem startsWithNull_write {datum : Datum} (writable : IsWritable datum)
    (notNull : datum ≠ .null) (rest : Bytes) : startsWithNull (write datum ++ rest) = false := by
  have read := readHead_write writable rest
  have other : Head.ofDatum datum ≠ .null := by
    cases datum with
    | null => exact absurd rfl notNull
    | int value =>
        rw [Head.ofDatum, integerHead]
        split <;> exact Head.noConfusion
    | bool _ | float _ | text _ | list _ | object _ | pairs _ => exact Head.noConfusion
  cases written : write datum ++ rest with
  | nil => rfl
  | cons byte bytes =>
      rw [startsWithNull, decide_eq_false_iff_not]
      intro isNull
      have same : readHead (byte :: bytes) = .ok (.null, bytes) := by
        rw [isNull]
        rfl
      rw [written, same, Except.ok.injEq, Prod.mk.injEq] at read
      exact other read.1.symm

/-- A datum is readable when its containers fit into the depth as well. -/
structure Readable (depth : Nat) (datum : Datum) : Prop extends IsWritable datum where
  shallow : datum.depth ≤ depth

namespace Readable

variable {depth : Nat}

/-- The items of a readable list are readable one level below it. -/
theorem list {items : List Datum} (readable : Readable depth (.list items)) :
    ∃ inner, depth = inner + 1 ∧ ∀ item ∈ items, Readable inner item := by
  obtain ⟨⟨plain, short⟩, shallow⟩ := readable
  obtain ⟨inner, same, within⟩ := Shape.exists_depth_of_le shallow
  rw [Datum.hasPlainIntegers, Datum.havePlainIntegers_iff] at plain
  rw [Datum.isShort, Bool.and_eq_true, Datum.areShort_iff] at short
  rw [Datum.listDepth_le_iff] at within
  exact ⟨inner, same, fun item member =>
    ⟨⟨plain item member, short.2 item member⟩, within item member⟩⟩

theorem object {entries : List (String × Datum)} (readable : Readable depth (.object entries)) :
    ∃ inner, depth = inner + 1 ∧
      ∀ entry ∈ entries, Datum.isShortText entry.1 ∧ Readable inner entry.2 := by
  obtain ⟨⟨plain, short⟩, shallow⟩ := readable
  obtain ⟨inner, same, within⟩ := Shape.exists_depth_of_le shallow
  rw [Datum.hasPlainIntegers, Datum.entriesPlainIntegers_iff] at plain
  rw [Datum.isShort, Bool.and_eq_true, Datum.entriesShort_iff] at short
  rw [Datum.entriesDepth_le_iff] at within
  exact ⟨inner, same, fun entry member => ⟨(short.2 entry member).1,
    ⟨⟨plain entry member, (short.2 entry member).2⟩, within entry member⟩⟩⟩

/-- The pairs are one level below a readable table, and their numbers one level further. -/
theorem pairs {entries : List ((Int × Int) × Int)} (readable : Readable depth (.pairs entries)) :
    ∃ inner, depth = inner + 2 ∧ ∀ entry ∈ entries, Datum.isPlainInteger entry.1.1 ∧
      Datum.isPlainInteger entry.1.2 ∧ Datum.isPlainInteger entry.2 := by
  obtain ⟨⟨plain, short⟩, shallow⟩ := readable
  obtain ⟨inner, same⟩ := Nat.exists_eq_add_of_le' shallow
  refine ⟨inner, same, fun entry member => ?_⟩
  rw [Datum.hasPlainIntegers, List.all_eq_true] at plain
  have all := plain entry member
  rw [Bool.and_eq_true, Bool.and_eq_true, and_assoc] at all
  exact all

end Readable

end Written

end Switchboard.MessagePack
