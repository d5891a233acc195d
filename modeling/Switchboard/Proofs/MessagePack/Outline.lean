import Switchboard.Proofs.MessagePack.Head

/-
This file says what a MessagePack value looks like from outside: how long it is and how deep it
nests, whatever its texts hold and whatever its numbers denote.
-/

namespace Switchboard.MessagePack

section Outlines

/-- These markers announce how many bytes hold a number. -/
def numberMarkers : List (UInt8 × Nat) :=
  [(0xCA, 4), (0xCB, 8), (0xCC, 1), (0xCD, 2), (0xCE, 4), (0xCF, 8), (0xD0, 1), (0xD1, 2),
    (0xD2, 4), (0xD3, 8)]

/-- A bare value holds no others. -/
inductive Bare : Bytes → Prop where
  | null : Bare [0xC0]
  | boolFalse : Bare [0xC2]
  | boolTrue : Bare [0xC3]
  | fixPositive {value : Nat} (small : value < 0x80) : Bare [UInt8.ofNat value]
  | fixNegative {value : Int} (negative : value < 0) (least : -32 ≤ value) :
    Bare [UInt8.ofNat (value + 256).toNat]
  | number {marker : UInt8} {digits : Bytes} (announced : (marker, digits.length) ∈ numberMarkers) :
    Bare (marker :: digits)
  | text {head content : Bytes} (isHead : IsTextHead content.length head) : Bare (head ++ content)
  | bytes {head content : Bytes} (isHead : IsBytesHead content.length head) : Bare (head ++ content)

/-- An extension counts as a level like the containers, and any value can be the key of a map. -/
inductive Enclosed (value : Bytes → Prop) : Bytes → Prop where
  | extension {head content : Bytes} (isHead : IsExtensionHead content.length head) (tag : UInt8) :
    Enclosed value (head ++ tag :: content)
  | list {head : Bytes} {items : List Bytes} (isHead : IsListHead items.length head)
    (inside : ∀ item ∈ items, value item) : Enclosed value (head ++ items.flatten)
  | map {head : Bytes} {entries : List (Bytes × Bytes)} (isHead : IsMapHead entries.length head)
    (inside : ∀ entry ∈ entries, value entry.1 ∧ value entry.2) :
    Enclosed value (head ++ entries.flatMap fun entry => entry.1 ++ entry.2)

/-- An outline nests at most this many values. -/
def Outline : Nat → Bytes → Prop
  | 0, bytes => Bare bytes
  | depth + 1, bytes => Bare bytes ∨ Enclosed (Outline depth) bytes

/-- Whatever its digits are, a number is a whole value. -/
theorem exists_head_of_number {marker : UInt8} {digits : Bytes}
    (announced : (marker, digits.length) ∈ numberMarkers) (rest : Bytes) :
    ∃ head datum, readHead (marker :: digits ++ rest) = .ok (head, rest) ∧
      head.scalar? = some datum := by
  have all : ∀ entry ∈ numberMarkers, Marker.ofByte entry.1 = .unsigned entry.2 ∨
      Marker.ofByte entry.1 = .signed entry.2 ∨
      (Marker.ofByte entry.1 = .float32 ∧ entry.2 = 4) ∨
      (Marker.ofByte entry.1 = .float64 ∧ entry.2 = 8) := by decide
  have kinds : Marker.ofByte marker = .unsigned digits.length ∨
      Marker.ofByte marker = .signed digits.length ∨
      (Marker.ofByte marker = .float32 ∧ digits.length = 4) ∨
      (Marker.ofByte marker = .float64 ∧ digits.length = 8) := all _ announced
  have read := readUnsigned_append rest digits
  rw [List.cons_append, readHead_cons]
  obtain isMarker | isMarker | ⟨isMarker, width⟩ | ⟨isMarker, width⟩ := kinds
  · rw [isMarker, readAfterMarker, read]
    exact ⟨_, _, rfl, rfl⟩
  · rw [isMarker, readAfterMarker, readSigned, read]
    exact ⟨_, _, rfl, rfl⟩
  · rw [width] at read
    rw [isMarker, readAfterMarker, read]
    exact ⟨_, _, rfl, rfl⟩
  · rw [width] at read
    rw [isMarker, readAfterMarker, read]
    exact ⟨_, _, rfl, rfl⟩

theorem Bare.outline {bytes : Bytes} (bare : Bare bytes) (depth : Nat) : Outline depth bytes := by
  cases depth with
  | zero => exact bare
  | succ depth => exact .inl bare

end Outlines

section Written

theorem bare_number {marker : UInt8} {width : Nat} (announced : (marker, width) ∈ numberMarkers)
    (number : Nat) : Bare (marker :: Bytes.bigEndian width number) := by
  refine .number ?_
  rw [Bytes.bigEndian_length]
  exact announced

theorem bare_writeNat (value : Nat) : Bare (writeNat value) := by
  rw [writeNat]
  split
  · next small => exact .fixPositive small
  split
  · exact bare_number (by decide) value
  split
  · exact bare_number (by decide) value
  split
  · exact bare_number (by decide) value
  · exact bare_number (by decide) value

theorem bare_writeInt (value : Int) : Bare (writeInt value) := by
  rw [writeInt]
  split
  · next negative =>
      rw [writeNegative]
      split
      · next least => exact .fixNegative negative least
      split
      · exact bare_number (by decide) _
      split
      · exact bare_number (by decide) _
      split
      · exact bare_number (by decide) _
      · exact bare_number (by decide) _
  · exact bare_writeNat value.toNat

theorem bare_writeText {text : String} (short : Datum.isShortText text) :
    Bare (writeText text) := by
  obtain ⟨head, isHead, same⟩ := exists_isTextHead short
  rw [same]
  exact .text isHead

theorem writeItems_eq_flatten (items : List Datum) :
    writeItems items = (items.map write).flatten := by
  induction items with
  | nil => rfl
  | cons item items inductionHypothesis =>
      rw [writeItems, inductionHypothesis, List.map_cons, List.flatten_cons]

/-- The key of an entry stands in front of its value. -/
def writeEntry (entry : String × Datum) : Bytes := writeText entry.1 ++ write entry.2

theorem writeEntries_eq_flatMap (entries : List (String × Datum)) :
    writeEntries entries = entries.flatMap writeEntry := by
  induction entries with
  | nil => rfl
  | cons entry entries inductionHypothesis =>
      rw [writeEntries, inductionHypothesis, List.flatMap_cons, writeEntry]

section Enclosed

variable {outline : Bytes → Prop}

theorem enclosed_list {items : List Datum} (short : Datum.isShortLength items.length)
    (inside : ∀ item ∈ items, outline (write item)) :
    Enclosed outline (writeListHead items.length ++ writeItems items) := by
  have isHead : IsListHead (items.map write).length (writeListHead items.length) := by
    rw [List.length_map]
    exact isListHead_writeListHead short
  rw [writeItems_eq_flatten]
  exact .list isHead (List.forall_mem_map.2 inside)

theorem enclosed_map {ε : Type} {key value : ε → Bytes} {entries : List ε}
    (short : Datum.isShortLength entries.length)
    (inside : ∀ entry ∈ entries, outline (key entry) ∧ outline (value entry)) :
    Enclosed outline (writeMapHead entries.length ++
      entries.flatMap fun entry => key entry ++ value entry) := by
  have isHead : IsMapHead (entries.map fun entry => (key entry, value entry)).length
      (writeMapHead entries.length) := by
    rw [List.length_map]
    exact isMapHead_writeMapHead short
  have map := Enclosed.map isHead (List.forall_mem_map.2 inside)
  rwa [List.flatMap_map] at map

end Enclosed

/-- The key of a pair table is a list of two integers. -/
theorem outline_pair (depth : Nat) (first second : Int) :
    Outline (depth + 1) (writeListHead 2 ++ writeInt first ++ writeInt second) := by
  have isHead : IsListHead [writeInt first, writeInt second].length (writeListHead 2) :=
    isListHead_writeListHead rfl
  have inside : ∀ item ∈ [writeInt first, writeInt second], Outline depth item :=
    List.forall_mem_cons.2 ⟨(bare_writeInt first).outline depth,
      List.forall_mem_singleton.2 ((bare_writeInt second).outline depth)⟩
  have list := Enclosed.list isHead inside
  rw [List.flatten_cons, List.flatten_singleton, ← List.append_assoc] at list
  exact .inr list

/-- Every short datum is written in an outline, whether or not the format keeps its numbers. -/
theorem outline_write (depth : Nat) {datum : Datum} (short : datum.isShort)
    (shallow : datum.depth ≤ depth) : Outline depth (write datum) := by
  match datum with
  | .null => exact Bare.null.outline depth
  | .bool true => exact Bare.boolTrue.outline depth
  | .bool false => exact Bare.boolFalse.outline depth
  | .int value => exact (bare_writeInt value).outline depth
  | .float value =>
      have bare : Bare (0xCB :: Bytes.bigEndian 8 value.bits.toNat) := bare_number (by decide) _
      exact bare.outline depth
  | .text value => exact (bare_writeText short).outline depth
  | .list items =>
      obtain ⟨inner, rfl, within⟩ := Shape.exists_depth_of_le shallow
      rw [Datum.isShort, Bool.and_eq_true, Datum.areShort_iff] at short
      rw [Datum.listDepth_le_iff] at within
      exact .inr (enclosed_list short.1 fun item member =>
        outline_write inner (short.2 item member) (within item member))
  | .object entries =>
      obtain ⟨inner, rfl, within⟩ := Shape.exists_depth_of_le shallow
      rw [Datum.isShort, Bool.and_eq_true, Datum.entriesShort_iff] at short
      rw [Datum.entriesDepth_le_iff] at within
      have enclosed : Enclosed (Outline inner) (writeMapHead entries.length ++
          entries.flatMap fun entry => writeText entry.1 ++ write entry.2) :=
        enclosed_map short.1 fun entry member =>
          ⟨(bare_writeText (short.2 entry member).1).outline inner,
            outline_write inner (short.2 entry member).2 (within entry member)⟩
      rw [write, writeEntries_eq_flatMap]
      exact .inr enclosed
  | .pairs entries =>
      obtain ⟨inner, rfl⟩ := Nat.exists_eq_add_of_le' shallow
      have enclosed : Enclosed (Outline (inner + 1)) (writeMapHead entries.length ++
          entries.flatMap fun entry => writeListHead 2 ++ writeInt entry.1.1 ++
            writeInt entry.1.2 ++ writeInt entry.2) :=
        enclosed_map short fun entry _ =>
          ⟨outline_pair inner entry.1.1 entry.1.2, (bare_writeInt entry.2).outline (inner + 1)⟩
      exact .inr enclosed

end Written

end Switchboard.MessagePack
