import Switchboard.Proofs.Json.Container

/-
This file shows what a reader of a JSON payload makes of a datum that was written, whatever shape it
was written for. A datum of the expected shape is read back, with blanks around it but with nothing
else behind it.
-/

namespace Switchboard.Json

/-- Only an open bracket leaves the rest of its value to be read. -/
def Head.isScalar : Head → Bool
  | .openList => false
  | .openObject => false
  | _ => true

/-- A datum without floating-point numbers is written under this head. -/
def Head.ofDatum : Datum → Head
  | .null => .null
  | .bool value => .bool value
  | .int value => .number (.integer value)
  | .float value => .number (.float value)
  | .text value => .text value
  | .list _ => .openList
  | .object _ => .openObject
  | .pairs _ => .openObject

/-- A datum is readable when the format keeps its numbers and the brackets fit into the depth. -/
structure Readable (depth : Nat) (datum : Datum) : Prop where
  plain : datum.hasPlainIntegers
  floatFree : datum.isFloatFree
  shallow : datum.depth ≤ depth

namespace Readable

variable {depth : Nat}

/-- The items of a readable list are readable one level below it. -/
theorem list {items : List Datum} (readable : Readable depth (.list items)) :
    ∃ inner, depth = inner + 1 ∧ ∀ item ∈ items, Readable inner item := by
  obtain ⟨plain, floatFree, shallow⟩ := readable
  obtain ⟨inner, same, within⟩ := Shape.exists_depth_of_le shallow
  rw [Datum.hasPlainIntegers, Datum.havePlainIntegers_iff] at plain
  rw [Datum.isFloatFree, Datum.areFloatFree_iff] at floatFree
  rw [Datum.listDepth_le_iff] at within
  exact ⟨inner, same, fun item member =>
    ⟨plain item member, floatFree item member, within item member⟩⟩

theorem object {entries : List (String × Datum)} (readable : Readable depth (.object entries)) :
    ∃ inner, depth = inner + 1 ∧ ∀ entry ∈ entries, Readable inner entry.2 := by
  obtain ⟨plain, floatFree, shallow⟩ := readable
  obtain ⟨inner, same, within⟩ := Shape.exists_depth_of_le shallow
  rw [Datum.hasPlainIntegers, Datum.entriesPlainIntegers_iff] at plain
  rw [Datum.isFloatFree, Datum.entriesFloatFree_iff] at floatFree
  rw [Datum.entriesDepth_le_iff] at within
  exact ⟨inner, same, fun entry member =>
    ⟨plain entry member, floatFree entry member, within entry member⟩⟩

theorem pairs {entries : List ((Int × Int) × Int)} (readable : Readable depth (.pairs entries)) :
    ∃ inner, depth = inner + 1 := by
  obtain ⟨inner, same, _⟩ := Shape.exists_depth_of_le readable.shallow
  exact ⟨inner, same⟩

end Readable

/-- The head of a written datum is read, and only behind a scalar reading goes on. -/
theorem readHead_write {depth : Nat} {datum : Datum} (readable : Readable depth datum)
    {payload rest : Bytes} (written : write datum = .ok payload)
    (ends : datum.isInteger → endsNumber rest) :
    readHead (payload ++ rest) = .ok (Head.ofDatum datum,
      if (Head.ofDatum datum).isScalar then rest else payload ++ rest) := by
  match datum with
  | .null =>
      rw [write, Except.ok.injEq] at written
      rw [← written]
      exact readHead_null rest
  | .bool true =>
      rw [write, Except.ok.injEq] at written
      rw [← written]
      exact readHead_true rest
  | .bool false =>
      rw [write, Except.ok.injEq] at written
      rw [← written]
      exact readHead_false rest
  | .int value =>
      rw [write, Except.ok.injEq] at written
      rw [← written]
      exact readHead_writeInt readable.plain (ends rfl)
  | .float value => exact Bool.noConfusion readable.floatFree
  | .text value =>
      rw [write, Except.ok.injEq] at written
      rw [← written]
      exact readHead_writeText rest value
  | .list [] | .object [] | .pairs [] =>
      rw [write, Except.ok.injEq] at written
      rw [← written]
      rfl
  | .list (item :: items) =>
      obtain ⟨first, _, others, _, same⟩ := write_list_cons.1 written
      rw [← same]
      rfl
  | .object ((key, value) :: entries) =>
      obtain ⟨first, _, others, _, same⟩ := write_object_cons.1 written
      rw [← same]
      rfl
  | .pairs (_ :: _) => simp [write] at written

theorem readAny_openList (depth : Nat) (bytes : Bytes) :
    readAny (depth + 1) (openList :: bytes) = readList (readAny depth) bytes := by
  rw [readAny, readHead_openList]
  rfl

theorem readAny_openObject (depth : Nat) (bytes : Bytes) :
    readAny (depth + 1) (openObject :: bytes) = readDictionary (readAny depth) bytes := by
  rw [readAny, readHead_openObject]
  rfl

/-- A scalar head is a whole value to a reader without expectations. -/
theorem readAny_of_readHead (depth : Nat) {bytes rest : Bytes} {head : Head}
    (read : readHead bytes = .ok (head, rest)) (scalar : head.isScalar) :
    readAny depth bytes = .ok (head.scalar, rest) := by
  cases depth with
  | zero =>
      rw [readAny, read]
      cases head with
      | openList | openObject => exact Bool.noConfusion scalar
      | null | bool _ | number _ | text _ => rfl
  | succ depth =>
      rw [readAny, read]
      cases head with
      | openList | openObject => exact Bool.noConfusion scalar
      | null | bool _ | number _ | text _ => rfl

/-- A reader without expectations settles what was written. -/
theorem readAny_write (depth : Nat) {datum : Datum} (readable : Readable depth datum) :
    Yields (readAny depth) datum datum.settle := by
  intro payload rest written ends
  have head := readHead_write readable written ends
  match datum with
  | .null | .bool _ | .int _ | .text _ => exact readAny_of_readHead depth head rfl
  | .float value => exact Bool.noConfusion readable.floatFree
  | .list items =>
      obtain ⟨inner, rfl, inside⟩ := readable.list
      have yields (item : Datum) (member : item ∈ items) : Yields (readAny inner) item item.settle :=
        readAny_write inner (inside item member)
      obtain ⟨bytes, same, follows⟩ := readList_write yields written rest
      rw [same, List.cons_append, readAny_openList, Datum.settle, Datum.settleItems_eq_mapM]
      exact follows
  | .object entries =>
      obtain ⟨inner, rfl, inside⟩ := readable.object
      have yields (entry : String × Datum) (member : entry ∈ entries) :
          Yields (readAny inner) entry.2 entry.2.settle :=
        readAny_write inner (inside entry member)
      obtain ⟨bytes, same, follows⟩ := readDictionary_write yields written rest
      rw [same, List.cons_append, readAny_openObject, Datum.settle, Datum.settleEntries_eq_mapM]
      exact follows
  | .pairs [] =>
      obtain ⟨inner, rfl⟩ := readable.pairs
      rw [write, Except.ok.injEq] at written
      rw [← written]
      exact readAny_openObject inner (closeObject :: rest)
  | .pairs (_ :: _) => simp [write] at written

theorem startsLikeNull_cons {datum : Datum} {byte : UInt8} (starts : StartsValue datum byte)
    (floatFree : datum.isFloatFree) (notNull : datum ≠ .null) (rest : Bytes) :
    startsLikeNull (skipBlanks (byte :: rest)) = false := by
  rw [skipBlanks_cons starts.solid, startsLikeNull, decide_eq_false_iff_not]
  exact fun same => notNull (starts.nullOnly floatFree same)

section Blanks

variable {blanks : Bytes} (all : AreBlanks blanks)
include all

theorem readAny_append (depth : Nat) (bytes : Bytes) :
    readAny depth (blanks ++ bytes) = readAny depth bytes := by
  cases depth with
  | zero => rw [readAny, readHead_append all, readAny]
  | succ depth => rw [readAny, readHead_append all, readAny]

/-- Blanks in front of a value do not change what is read, whatever is expected. -/
theorem readShape_append (shape : Shape) (depth : Nat) (bytes : Bytes) :
    readShape shape depth (blanks ++ bytes) = readShape shape depth bytes := by
  match shape with
  | .unit | .bool | .integer _ | .text | .list _ | .dictionary _ | .pair _ _ | .pairTable
  | .record _ _ => simp only [readShape, readHead_append all]
  | .optional content =>
      simp only [readShape, skipBlanks_append all, readHead_append all,
        readShape_append content depth bytes]
  | .any => rw [readShape, readAny_append all, readShape]

/-- No blank belongs to a number. -/
theorem endsNumber_of_areBlanks : endsNumber blanks := by
  have ends := endsNumber_append all (show endsNumber [] from rfl)
  rwa [List.append_nil] at ends

end Blanks

/-- A part is written when its bytes are those of a readable datum, whatever field it is for. -/
def Written (depth : Nat) (_ : String) (bytes : Bytes) (datum : Datum) : Prop :=
  write datum = .ok bytes ∧ Readable depth datum

theorem renders_readShape {shape : Shape} {depth : Nat} {name : String} {defaulted : Bool}
    (yields : ∀ {datum}, Readable depth datum →
      Yields (readShape shape depth) datum (shape.interpret datum)) :
    Renders (Written depth) ⟨name, defaulted, readShape shape depth⟩
      ⟨name, defaulted, shape.interpret⟩ :=
  ⟨rfl, rfl, fun _ bytes all => readShape_append all shape depth bytes,
    fun _ _ written rest ends => yields written.2 _ rest written.1 fun _ => ends⟩

/-- A record that was written as an object is read by its fields, whatever the others hold. -/
theorem readShape_object (name : String) {fields : Fields} {depth : Nat}
    (renders : List.Forall₂ (Renders (Written depth)) (readFields fields depth) fields.views)
    {entries : List (String × Datum)}
    (inside : ∀ entry ∈ entries, ∀ view,
      (fields.views.find? fun view => view.name = entry.1) = some view → Readable depth entry.2) :
    Yields (readShape (.record name fields) (depth + 1)) (.object entries)
      ((Shape.record name fields).interpret (.object entries)) := by
  intro payload rest written _
  obtain ⟨parts, rfl, all, rfl⟩ := write_object_eq_ok written
  have follows := readRecordObject_spelled renders
    (fun entry member known => ⟨all entry member, by
      obtain ⟨view, named⟩ := Option.isSome_iff_exists.1 known
      exact inside (Part.entry entry) (List.mem_map_of_mem member) view named⟩)
    (fun entry member _ => isSkipped_write (all entry member)) (spellsEntries_intercalate parts)
    fields rest
  rw [List.cons_append, List.append_assoc, readShape, readHead_openObject, Shape.interpret]
  exact follows

/-- A list that was written is read field by field, and everything in it is needed. -/
theorem readWhole_write {depth : Nat} {fields : List FieldReader} {views : List FieldView}
    (renders : List.Forall₂ (Renders (Written depth)) fields views) (expected : String)
    (finish : List (String × Datum) → Datum) {items : List Datum}
    (inside : ∀ item ∈ items, Readable depth item) {payload : Bytes}
    (written : write (.list items) = .ok payload) (rest : Bytes) :
    ∃ inner, payload = openList :: inner ∧
      Follows StopsFor
        (do
          let (entries, rest) ← readPositional expected 0 true fields (inner ++ rest)
          let (_, rest) ← readListEnd rest
          return (finish entries, rest))
        rest
        (do
          let entries ← FieldView.alignWhole expected views items
          return finish entries) := by
  obtain ⟨parts, rfl, all, rfl⟩ := write_list_eq_ok written
  have follows := readWhole_spellList renders expected finish
    (fun part member => startsItem_of_write (all part member))
    (fun pair member => ⟨all pair.2 (List.of_mem_zip member).2,
      inside pair.2.meaning (List.mem_map_of_mem (List.of_mem_zip member).2)⟩) rest
  refine ⟨[comma].intercalate (parts.map Part.bytes) ++ [closeList], rfl, ?_⟩
  rw [List.append_assoc]
  exact follows

mutual

/-- A reader follows the shape that it expects, whatever shape the datum was written for. -/
theorem readShape_write (shape : Shape) (depth : Nat) {datum : Datum}
    (readable : Readable depth datum) :
    Yields (readShape shape depth) datum (shape.interpret datum) := by
  intro payload rest written ends
  have head := readHead_write readable written ends
  match shape with
  | .unit =>
      rw [readShape, head, Shape.interpret.eq_def]
      cases datum with
      | null => exact rfl
      | bool _ | int _ | float _ | text _ | list _ | object _ | pairs _ => exact ⟨_, rfl⟩
  | .bool =>
      rw [readShape, head, Shape.interpret.eq_def]
      cases datum with
      | bool _ => exact rfl
      | null | int _ | float _ | text _ | list _ | object _ | pairs _ => exact ⟨_, rfl⟩
  | .integer type =>
      rw [readShape, head, Shape.interpret.eq_def]
      cases datum with
      | int value =>
          simp only [Head.ofDatum, ok_bind]
          cases type.accept value with
          | ok value => exact rfl
          | error cause => exact ⟨_, faultAt_stopsFor cause _, rfl⟩
      | null | bool _ | float _ | text _ | list _ | object _ | pairs _ => exact ⟨_, rfl⟩
  | .text =>
      rw [readShape, head, Shape.interpret.eq_def]
      cases datum with
      | text _ => exact rfl
      | null | bool _ | int _ | float _ | list _ | object _ | pairs _ => exact ⟨_, rfl⟩
  | .optional content =>
      by_cases absent : datum = .null
      · subst absent
        rw [write, Except.ok.injEq] at written
        rw [readShape, Shape.interpret.eq_def, ← written]
        exact rfl
      · obtain ⟨byte, more, same, starts⟩ := write_eq_cons written
        have present := readShape_write content depth readable payload rest written ends
        rw [same, List.cons_append] at present ⊢
        rw [readShape, startsLikeNull_cons starts readable.floatFree absent,
          if_neg Bool.false_ne_true, Shape.interpret_optional absent]
        exact present
  | .list item =>
      rw [readShape, head, Shape.interpret.eq_def]
      cases datum with
      | list items =>
          obtain ⟨inner, rfl, inside⟩ := readable.list
          have yields (each : Datum) (member : each ∈ items) :
              Yields (readShape item inner) each (item.interpret each) :=
            readShape_write item inner (inside each member)
          obtain ⟨bytes, same, follows⟩ := readList_write yields written rest
          rw [same]
          exact follows
      | null | bool _ | int _ | float _ | text _ | object _ | pairs _ => exact ⟨_, rfl⟩
  | .dictionary value =>
      rw [readShape, head, Shape.interpret.eq_def]
      cases datum with
      | object entries =>
          obtain ⟨inner, rfl, inside⟩ := readable.object
          have yields (entry : String × Datum) (member : entry ∈ entries) :
              Yields (readShape value inner) entry.2 (value.interpret entry.2) :=
            readShape_write value inner (inside entry member)
          obtain ⟨bytes, same, follows⟩ := readDictionary_write yields written rest
          rw [same]
          exact follows
      | pairs entries =>
          obtain ⟨inner, rfl⟩ := readable.pairs
          cases entries with
          | nil =>
              rw [write, Except.ok.injEq] at written
              rw [← written]
              exact rfl
          | cons entry entries => simp [write] at written
      | null | bool _ | int _ | float _ | text _ | list _ => exact ⟨_, rfl⟩
  | .pair first second =>
      rw [readShape, head, Shape.interpret.eq_def]
      cases datum with
      | list items =>
          obtain ⟨inner, rfl, inside⟩ := readable.list
          have renders : List.Forall₂ (Renders (Written inner))
              [⟨"first", false, readShape first inner⟩, ⟨"second", false, readShape second inner⟩]
              [⟨"first", false, first.interpret⟩, ⟨"second", false, second.interpret⟩] :=
            .cons (renders_readShape (readShape_write first inner))
              (.cons (renders_readShape (readShape_write second inner)) .nil)
          obtain ⟨bytes, same, follows⟩ := readWhole_write renders
            (Shape.pair first second).expected (fun found => .list (found.map Prod.snd)) inside
            written rest
          rw [same]
          exact follows
      | null | bool _ | int _ | float _ | text _ | object _ | pairs _ => exact ⟨_, rfl⟩
  | .pairTable =>
      rw [readShape, head, Shape.interpret.eq_def]
      cases datum with
      | object entries =>
          obtain ⟨inner, rfl, _⟩ := readable.object
          cases entries with
          | nil =>
              rw [write, Except.ok.injEq] at written
              rw [← written]
              exact rfl
          | cons entry entries =>
              obtain ⟨key, value⟩ := entry
              obtain ⟨first, _, others, _, same⟩ := write_object_cons.1 written
              have bytes : openObject :: writeText key ++ colon :: first ++ others ++ rest =
                  openObject :: (writeText key ++ (colon :: first ++ (others ++ rest))) := by
                simp only [List.cons_append, List.append_assoc]
              rw [← same, bytes]
              exact exists_fault_of_readPairTable _ key _
      | pairs entries =>
          obtain ⟨inner, rfl⟩ := readable.pairs
          cases entries with
          | nil =>
              rw [write, Except.ok.injEq] at written
              rw [← written]
              exact rfl
          | cons entry entries => simp [write] at written
      | null | bool _ | int _ | float _ | text _ | list _ => exact ⟨_, rfl⟩
  | .record name fields =>
      cases datum with
      | list items =>
          rw [readShape, head, Shape.interpret]
          obtain ⟨inner, rfl, inside⟩ := readable.list
          obtain ⟨bytes, same, follows⟩ := readWhole_write (readFields_render fields inner)
            (Shape.record name fields).expectedLength .object inside written rest
          rw [same]
          exact follows
      | object entries =>
          obtain ⟨inner, rfl, inside⟩ := readable.object
          exact readShape_object name (readFields_render fields inner)
            (fun entry member _ _ => inside entry member) payload rest written ends
      | pairs entries =>
          obtain ⟨inner, rfl⟩ := readable.pairs
          cases entries with
          | nil =>
              have empty : write (.object []) = .ok payload := written
              exact readShape_object name (readFields_render fields inner)
                (fun _ member => absurd member List.not_mem_nil) payload rest empty nofun
          | cons entry entries => simp [write] at written
      | null | bool _ | int _ | float _ | text _ =>
          rw [readShape, head, Shape.interpret.eq_def]
          exact ⟨_, rfl⟩
  | .any =>
      rw [readShape, Shape.interpret]
      exact readAny_write depth readable payload rest written ends

/-- Every field of a record is read like its view. -/
theorem readFields_render (fields : Fields) (depth : Nat) :
    List.Forall₂ (Renders (Written depth)) (readFields fields depth) fields.views := by
  match fields with
  | .nil => exact .nil
  | .cons name defaulted shape rest =>
      exact .cons (renders_readShape (readShape_write shape depth)) (readFields_render rest depth)

end

/-- A datum of a shape is read back as that shape. -/
theorem readShape_of_holds {shape : Shape} {depth : Nat} {datum : Datum} (regular : shape.isRegular)
    (held : shape.holds datum) (floatFree : datum.isFloatFree) (shallow : datum.depth ≤ depth)
    {payload : Bytes} (written : write datum = .ok payload) (rest : Bytes)
    (ends : datum.isInteger → endsNumber rest) :
    readShape shape depth (payload ++ rest) = .ok (datum, rest) := by
  have readable : Readable depth datum :=
    ⟨Shape.hasPlainIntegers_of_holds held, floatFree, shallow⟩
  have follows := readShape_write shape depth readable payload rest written ends
  rw [Shape.interpret_of_holds regular held] at follows
  exact follows

section Payload

variable {shape : Shape} {datum : Datum} (regular : shape.isRegular) (held : shape.holds datum)
  (floatFree : datum.isFloatFree) (shallow : datum.depth ≤ maximalDepth) {payload : Bytes}
  (written : write datum = .ok payload)
include regular held floatFree shallow written

/-- A whole payload is read back, with blanks on both sides of it. -/
theorem readPayload_write {before after : Bytes} (beforeBlank : AreBlanks before)
    (afterBlank : AreBlanks after) :
    readPayload shape (before ++ payload ++ after) = .ok datum := by
  have read := readShape_of_holds regular held floatFree shallow written after
    fun _ => endsNumber_of_areBlanks afterBlank
  rw [readPayload, List.append_assoc, readShape_append beforeBlank, read]
  simp only [ok_bind, skipBlanks_of_areBlanks afterBlank, pure_eq_ok]

/-- A payload is refused for every byte behind it that is not blank, unless that may be a digit. -/
theorem readPayload_write_append (delimited : ¬ datum.isInteger) {behind : Bytes} {byte : UInt8}
    (member : byte ∈ behind) (solid : isBlank byte = false) :
    readPayload shape (payload ++ behind) =
      .error (faultPast .trailingBytes (skipBlanks behind)) := by
  have read := readShape_of_holds regular held floatFree shallow written behind
    fun integer => absurd integer delimited
  have left := skipBlanks_ne_nil member solid
  obtain ⟨first, rest, same⟩ := List.exists_cons_of_ne_nil left
  rw [readPayload, read, same]
  simp only [ok_bind, same]

end Payload

end Switchboard.Json
