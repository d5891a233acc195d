import Mathlib.Data.List.Forall2
import Switchboard.Proofs.Interpretation
import Switchboard.Proofs.MessagePack.Skip

/-
This file shows what readers make of the lists and maps of a MessagePack payload, if it is known
what they make of the data inside.
-/

namespace Switchboard.MessagePack

/-- A fault words the mismatch that caused it. -/
def StopsFor (cause : Mismatch) (fault : Fault) : Prop := fault = .mismatch cause

/-- The reader resolves the bytes to the outcome and leaves what follows them. -/
def Resolves (reader : Reader Datum) (bytes : Bytes) (outcome : Except Refusal Datum) : Prop :=
  ∀ rest, Follows StopsFor (reader (bytes ++ rest)) rest outcome

/-- The reader turns the written datum into the outcome. -/
def Yields (reader : Reader Datum) (datum : Datum) (outcome : Except Refusal Datum) : Prop :=
  Resolves reader (write datum) outcome

/-- A mismatch stops a reader, and otherwise the reader goes on behind what it has read. -/
theorem follows_liftMismatch {α β : Type} (accepted : Except Mismatch α) (change : α → β)
    (rest : Bytes) :
    Follows StopsFor (do let value ← liftMismatch accepted; return (change value, rest)) rest
      (do let value ← Refusal.ofMismatch accepted; return change value) := by
  cases accepted with
  | ok value => exact rfl
  | error cause => exact ⟨_, rfl, rfl⟩

section Scalars

variable (rest : Bytes)

/-- An integer is taken whatever head it has, if its type has room for it. -/
theorem StartsWith.readInteger {bytes : Bytes} {head : Head} (starts : StartsWith bytes head)
    {value : Int} (scalar : head.scalar? = some (.int value)) (type : IntegerType) :
    Follows StopsFor (readInteger type (bytes ++ rest)) rest
      (Refusal.ofMismatch (type.accept value)) := by
  have accepts := follows_liftMismatch (type.accept value) id rest
  simp only [id, bind_pure] at accepts
  rw [MessagePack.readInteger, starts.readSimple]
  cases head with
  | unsigned number | signed number =>
      rw [Head.scalar?, Option.some.injEq, Datum.int.injEq] at scalar
      simp only [ok_bind, scalar]
      exact accepts
  | float number =>
      rw [Head.scalar?, Option.some.injEq, anyFloat] at scalar
      split at scalar <;> cases scalar
  | null | bool _ | text _ | bytes _ | list _ | map _ | extension _ => simp [Head.scalar?] at scalar

theorem readInteger_writeInt (type : IntegerType) {value : Int}
    (plain : Datum.isPlainInteger value) :
    Follows StopsFor (readInteger type (writeInt value ++ rest)) rest
      (Refusal.ofMismatch (type.accept value)) :=
  (startsWith_writeInt plain).readInteger rest (scalar?_integerHead value) type

theorem readText_encode (text : String) :
    readText (Text.Utf8.encode text).length (Text.Utf8.encode text ++ rest) = .ok (text, rest) := by
  rw [readText, readContent, readExactly_append]
  simp only [ok_bind, Text.Utf8.decode_encode]
  rfl

variable {text : String} (short : Datum.isShortText text) (depth : Nat)
include short

theorem readTextValue_writeText (expected : String) :
    readTextValue depth expected (writeText text ++ rest) = .ok (text, rest) := by
  rw [readTextValue, readHead_writeText short]
  simp only [ok_bind, readText_encode]

theorem readFirstKey_writeText :
    readFirstKey depth (writeText text ++ rest) = .ok (text, rest) := by
  rw [readFirstKey, readHead_writeText short]
  simp only [ok_bind, readText_encode]

end Scalars

section Items

variable {item : Reader Datum} {interpret : Datum → Except Refusal Datum}

/-- A list is read item by item. -/
theorem readItems_writeItems {items : List Datum}
    (yields : ∀ datum ∈ items, Yields item datum (interpret datum)) (rest : Bytes) :
    Follows StopsFor (readItems item items.length (writeItems items ++ rest)) rest
      (items.mapM interpret) := by
  induction items with
  | nil => exact rfl
  | cons datum items inductionHypothesis =>
      obtain ⟨headYields, tailYields⟩ := List.forall_mem_cons.1 yields
      rw [writeItems, List.append_assoc, List.length_cons, readItems, List.mapM_cons]
      exact (headYields _).bind fun value _ => (inductionHypothesis tailYields).map

end Items

section Entries

/-- One entry is a key and its value. -/
def readEntry {κ ν : Type} (key : Reader κ) (value : Reader ν) : Reader (κ × ν) := fun bytes => do
  let (name, rest) ← key bytes
  let (held, rest) ← value rest
  return ((name, held), rest)

theorem readEntries_succ {κ ν : Type} (key : Reader κ) (value : Reader ν) (count : Nat)
    (bytes : Bytes) :
    readEntries key value (count + 1) bytes = (do
      let (entry, rest) ← readEntry key value bytes
      let (more, rest) ← readEntries key value count rest
      return (entry :: more, rest)) := by
  simp only [readEntries, readEntry, bind_assoc, pure_bind]

/-- A map is read entry by entry. -/
theorem readEntries_flatMap {κ ν ε : Type} {key : Reader κ} {value : Reader ν}
    {writeEntry : ε → Bytes} {interpret : ε → Except Refusal (κ × ν)} {entries : List ε}
    (follows : ∀ entry ∈ entries, ∀ rest,
      Follows StopsFor (readEntry key value (writeEntry entry ++ rest)) rest (interpret entry))
    (rest : Bytes) :
    Follows StopsFor (readEntries key value entries.length (entries.flatMap writeEntry ++ rest))
      rest (entries.mapM interpret) := by
  induction entries with
  | nil => exact rfl
  | cons entry entries inductionHypothesis =>
      obtain ⟨head, tail⟩ := List.forall_mem_cons.1 follows
      rw [List.flatMap_cons, List.append_assoc, List.length_cons, readEntries_succ, List.mapM_cons]
      exact (head _).bind fun held _ => (inductionHypothesis tail).map

variable {value : Reader Datum} {interpret : Datum → Except Refusal Datum} (depth : Nat)

/-- The entries of an object are read like their values. -/
theorem readEntries_writeEntries (expected : String) {entries : List (String × Datum)}
    (short : ∀ entry ∈ entries, Datum.isShortText entry.1)
    (yields : ∀ entry ∈ entries, Yields value entry.2 (interpret entry.2)) (rest : Bytes) :
    Follows StopsFor (readEntries (readTextValue depth expected) value entries.length
      (writeEntries entries ++ rest)) rest (entries.mapM (interpretEntry interpret)) := by
  rw [writeEntries_eq_flatMap]
  refine readEntries_flatMap (fun entry member rest => ?_) rest
  rw [writeEntry, List.append_assoc, readEntry, readTextValue_writeText _ (short entry member),
    ok_bind, interpretEntry]
  exact (yields entry member rest).map

/-- Without expectations the first key has a reader of its own. -/
theorem readAnyEntries_writeEntries {entries : List (String × Datum)}
    (short : ∀ entry ∈ entries, Datum.isShortText entry.1)
    (yields : ∀ entry ∈ entries, Yields value entry.2 (interpret entry.2)) (rest : Bytes) :
    Follows StopsFor
      (readAnyEntries depth value entries.length (writeEntries entries ++ rest)) rest
      (entries.mapM (interpretEntry interpret)) := by
  cases entries with
  | nil => exact rfl
  | cons entry entries =>
      obtain ⟨headShort, tailShort⟩ := List.forall_mem_cons.1 short
      obtain ⟨headYields, tailYields⟩ := List.forall_mem_cons.1 yields
      have others :=
        readEntries_writeEntries depth Shape.text.expected tailShort tailYields rest
      rw [writeEntries, List.append_assoc, List.append_assoc, List.length_cons, readAnyEntries,
        readFirstKey_writeText _ headShort, ok_bind, List.mapM_cons, interpretEntry, bind_assoc]
      exact (headYields _).bind fun held _ => others.map

/-- The key of a pair table is a list, and no list is a text or the name of a field. -/
theorem exists_fault_of_writePairEntry (entry : (Int × Int) × Int) (rest : Bytes) :
    (∀ expected, ∃ fault,
      readTextValue depth expected (writePairEntry entry ++ rest) = .error fault) ∧
    (∃ fault, readFirstKey depth (writePairEntry entry ++ rest) = .error fault) ∧
    ∃ fault, readFieldKey depth (writePairEntry entry ++ rest) = .error fault := by
  have bytes : writePairEntry entry ++ rest = writeListHead 2 ++
      (writeInt entry.1.1 ++ (writeInt entry.1.2 ++ (writeInt entry.2 ++ rest))) := by
    simp only [writePairEntry, List.append_assoc]
  rw [bytes]
  refine ⟨fun expected => ?_, ?_, ?_⟩
  · rw [readTextValue, readHead_writeListHead (by decide)]
    simp only [ok_bind]
    exact exists_fault_of_refuse ..
  · rw [readFirstKey, readHead_writeListHead (by decide)]
    simp only [ok_bind]
    exact exists_fault_of_refuse ..
  · rw [readFieldKey, readHead_writeListHead (by decide)]
    simp only [ok_bind]
    exact exists_fault_of_refuse ..

/-- No text is a pair. -/
theorem exists_fault_of_readPairKey {key : String} (short : Datum.isShortText key)
    (expected : String) (rest : Bytes) :
    ∃ fault, readPairKey depth expected (writeText key ++ rest) = .error fault := by
  rw [readPairKey, readHead_writeText short]
  simp only [ok_bind]
  exact exists_fault_of_refuse ..

/-- Two integers make the key of a pair table, and a third one is the value. -/
theorem readEntry_writePairEntry (expected : String) {entry : (Int × Int) × Int}
    (plain : Datum.isPlainInteger entry.1.1 ∧ Datum.isPlainInteger entry.1.2 ∧
      Datum.isPlainInteger entry.2) (rest : Bytes) :
    Follows StopsFor
      (readEntry (readPairKey (depth + 1) expected) (readInteger .i32)
        (writePairEntry entry ++ rest)) rest (interpretPairEntry entry) := by
  obtain ⟨first, second, value⟩ := plain
  rw [writePairEntry, List.append_assoc, List.append_assoc, List.append_assoc, readEntry,
    readPairKey, readHead_writeListHead (by decide), interpretPairEntry]
  simp only [ok_bind, enter, readPairItems, bind_assoc, if_true, pure_bind]
  refine (readInteger_writeInt _ .i32 first).bind fun one _ => ?_
  refine (readInteger_writeInt _ .i32 second).bind fun two _ => ?_
  exact (readInteger_writeInt rest .i32 value).map

end Entries

section Parts

def spellEntry (entry : String × Bytes) : Bytes := writeText entry.1 ++ entry.2

/-- The bytes of an entry do not say more than its part does. -/
def spellPart (entry : String × Part) : Bytes := spellEntry (entry.1, entry.2.bytes)

/-- A name is held by a text or by a byte array, with any head that has room for its length. -/
inductive SpellsName (key : String) : Bytes → Prop where
  | text {head : Bytes} (isHead : IsTextHead (Text.Utf8.encode key).length head) :
    SpellsName key (head ++ Text.Utf8.encode key)
  | bytes {head : Bytes} (isHead : IsBytesHead (Text.Utf8.encode key).length head) :
    SpellsName key (head ++ Text.Utf8.encode key)

/-- The parts stand behind their names. -/
inductive SpellsEntries : List (String × Part) → Bytes → Prop where
  | none : SpellsEntries [] []
  | more {key : String} {name bytes : Bytes} {entries : List (String × Part)}
    (isName : SpellsName key name) (part : Part) (others : SpellsEntries entries bytes) :
    SpellsEntries ((key, part) :: entries) (name ++ (part.bytes ++ bytes))

theorem spellsName_writeText {key : String} (short : Datum.isShortText key) :
    SpellsName key (writeText key) := by
  obtain ⟨head, isHead, same⟩ := exists_isTextHead short
  rw [same]
  exact .text isHead

theorem spellsEntries_flatMap {entries : List (String × Part)}
    (short : ∀ entry ∈ entries, Datum.isShortText entry.1) :
    SpellsEntries entries (entries.flatMap spellPart) := by
  induction entries with
  | nil => exact .none
  | cons entry entries inductionHypothesis =>
      obtain ⟨here, others⟩ := List.forall_mem_cons.1 short
      rw [List.flatMap_cons, spellPart, spellEntry, List.append_assoc]
      exact .more (spellsName_writeText here) entry.2 (inductionHypothesis others)

/-- The key of a record entry is its name in every form. -/
theorem readFieldKey_of_spellsName {key : String} {name : Bytes} (isName : SpellsName key name)
    (depth : Nat) (rest : Bytes) :
    readFieldKey depth (name ++ rest) = .ok (.name (Text.Utf8.encode key), rest) := by
  cases isName with
  | text isHead | bytes isHead =>
      rw [List.append_assoc, readFieldKey, isHead.read]
      simp only [ok_bind, readContent, readExactly_append]
      rfl

end Parts

/--
The reader of a field makes of every part that is readable for it what the field says of its meaning.
-/
structure Renders (readable : String → Bytes → Datum → Prop) (field : FieldReader)
    (view : FieldView) : Prop where
  name : field.name = view.name
  defaulted : field.defaulted = view.defaulted
  resolves : ∀ bytes datum, readable view.name bytes datum →
    Resolves field.read bytes (view.interpret datum)

section Fields

variable {readable : String → Bytes → Datum → Prop} {fields : List FieldReader}
  {views : List FieldView} (renders : List.Forall₂ (Renders readable) fields views)
include renders

/-- A name finds a reader where it finds a field, and the reader is that of the field. -/
theorem find?_of_renders (key : String) :
    Option.Rel (Renders readable) ((FieldKey.name (Text.Utf8.encode key)).find? fields)
      (views.find? fun view => view.name = key) := by
  induction renders with
  | nil => exact .none
  | @cons field view fields views head _ inductionHypothesis =>
      rw [FieldKey.find?] at inductionHypothesis ⊢
      rw [List.find?_cons, List.find?_cons, head.name]
      by_cases same : view.name = key
      · rw [same, decide_eq_true rfl, decide_eq_true rfl]
        exact .some head
      · have different : Text.Utf8.encode view.name ≠ Text.Utf8.encode key :=
          fun equal => same (Text.Utf8.encode_inj.1 equal)
        rw [decide_eq_false same, decide_eq_false different]
        exact inductionHypothesis

section Items

variable {parts : List Part} (inside : ∀ pair ∈ (views.map FieldView.name).zip parts,
  readable pair.1 pair.2.bytes pair.2.meaning)
include inside

/--
The fields take the next items one by one. Items that are announced but not among the parts do not
count as long as no field is left for them.
-/
theorem readPositional_items (expected : String) (index : Nat) {extra : Nat}
    (enough : parts.length < fields.length → extra = 0) (rest : Bytes) :
    Follows StopsFor
      (readPositional expected index (parts.length + extra) fields
        (parts.flatMap Part.bytes ++ rest))
      ((parts.drop fields.length).flatMap Part.bytes ++ rest)
      (FieldView.align expected index views (parts.map Part.meaning)) := by
  induction renders generalizing index parts with
  | nil =>
      rw [readPositional]
      exact rfl
  | @cons field view fields views head _ inductionHypothesis =>
      cases parts with
      | nil =>
          have none : extra = 0 := enough (Nat.succ_pos _)
          have nothing : ∀ pair ∈ (views.map FieldView.name).zip ([] : List Part),
              readable pair.1 pair.2.bytes pair.2.meaning := by
            rw [List.zip_nil_right]
            exact nofun
          have absent := inductionHypothesis nothing (index + 1) fun _ => none
          rw [List.drop_nil] at absent
          rw [none] at absent ⊢
          rw [List.length_nil, readPositional, List.map_nil, FieldView.align, head.defaulted,
            head.name]
          cases view.defaulted with
          | false => exact ⟨_, rfl, rfl⟩
          | true => exact absent.map
      | cons part parts =>
          rw [List.map_cons, List.zip_cons_cons] at inside
          obtain ⟨here, others⟩ := List.forall_mem_cons.1 inside
          have more := inductionHypothesis others (index + 1)
            fun fewer => enough (Nat.succ_lt_succ fewer)
          rw [List.flatMap_cons, List.append_assoc, List.length_cons, Nat.succ_add,
            readPositional, List.map_cons, FieldView.align, head.name]
          exact (head.resolves _ _ here _).bind fun value _ => more.map

/-- A list that is read field by field is read to its end. -/
theorem readFieldItems_spelled (expected : String) (rest : Bytes) :
    Follows StopsFor
      (readFieldItems expected fields parts.length (parts.flatMap Part.bytes ++ rest)) rest
      (FieldView.alignWhole expected views (parts.map Part.meaning)) := by
  rw [readFieldItems, FieldView.alignWhole, renders.length_eq, List.length_map]
  have follows := readPositional_items renders inside expected 0 (fun _ => rfl) rest
  refine follows.bind fun entries _ => ?_
  by_cases surplus : views.length < parts.length
  · simp only [if_pos surplus]
    exact ⟨_, rfl⟩
  · simp only [if_neg surplus]
    rw [renders.length_eq, List.drop_eq_nil_of_le (Nat.le_of_not_lt surplus)]
    exact rfl

end Items

section Named

/-- An entry is collected or skipped, and the entries behind it are collected then. -/
theorem readNamed_succ {depth : Nat} {key : String} {name : Bytes} {part : Part}
    (isName : SpellsName key name)
    (inside : (views.find? fun view => view.name = key).isSome →
      readable key part.bytes part.meaning)
    (skipped : (views.find? fun view => view.name = key) = none → IsSkipped depth part.bytes)
    {entries : List (String × Datum)} {count : Nat} {bytes rest : Bytes}
    (more : ∀ found, Follows StopsFor (readNamed depth fields count found bytes) rest
      (FieldView.collect views found entries)) (found : List (String × Datum)) :
    Follows StopsFor
      (readNamed depth fields (count + 1) found (name ++ (part.bytes ++ bytes))) rest
      (FieldView.collect views found ((key, part.meaning) :: entries)) := by
  have related := find?_of_renders renders key
  rw [readNamed, readFieldKey_of_spellsName isName, ok_bind, FieldView.collect]
  cases named : views.find? fun view => view.name = key with
  | none =>
      rw [named] at related
      cases unnamed : (FieldKey.name (Text.Utf8.encode key)).find? fields with
      | some field => simp [unnamed] at related
      | none =>
          simp only [unnamed, skipped named bytes, ok_bind]
          exact more found
  | some view =>
      rw [named] at related
      cases same : (FieldKey.name (Text.Utf8.encode key)).find? fields with
      | none => simp [same] at related
      | some field =>
          rw [same, Option.rel_some_some] at related
          have chosen := List.find?_some named
          have isKey : view.name = key := of_decide_eq_true chosen
          have sameName : field.name = key := related.name.trans isKey
          simp only [same, sameName]
          split
          · exact ⟨_, rfl, rfl⟩
          · have readable := inside (by rw [named]; rfl)
            rw [← isKey] at readable
            exact (related.resolves _ _ readable bytes).bind fun value _ => more _

/-- A record that is spelled as a map is read entry by entry. -/
theorem readNamed_spelled {depth : Nat} {entries : List (String × Part)} {bytes : Bytes}
    (spelled : SpellsEntries entries bytes)
    (inside : ∀ entry ∈ entries, (views.find? fun view => view.name = entry.1).isSome →
      readable entry.1 entry.2.bytes entry.2.meaning)
    (skipped : ∀ entry ∈ entries, (views.find? fun view => view.name = entry.1) = none →
      IsSkipped depth entry.2.bytes)
    (found : List (String × Datum)) (rest : Bytes) :
    Follows StopsFor (readNamed depth fields entries.length found (bytes ++ rest)) rest
      (FieldView.collect views found (entries.map Part.entry)) := by
  induction spelled generalizing found with
  | none => exact rfl
  | more isName part _ inductionHypothesis =>
      obtain ⟨here, others⟩ := List.forall_mem_cons.1 inside
      obtain ⟨hereSkipped, othersSkipped⟩ := List.forall_mem_cons.1 skipped
      rw [List.append_assoc, List.append_assoc, List.length_cons]
      exact readNamed_succ renders isName here hereSkipped
        (fun found => inductionHypothesis others othersSkipped found) found

end Named

end Fields

section Written

/-- A part is written when its bytes are those of a readable datum, whatever field it is for. -/
def Written (depth : Nat) (_ : String) (bytes : Bytes) (datum : Datum) : Prop :=
  bytes = write datum ∧ Readable depth datum

theorem renders_readShape {depth : Nat} {reader : Reader Datum}
    {interpret : Datum → Except Refusal Datum} {name : String} {defaulted : Bool}
    {ofByte : UInt8 → Except Mismatch Datum}
    (yields : ∀ {datum}, Readable depth datum → Yields reader datum (interpret datum)) :
    Renders (Written depth) ⟨name, defaulted, reader, ofByte⟩ ⟨name, defaulted, interpret⟩ :=
  ⟨rfl, rfl, fun _ _ written => written.1 ▸ yields written.2⟩

/-- A datum is the meaning of its written bytes. -/
def partOf (datum : Datum) : Part := ⟨write datum, datum⟩

def entryOf (entry : String × Datum) : String × Part := (entry.1, partOf entry.2)

theorem writeItems_eq_flatMap (items : List Datum) :
    writeItems items = (items.map partOf).flatMap Part.bytes := by
  rw [writeItems_eq_flatten, List.flatMap_map, List.flatMap_def]
  rfl

variable {depth : Nat} {fields : List FieldReader} {views : List FieldView}
  (renders : List.Forall₂ (Renders (Written depth)) fields views)
include renders

/-- A list that was written is read field by field, and everything in it is needed. -/
theorem readFieldItems_writeItems (expected : String) {items : List Datum}
    (inside : ∀ item ∈ items, Readable depth item) (rest : Bytes) :
    Follows StopsFor
      (readFieldItems expected fields items.length (writeItems items ++ rest)) rest
      (FieldView.alignWhole expected views items) := by
  have written (pair : String × Part)
      (member : pair ∈ (views.map FieldView.name).zip (items.map partOf)) :
      Written depth pair.1 pair.2.bytes pair.2.meaning := by
    obtain ⟨item, present, same⟩ := List.mem_map.1 (List.of_mem_zip member).2
    rw [← same]
    exact ⟨rfl, inside item present⟩
  have meanings : (items.map partOf).map Part.meaning = items := by
    rw [List.map_map]
    exact List.map_id items
  have follows := readFieldItems_spelled renders written expected rest
  rwa [List.length_map, ← writeItems_eq_flatMap, meanings] at follows

/-- A record that was written as a map is read entry by entry. -/
theorem readNamed_writeEntries {entries : List (String × Datum)}
    (inside : ∀ entry ∈ entries, Datum.isShortText entry.1 ∧ Readable depth entry.2)
    (found : List (String × Datum)) (rest : Bytes) :
    Follows StopsFor
      (readNamed depth fields entries.length found (writeEntries entries ++ rest)) rest
      (FieldView.collect views found entries) := by
  have written : ∀ entry ∈ entries.map entryOf, Datum.isShortText entry.1 ∧
      Written depth entry.1 entry.2.bytes entry.2.meaning :=
    List.forall_mem_map.2 fun entry member => ⟨(inside entry member).1, rfl, (inside entry member).2⟩
  have skipped (entry : String × Part) (member : entry ∈ entries.map entryOf) :
      IsSkipped depth entry.2.bytes := by
    obtain ⟨same, readable⟩ := (written entry member).2
    rw [same]
    exact isSkipped_write readable.short readable.shallow
  have spelled := spellsEntries_flatMap fun entry member => (written entry member).1
  have bytes : (entries.map entryOf).flatMap spellPart = writeEntries entries := by
    rw [List.flatMap_map, writeEntries_eq_flatMap]
    rfl
  have meanings : (entries.map entryOf).map Part.entry = entries := by
    rw [List.map_map]
    exact List.map_id entries
  rw [bytes] at spelled
  have follows := readNamed_spelled renders spelled (fun entry member _ => (written entry member).2)
    (fun entry member _ => skipped entry member) found rest
  rwa [List.length_map, meanings] at follows

end Written

end Switchboard.MessagePack
