import Mathlib.Data.List.Forall2
import Switchboard.Json.Reader
import Switchboard.Proofs.Interpretation
import Switchboard.Proofs.Json.Skip

/-
This file shows what readers make of the lists and objects of a JSON payload, if it is known what
they make of the data inside.
-/

namespace Switchboard.Json

/-- A fault words the mismatch that caused it. -/
def StopsFor (cause : Mismatch) (fault : Fault) : Prop := fault.cause = .mismatch cause

/--
The reader turns the written datum into the outcome, and it leaves what follows the datum, which
must not continue a number.
-/
def Yields (reader : Reader Datum) (datum : Datum) (outcome : Except Refusal Datum) : Prop :=
  ∀ payload rest, write datum = .ok payload → (datum.isInteger → endsNumber rest) →
    Follows StopsFor (reader (payload ++ rest)) rest outcome

section Separators

variable {item : Bytes} (starts : StartsItem item) (rest : Bytes)
include starts

theorem nextItem_first : nextItem true (item ++ rest) = .ok (.item, item ++ rest) := by
  obtain ⟨byte, more, same, solid, notClose⟩ := starts
  simp only [nextItem, same, List.cons_append, skipBlanks_cons solid, if_neg notClose, if_true]

theorem nextItem_later : nextItem false (comma :: (item ++ rest)) = .ok (.item, item ++ rest) := by
  obtain ⟨byte, more, same, solid, notClose⟩ := starts
  have separator : skipBlanks (comma :: (item ++ rest)) = comma :: (item ++ rest) :=
    skipBlanks_cons (by decide) _
  rw [nextItem, separator]
  simp only [if_neg (show ¬ comma = closeList by decide), if_neg Bool.false_ne_true, if_true, same,
    List.cons_append, skipBlanks_cons solid, if_neg notClose]

end Separators

theorem nextKey_first (rest : Bytes) : nextKey true (quote :: rest) = .ok (.item, rest) := rfl

theorem nextKey_later (rest : Bytes) :
    nextKey false (comma :: quote :: rest) = .ok (.item, rest) := rfl

theorem readColon_colon (rest : Bytes) : readColon (colon :: rest) = .ok ((), rest) := rfl

theorem readListEnd_close (rest : Bytes) : readListEnd (closeList :: rest) = .ok ((), rest) := rfl

/-- Nothing but a closing bracket ends a list. -/
theorem StartsItem.exists_fault_of_readListEnd {bytes : Bytes} (starts : StartsItem bytes) :
    ∃ fault, readListEnd bytes = .error fault := by
  obtain ⟨byte, more, rfl, solid, notClose⟩ := starts
  rw [readListEnd, skipBlanks_cons solid]
  simp only [if_neg notClose]
  split
  · split
    · exact ⟨_, rfl⟩
    · split
      · exact ⟨_, rfl⟩
      · exact ⟨_, rfl⟩
  · exact ⟨_, rfl⟩

theorem readObjectEnd_close (rest : Bytes) :
    readObjectEnd (closeObject :: rest) = .ok ((), rest) := rfl

theorem faultAt_stopsFor (cause : Mismatch) (bytes : Bytes) :
    StopsFor cause (faultAt (.mismatch cause) bytes) := rfl

theorem listFault_stopsFor (cause : Mismatch) (bytes : Bytes) :
    StopsFor cause (listFault cause bytes) := by
  rw [StopsFor, listFault]
  split
  · rfl
  · split
    · rfl
    · split <;> rfl

theorem objectFault_stopsFor (cause : Mismatch) (bytes : Bytes) :
    StopsFor cause (objectFault cause bytes) := by
  rw [StopsFor, objectFault]
  split
  · rfl
  · split <;> rfl

section Items

variable {item : Reader Datum} {interpret : Datum → Except Refusal Datum}

/-- The items after the first one are read up to the closing bracket. -/
theorem readItems_writeItems {items : List Datum}
    (yields : ∀ datum ∈ items, Yields item datum (interpret datum)) {others : Bytes}
    (written : writeItems items = .ok others) {bound : Bytes}
    (room : others.length ≤ bound.length) (rest : Bytes) :
    Follows StopsFor (readItems item bound false (others ++ rest)) (closeList :: rest)
      (items.mapM interpret) := by
  induction items generalizing others bound with
  | nil =>
      rw [writeItems, Except.ok.injEq] at written
      rw [← written] at room ⊢
      cases bound with
      | nil => simp at room
      | cons mark bound => exact rfl
  | cons datum items inductionHypothesis =>
      obtain ⟨first, firstWritten, later, laterWritten, same⟩ := writeItems_cons.1 written
      obtain ⟨headYields, tailYields⟩ := List.forall_mem_cons.1 yields
      rw [← same] at room ⊢
      simp only [List.length_append, List.length_cons] at room
      cases bound with
      | nil => simp at room
      | cons mark bound =>
          have next := nextItem_later (startsItem_of_write firstWritten) (later ++ rest)
          have head := headYields first (later ++ rest) firstWritten
            fun _ => endsNumber_writeItems laterWritten rest
          have tail := inductionHypothesis tailYields laterWritten
            (show later.length ≤ bound.length by rw [List.length_cons] at room; omega)
          rw [List.cons_append, List.cons_append, List.append_assoc, readItems, next, ok_bind,
            List.mapM_cons]
          exact head.bind fun value _ => tail.map

/-- The first item is not preceded by a separator. -/
theorem readItems_write {datum : Datum} {items : List Datum}
    (yields : ∀ other ∈ datum :: items, Yields item other (interpret other))
    {first others : Bytes} (firstWritten : write datum = .ok first)
    (othersWritten : writeItems items = .ok others) {bound : Bytes}
    (room : others.length < bound.length) (rest : Bytes) :
    Follows StopsFor (readItems item bound true (first ++ (others ++ rest))) (closeList :: rest)
      ((datum :: items).mapM interpret) := by
  obtain ⟨headYields, tailYields⟩ := List.forall_mem_cons.1 yields
  have next := nextItem_first (startsItem_of_write firstWritten) (others ++ rest)
  have head := headYields first (others ++ rest) firstWritten
    fun _ => endsNumber_writeItems othersWritten rest
  cases bound with
  | nil => simp at room
  | cons mark bound =>
      have tail := readItems_writeItems tailYields othersWritten (Nat.le_of_lt_succ room) rest
      rw [readItems, next, ok_bind, List.mapM_cons]
      exact head.bind fun value _ => tail.map

/-- A list is read item by item. -/
theorem readList_write {items : List Datum}
    (yields : ∀ datum ∈ items, Yields item datum (interpret datum)) {payload : Bytes}
    (written : write (.list items) = .ok payload) (rest : Bytes) :
    ∃ inner, payload = openList :: inner ∧
      Follows StopsFor (readList item (inner ++ rest)) rest
        (do let values ← items.mapM interpret; return .list values) := by
  cases items with
  | nil =>
      rw [write, Except.ok.injEq] at written
      exact ⟨[closeList], written.symm, rfl⟩
  | cons datum items =>
      obtain ⟨first, firstWritten, others, othersWritten, same⟩ := write_list_cons.1 written
      have long := (startsItem_of_write firstWritten).length_pos
      have room : others.length < (first ++ (others ++ rest)).length := by
        simp only [List.length_append]
        omega
      refine ⟨first ++ others, same.symm, ?_⟩
      rw [List.append_assoc, readList]
      exact (readItems_write yields firstWritten othersWritten room rest).bind fun _ _ => rfl

end Items

section Entries

variable {value : Reader Datum} {interpret : Datum → Except Refusal Datum}

/-- The entries after the first one are read up to the closing brace. -/
theorem readEntries_writeEntries {entries : List (String × Datum)}
    (yields : ∀ entry ∈ entries, Yields value entry.2 (interpret entry.2)) {others : Bytes}
    (written : writeEntries entries = .ok others) {bound : Bytes}
    (room : others.length ≤ bound.length) (rest : Bytes) :
    Follows StopsFor (readEntries value bound false (others ++ rest)) (closeObject :: rest)
      (entries.mapM (interpretEntry interpret)) := by
  induction entries generalizing others bound with
  | nil =>
      rw [writeEntries, Except.ok.injEq] at written
      rw [← written] at room ⊢
      cases bound with
      | nil => simp at room
      | cons mark bound => exact rfl
  | cons entry entries inductionHypothesis =>
      obtain ⟨key, datum⟩ := entry
      obtain ⟨first, firstWritten, later, laterWritten, same⟩ := writeEntries_cons.1 written
      obtain ⟨headYields, tailYields⟩ := List.forall_mem_cons.1 yields
      rw [← same] at room ⊢
      simp only [List.length_append, List.length_cons] at room
      cases bound with
      | nil => simp at room
      | cons mark bound =>
          have head := headYields first (later ++ rest) firstWritten
            fun _ => endsNumber_writeEntries laterWritten rest
          have tail := inductionHypothesis tailYields laterWritten
            (show later.length ≤ bound.length by rw [List.length_cons] at room; omega)
          have bytes : comma :: writeText key ++ colon :: first ++ later ++ rest =
              comma :: quote :: (key.toList.flatMap writeChar ++
                quote :: colon :: (first ++ (later ++ rest))) := by
            simp only [List.cons_append, List.append_assoc, writeText_append]
          rw [bytes, readEntries, nextKey_later]
          simp only [ok_bind, readText_flatMap_writeChar, readColon_colon]
          rw [List.mapM_cons, interpretEntry, bind_assoc]
          exact head.bind fun read _ => tail.map

/-- The first entry is not preceded by a separator. -/
theorem readEntries_write {key : String} {datum : Datum} {entries : List (String × Datum)}
    (yields : ∀ entry ∈ (key, datum) :: entries, Yields value entry.2 (interpret entry.2))
    {first others : Bytes} (firstWritten : write datum = .ok first)
    (othersWritten : writeEntries entries = .ok others) {bound : Bytes}
    (room : others.length < bound.length) (rest : Bytes) :
    Follows StopsFor
      (readEntries value bound true (writeText key ++ (colon :: (first ++ (others ++ rest)))))
      (closeObject :: rest) (((key, datum) :: entries).mapM (interpretEntry interpret)) := by
  obtain ⟨headYields, tailYields⟩ := List.forall_mem_cons.1 yields
  have head := headYields first (others ++ rest) firstWritten
    fun _ => endsNumber_writeEntries othersWritten rest
  cases bound with
  | nil => simp at room
  | cons mark bound =>
      have tail := readEntries_writeEntries tailYields othersWritten (Nat.le_of_lt_succ room) rest
      rw [writeText_append, readEntries, nextKey_first]
      simp only [ok_bind, readText_flatMap_writeChar, readColon_colon]
      rw [List.mapM_cons, interpretEntry, bind_assoc]
      exact head.bind fun read _ => tail.map

/-- An object is read entry by entry, and its entries are put in order. -/
theorem readDictionary_write {entries : List (String × Datum)}
    (yields : ∀ entry ∈ entries, Yields value entry.2 (interpret entry.2)) {payload : Bytes}
    (written : write (.object entries) = .ok payload) (rest : Bytes) :
    ∃ inner, payload = openObject :: inner ∧
      Follows StopsFor (readDictionary value (inner ++ rest)) rest
        (do
          let values ← entries.mapM (interpretEntry interpret)
          return .object (Ascending.ofList values)) := by
  cases entries with
  | nil =>
      rw [write, Except.ok.injEq] at written
      exact ⟨[closeObject], written.symm, rfl⟩
  | cons entry entries =>
      obtain ⟨key, datum⟩ := entry
      obtain ⟨first, firstWritten, others, othersWritten, same⟩ := write_object_cons.1 written
      refine ⟨writeText key ++ colon :: first ++ others, ?_, ?_⟩
      · rw [← same, List.cons_append, List.cons_append]
      have bytes : writeText key ++ colon :: first ++ others ++ rest =
          writeText key ++ (colon :: (first ++ (others ++ rest))) := by
        simp only [List.cons_append, List.append_assoc]
      have room : others.length <
          (writeText key ++ (colon :: (first ++ (others ++ rest)))).length := by
        simp only [List.length_append, List.length_cons]
        omega
      rw [bytes, readDictionary]
      exact (readEntries_write yields firstWritten othersWritten room rest).bind fun _ _ => rfl

end Entries

/-- A key of an object is no pair. -/
theorem exists_fault_of_readPairTable (expectedKey key : String) (bytes : Bytes) :
    ∃ fault, readPairTable expectedKey (writeText key ++ bytes) = .error fault := by
  rw [writeText_append, readPairTable, nextKey_first]
  simp only [ok_bind, readText_flatMap_writeChar]
  exact ⟨_, rfl⟩

section Parts

/-- The reader resolves a part of a record to the outcome and leaves what ends the part. -/
def Resolves (reader : Reader Datum) (bytes : Bytes) (outcome : Except Refusal Datum) : Prop :=
  ∀ rest, endsNumber rest → Follows StopsFor (reader (bytes ++ rest)) rest outcome

/-- The bytes of a part stand where its value is expected. -/
def IsPart (token : Bytes) (part : Part) : Prop := part.bytes = token

/-- Nothing but blanks stands between the braces, or entries with blanks around their tokens. -/
inductive SpellsEntries : List (String × Part) → Bytes → Prop where
  | none {blanks : Bytes} (all : AreBlanks blanks) : SpellsEntries [] blanks
  | some {inner : Bytes} {entries : List (String × Part)}
    (separated : Separated (Padded (Entry IsPart)) inner entries) : SpellsEntries entries inner

theorem entry_spellPart (entry : String × Part) :
    Padded (Entry IsPart) (spellPart entry) entry := by
  have isEntry : Entry IsPart (spellPart entry) entry :=
    .colon (isText_writeText entry.1) areBlanks_nil areBlanks_nil rfl
  have padded := Padded.blanks areBlanks_nil isEntry areBlanks_nil
  rwa [List.nil_append, List.append_nil] at padded

/-- Written entries have no blanks between them. -/
theorem spellsEntries_intercalate (entries : List (String × Part)) :
    SpellsEntries entries ([comma].intercalate (entries.map spellPart)) := by
  cases entries with
  | nil => exact .none areBlanks_nil
  | cons first others =>
      have separated := separated_intercalate fun entry (_ : entry ∈ first :: others) =>
        entry_spellPart entry
      rw [List.map_id'] at separated
      exact .some separated

/-- An entry takes at least the quotes of its key. -/
theorem Entry.length_pos {α : Type} {value : Bytes → α → Prop} {run : Bytes} {entry : String × α}
    (isEntry : Entry value run entry) : 0 < run.length := by
  obtain ⟨⟨_⟩, _, _, _⟩ := isEntry
  exact Nat.succ_pos _

/-- An entry is opened by its key, and only the value behind the colon is left to be read. -/
theorem Entry.opens {α : Type} {value : Bytes → α → Prop} {run : Bytes} {key : String} {meaning : α}
    (isEntry : Entry value run (key, meaning)) {first : Bool} {gap : Bytes}
    (isGap : Separates first gap) (rest : Bytes) :
    ∃ behindQuote behindKey blanks token, value token meaning ∧ AreBlanks blanks ∧
      nextKey first (gap ++ (run ++ rest)) = .ok (.item, behindQuote) ∧
      readText behindQuote = .ok (key, behindKey) ∧
      readColon behindKey = .ok ((), blanks ++ (token ++ rest)) := by
  obtain @⟨_, before, after, token, _, _, isKey, isBefore, isAfter, isValue⟩ := isEntry
  obtain @⟨raw, _, content⟩ := isKey
  refine ⟨raw ++ quote :: (before ++ Json.colon :: (after ++ (token ++ rest))), _, after, token,
    isValue, isAfter, ?_, readText_eq_ok.2 ⟨raw, content, rfl⟩,
    readColon_eq_ok.2 ⟨before, isBefore, rfl⟩⟩
  refine nextKey_eq_item.2 ⟨gap, isGap, ?_⟩
  simp only [List.append_assoc, List.cons_append, List.nil_append]

end Parts

/--
The reader of a field makes of every part that is readable for it what the field says of its
meaning, with blanks in front of the part or without them.
-/
structure Renders (readable : String → Bytes → Datum → Prop) (field : FieldReader)
    (view : FieldView) : Prop where
  name : field.name = view.name
  defaulted : field.defaulted = view.defaulted
  blanks : ∀ before bytes, AreBlanks before → field.read (before ++ bytes) = field.read bytes
  resolves : ∀ bytes datum, readable view.name bytes datum →
    Resolves field.read bytes (view.interpret datum)

section Fields

variable {readable : String → Bytes → Datum → Prop} {fields : List FieldReader}
  {views : List FieldView} (renders : List.Forall₂ (Renders readable) fields views)
include renders

/-- A name finds a reader where it finds a field, and the reader is that of the field. -/
theorem find?_of_renders (key : String) :
    Option.Rel (Renders readable) (FieldReader.find? key fields)
      (views.find? fun view => view.name = key) := by
  induction renders with
  | nil => exact .none
  | @cons field view fields views head _ inductionHypothesis =>
      rw [FieldReader.find?, List.find?_cons, head.name]
      by_cases same : view.name = key
      · rw [if_pos same, decide_eq_true same]
        exact .some head
      · rw [if_neg same, decide_eq_false same]
        exact inductionHypothesis

/-- Where no item is left, only defaulted fields may be. -/
theorem readPositional_close (expected : String) (index : Nat) (first : Bool) (rest : Bytes) :
    Follows StopsFor (readPositional expected index first fields (closeList :: rest))
      (closeList :: rest) (FieldView.align expected index views []) := by
  induction renders generalizing index with
  | nil => exact rfl
  | @cons field view fields views head _ inductionHypothesis =>
      have next : nextItem first (closeList :: rest) = .ok (.closed, closeList :: rest) := rfl
      rw [readPositional, next, ok_bind, FieldView.align]
      simp only [head.defaulted, head.name]
      cases view.defaulted with
      | false =>
          exact ⟨_, listFault_stopsFor (.invalidLength index expected) (closeList :: rest), rfl⟩
      | true => exact (inductionHypothesis (index + 1)).map

section Items

variable {parts : List Part} (starts : ∀ part ∈ parts, StartsItem part.bytes)
  (inside : ∀ pair ∈ (views.map FieldView.name).zip parts,
    readable pair.1 pair.2.bytes pair.2.meaning)
  {rest : Bytes} (ends : endsNumber rest)
include starts inside ends

/--
The fields after the first one take the next items, and the rest of the items stays. Only the end of
the list tells that items are missing.
-/
theorem readPositional_items (expected : String) (index : Nat)
    (closes : parts.length < fields.length → ∃ more, rest = closeList :: more) :
    Follows StopsFor
      (readPositional expected index false fields (joinItems (parts.map Part.bytes) ++ rest))
      (joinItems ((parts.drop fields.length).map Part.bytes) ++ rest)
      (FieldView.align expected index views (parts.map Part.meaning)) := by
  induction renders generalizing index parts with
  | nil => exact rfl
  | @cons field view fields views head tail inductionHypothesis =>
      cases parts with
      | nil =>
          obtain ⟨more, rfl⟩ := closes (Nat.succ_pos _)
          exact readPositional_close (.cons head tail) expected index false more
      | cons part parts =>
          rw [List.map_cons, List.zip_cons_cons] at inside
          obtain ⟨here, others⟩ := List.forall_mem_cons.1 inside
          obtain ⟨hereStarts, othersStart⟩ := List.forall_mem_cons.1 starts
          have next := nextItem_later hereStarts (joinItems (parts.map Part.bytes) ++ rest)
          have first := head.resolves _ _ here _ (endsNumber_joinItems (parts.map Part.bytes) ends)
          have later := inductionHypothesis othersStart others (index + 1)
            fun fewer => closes (Nat.succ_lt_succ fewer)
          rw [List.map_cons, joinItems_cons, readPositional, next, ok_bind, List.map_cons,
            FieldView.align]
          simp only [head.name]
          exact first.bind fun value _ => later.map

/-- The first field is not preceded by a separator. Where items are left, the list does not end. -/
theorem readPositional_first (expected : String)
    (closes : parts.length < fields.length → ∃ more, rest = closeList :: more) :
    ∃ left,
      Follows StopsFor (readPositional expected 0 true fields
        ([comma].intercalate (parts.map Part.bytes) ++ rest)) left
        (FieldView.align expected 0 views (parts.map Part.meaning)) ∧
      if views.length < parts.length then StartsItem left else left = rest := by
  cases parts with
  | nil =>
      refine ⟨rest, ?_, ?_⟩
      · cases renders with
        | nil => exact rfl
        | cons head tail =>
            obtain ⟨more, rfl⟩ := closes (Nat.succ_pos _)
            exact readPositional_close (.cons head tail) expected 0 true more
      · rw [List.length_nil, if_neg (Nat.not_lt_zero _)]
  | cons part parts =>
      obtain ⟨hereStarts, othersStart⟩ := List.forall_mem_cons.1 starts
      rw [List.map_cons, intercalate_cons, List.append_assoc]
      cases renders with
      | nil =>
          refine ⟨_, rfl, ?_⟩
          rw [List.length_nil, List.length_cons, if_pos (Nat.succ_pos _)]
          exact hereStarts.append _
      | @cons field view fields views head tail =>
          rw [List.map_cons, List.zip_cons_cons] at inside
          obtain ⟨here, others⟩ := List.forall_mem_cons.1 inside
          have next := nextItem_first hereStarts (joinItems (parts.map Part.bytes) ++ rest)
          have first := head.resolves _ _ here _ (endsNumber_joinItems (parts.map Part.bytes) ends)
          have later := readPositional_items tail othersStart others ends expected 1
            fun fewer => closes (Nat.succ_lt_succ fewer)
          refine ⟨joinItems ((parts.drop fields.length).map Part.bytes) ++ rest, ?_, ?_⟩
          · rw [readPositional, next, ok_bind, List.map_cons, FieldView.align]
            simp only [head.name]
            exact first.bind fun value _ => later.map
          · simp only [List.length_cons, Nat.add_lt_add_iff_right, tail.length_eq]
            by_cases surplus : views.length < parts.length
            · rw [if_pos surplus, List.drop_eq_getElem_cons surplus, List.map_cons, joinItems_cons]
              exact ⟨comma, _, rfl, by decide, by decide⟩
            · rw [if_neg surplus, List.drop_eq_nil_of_le (Nat.le_of_not_lt surplus)]
              rfl

end Items

/-- A list that is read field by field is read to its end. -/
theorem readWhole_spellList (expected : String) (finish : List (String × Datum) → Datum)
    {parts : List Part} (starts : ∀ part ∈ parts, StartsItem part.bytes)
    (inside : ∀ pair ∈ (views.map FieldView.name).zip parts,
      readable pair.1 pair.2.bytes pair.2.meaning)
    (rest : Bytes) :
    Follows StopsFor
      (do
        let (entries, rest) ← readPositional expected 0 true fields
          ([comma].intercalate (parts.map Part.bytes) ++ closeList :: rest)
        let (_, rest) ← readListEnd rest
        return (finish entries, rest))
      rest
      (do
        let entries ← FieldView.alignWhole expected views (parts.map Part.meaning)
        return finish entries) := by
  obtain ⟨left, follows, ends⟩ := readPositional_first renders starts inside
    (show endsNumber (closeList :: rest) from rfl) expected fun _ => ⟨rest, rfl⟩
  rw [FieldView.alignWhole, bind_assoc, List.length_map]
  refine follows.bind fun entries _ => ?_
  by_cases surplus : views.length < parts.length
  · rw [if_pos surplus] at ends ⊢
    obtain ⟨fault, stopped⟩ := ends.exists_fault_of_readListEnd
    exact ⟨fault, by simp only [stopped, error_bind]⟩
  · rw [if_neg surplus] at ends ⊢
    simp only [ends, readListEnd_close, ok_bind]
    exact rfl

/-- An entry is collected or skipped, and the entries behind it are collected then. -/
theorem readNamed_entry {run rest gap : Bytes} {key : String} {part : Part}
    (isEntry : Entry IsPart run (key, part))
    (inside : (views.find? fun view => view.name = key).isSome →
      readable key part.bytes part.meaning)
    (skipped : (views.find? fun view => view.name = key) = none → IsSkipped part.bytes)
    (ends : endsNumber rest) {first : Bool} (isGap : Separates first gap)
    {entries : List (String × Datum)} {bound after : Bytes}
    (more : ∀ found, Follows StopsFor (readNamed fields bound false found rest) after
      (FieldView.collect views found entries)) (mark : UInt8) (found : List (String × Datum)) :
    Follows StopsFor (readNamed fields (mark :: bound) first found (gap ++ (run ++ rest))) after
      (FieldView.collect views found ((key, part.meaning) :: entries)) := by
  have related := find?_of_renders renders key
  obtain ⟨behindQuote, behindKey, blanks, _, rfl, isBlank, opened, named, colon⟩ :=
    isEntry.opens isGap rest
  rw [readNamed, opened, ok_bind, FieldView.collect]
  simp only [named, ok_bind]
  cases present : views.find? fun view => view.name = key with
  | none =>
      rw [present] at related
      cases unnamed : FieldReader.find? key fields with
      | some field => simp [unnamed] at related
      | none =>
          simp only [colon, ok_bind, skipped present blanks rest isBlank ends]
          exact more found
  | some view =>
      rw [present] at related
      cases same : FieldReader.find? key fields with
      | none => simp [same] at related
      | some field =>
          rw [same, Option.rel_some_some] at related
          have chosen := List.find?_some present
          have isKey : view.name = key := of_decide_eq_true chosen
          simp only
          split
          · exact ⟨_, objectFault_stopsFor (.duplicateField key) _, rfl⟩
          · simp only [colon, ok_bind, related.blanks _ _ isBlank]
            have readable := inside (by rw [present]; rfl)
            rw [← isKey] at readable
            have held := related.resolves _ _ readable rest ends
            exact held.bind fun value _ => more _

section Entries

variable {entries : List (String × Part)}
  (inside : ∀ entry ∈ entries, (views.find? fun view => view.name = entry.1).isSome →
    readable entry.1 entry.2.bytes entry.2.meaning)
  (skipped : ∀ entry ∈ entries,
    (views.find? fun view => view.name = entry.1) = none → IsSkipped entry.2.bytes)
include inside skipped

/-- The entries behind another one are collected in their order, up to the closing brace. -/
theorem readNamed_behind {bound blanks behind : Bytes} (all : AreBlanks blanks)
    (isBehind : Behind (Padded (Entry IsPart)) behind entries)
    (room : behind.length < bound.length) (found : List (String × Datum)) (rest : Bytes) :
    Follows StopsFor
      (readNamed fields bound false found (blanks ++ (behind ++ closeObject :: rest)))
      (closeObject :: rest) (FieldView.collect views found (entries.map Part.entry)) := by
  induction entries generalizing found bound blanks behind with
  | nil =>
      rw [isBehind.eq_nil]
      cases bound with
      | nil => simp at room
      | cons mark bound =>
          have closed : nextKey false (blanks ++ closeObject :: rest) =
              .ok (.closed, closeObject :: rest) :=
            nextKey_eq_closed.2 ⟨blanks, rest, all, rfl, rfl⟩
          rw [List.nil_append, readNamed, closed]
          exact rfl
  | cons entry entries inductionHypothesis =>
      obtain ⟨key, part⟩ := entry
      obtain ⟨here, others⟩ := List.forall_mem_cons.1 inside
      obtain ⟨hereSkipped, othersSkipped⟩ := List.forall_mem_cons.1 skipped
      obtain ⟨_, later, @⟨before, run, after, _, isBefore, isEntry, isAfter⟩, isLater, rfl⟩ :=
        isBehind.exists_part
      have isGap : Separates false (blanks ++ comma :: before) :=
        ⟨blanks, before, all, isBefore, rfl⟩
      simp only [List.length_append, List.length_cons] at room
      cases bound with
      | nil => simp at room
      | cons mark bound =>
          have ends : endsNumber (after ++ (later ++ closeObject :: rest)) :=
            isLater.endsNumber isAfter rfl
          have short : later.length < bound.length := by
            rw [List.length_cons] at room
            omega
          have whole := readNamed_entry renders isEntry here hereSkipped ends isGap
            (fun found => inductionHypothesis others othersSkipped isAfter isLater short found) mark
            found
          simp only [List.append_assoc, List.cons_append] at whole ⊢
          exact whole

/-- The first entry is not preceded by a comma, and there need not be one. -/
theorem readNamed_first {inner : Bytes} (spelled : SpellsEntries entries inner) {bound : Bytes}
    (room : inner.length < bound.length) (rest : Bytes) :
    Follows StopsFor (readNamed fields bound true [] (inner ++ closeObject :: rest))
      (closeObject :: rest) (FieldView.collect views [] (entries.map Part.entry)) := by
  cases bound with
  | nil => simp at room
  | cons mark bound =>
  cases spelled with
  | none all =>
      have closed : nextKey true (inner ++ closeObject :: rest) =
          .ok (.closed, closeObject :: rest) :=
        nextKey_eq_closed.2 ⟨inner, rest, all, rfl, rfl⟩
      rw [readNamed, closed]
      exact rfl
  | some separated =>
      obtain ⟨_, behind, ⟨key, part⟩, others, rfl,
        @⟨before, run, after, _, isBefore, isEntry, isAfter⟩, isBehind, rfl⟩ :=
        separated.exists_behind
      obtain ⟨here, othersInside⟩ := List.forall_mem_cons.1 inside
      obtain ⟨hereSkipped, othersSkipped⟩ := List.forall_mem_cons.1 skipped
      have isGap : Separates true before := isBefore
      have ends : endsNumber (after ++ (behind ++ closeObject :: rest)) :=
        isBehind.endsNumber isAfter rfl
      have short : behind.length < bound.length := by
        simp only [List.length_append, List.length_cons] at room
        have positive := isEntry.length_pos
        omega
      have whole := readNamed_entry renders isEntry here hereSkipped ends isGap
        (fun found => readNamed_behind renders othersInside othersSkipped isAfter isBehind short
          found rest) mark []
      simp only [List.append_assoc] at whole ⊢
      exact whole

/-- A record that is spelled as an object is read entry by entry. -/
theorem readRecordObject_spelled {inner : Bytes} (spelled : SpellsEntries entries inner)
    (declared : Fields) (rest : Bytes) :
    Follows StopsFor (readRecordObject declared fields (inner ++ closeObject :: rest)) rest
      (do
        let found ← FieldView.collect views [] (entries.map Part.entry)
        let entries ← Refusal.ofMismatch (declared.assemble found)
        return .object entries) := by
  have room : inner.length < (inner ++ closeObject :: rest).length := by
    rw [List.length_append, List.length_cons]
    omega
  have collected := readNamed_first renders inside skipped spelled room rest
  rw [readRecordObject]
  refine collected.bind fun found _ => ?_
  cases assembled : declared.assemble found with
  | error cause =>
      simp only [assembled]
      exact ⟨_, objectFault_stopsFor cause _, rfl⟩
  | ok complete =>
      simp only [assembled, readObjectEnd_close, ok_bind]
      rfl

end Entries

end Fields

end Switchboard.Json
