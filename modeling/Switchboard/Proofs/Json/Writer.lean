import Switchboard.Proofs.Datum
import Switchboard.Proofs.Interpretation
import Switchboard.Proofs.Json.Head
import Switchboard.Proofs.Json.Numeral

/-
This file takes written JSON values apart.
-/

namespace Switchboard.Json

theorem write_list_cons {item : Datum} {items : List Datum} {payload : Bytes} :
    write (.list (item :: items)) = .ok payload ↔
      ∃ first, write item = .ok first ∧ ∃ others, writeItems items = .ok others ∧
        openList :: first ++ others = payload := by
  simp only [write, bind_eq_ok, pure_eq_ok, Except.ok.injEq]

theorem writeItems_cons {item : Datum} {items : List Datum} {payload : Bytes} :
    writeItems (item :: items) = .ok payload ↔
      ∃ first, write item = .ok first ∧ ∃ others, writeItems items = .ok others ∧
        comma :: first ++ others = payload := by
  simp only [writeItems, bind_eq_ok, pure_eq_ok, Except.ok.injEq]

theorem write_object_cons {key : String} {value : Datum} {entries : List (String × Datum)}
    {payload : Bytes} :
    write (.object ((key, value) :: entries)) = .ok payload ↔
      ∃ first, write value = .ok first ∧ ∃ others, writeEntries entries = .ok others ∧
        openObject :: writeText key ++ colon :: first ++ others = payload := by
  simp only [write, bind_eq_ok, pure_eq_ok, Except.ok.injEq]

theorem writeEntries_cons {key : String} {value : Datum} {entries : List (String × Datum)}
    {payload : Bytes} :
    writeEntries ((key, value) :: entries) = .ok payload ↔
      ∃ first, write value = .ok first ∧ ∃ others, writeEntries entries = .ok others ∧
        comma :: writeText key ++ colon :: first ++ others = payload := by
  simp only [writeEntries, bind_eq_ok, pure_eq_ok, Except.ok.injEq]

/-- The items after the first one start with a separator or the closing bracket. -/
theorem writeItems_eq_cons {items : List Datum} {payload : Bytes}
    (written : writeItems items = .ok payload) :
    ∃ byte rest, payload = byte :: rest ∧ (byte = comma ∨ byte = closeList) := by
  cases items with
  | nil =>
      rw [writeItems, Except.ok.injEq] at written
      exact ⟨closeList, [], written.symm, .inr rfl⟩
  | cons item items =>
      obtain ⟨first, _, others, _, same⟩ := writeItems_cons.1 written
      exact ⟨comma, first ++ others, same.symm, .inl rfl⟩

/-- The entries after the first one start with a separator or the closing brace. -/
theorem writeEntries_eq_cons {entries : List (String × Datum)} {payload : Bytes}
    (written : writeEntries entries = .ok payload) :
    ∃ byte rest, payload = byte :: rest ∧ (byte = comma ∨ byte = closeObject) := by
  cases entries with
  | nil =>
      rw [writeEntries, Except.ok.injEq] at written
      exact ⟨closeObject, [], written.symm, .inr rfl⟩
  | cons entry entries =>
      obtain ⟨first, _, others, _, same⟩ := writeEntries_cons.1 written
      exact ⟨comma, _, same.symm, .inl rfl⟩

theorem endsNumber_writeItems {items : List Datum} {payload : Bytes}
    (written : writeItems items = .ok payload) (rest : Bytes) : endsNumber (payload ++ rest) := by
  obtain ⟨byte, more, same, isComma | isClose⟩ := writeItems_eq_cons written
  · rw [same, isComma]
    rfl
  · rw [same, isClose]
    rfl

theorem endsNumber_writeEntries {entries : List (String × Datum)} {payload : Bytes}
    (written : writeEntries entries = .ok payload) (rest : Bytes) :
    endsNumber (payload ++ rest) := by
  obtain ⟨byte, more, same, isComma | isClose⟩ := writeEntries_eq_cons written
  · rw [same, isComma]
    rfl
  · rw [same, isClose]
    rfl

/--
A value starts with an ASCII character that no blank and no closing bracket starts with. Only null
starts like null, but for numbers that have no written form.
-/
structure StartsValue (datum : Datum) (byte : UInt8) : Prop where
  ascii : byte.toNat < 0x80
  solid : isBlank byte = false
  notClose : byte ≠ closeList
  nullOnly : datum.isFloatFree → byte = letterN → datum = .null

theorem startsValue_of_ne {datum : Datum} {byte : UInt8}
    (other : byte.toNat < 0x80 ∧ isBlank byte = false ∧ byte ≠ closeList ∧ byte ≠ letterN) :
    StartsValue datum byte :=
  ⟨other.1, other.2.1, other.2.2.1, fun _ same => absurd same other.2.2.2⟩

theorem startsValue_of_isDigit {datum : Datum} {byte : UInt8} (digit : isDigit byte = true) :
    StartsValue datum byte := by
  have special := not_special_of_isDigit digit
  simp only [isDigit, UInt8.le_iff_toNat_le, UInt8.reduceToNat, Bool.and_eq_true,
    decide_eq_true_eq] at digit
  refine ⟨by omega, special.1, ?_, ?_⟩
  · simp only [closeList, ne_eq, ← UInt8.toNat_inj, UInt8.reduceToNat]
    omega
  · intro _ same
    rw [same] at digit
    simp only [letterN, UInt8.reduceToNat] at digit
    omega

theorem writeInt_eq_cons (value : Int) :
    ∃ byte rest, writeInt value = byte :: rest ∧ StartsValue (.int value) byte := by
  by_cases negative : value < 0
  · rw [writeInt, if_pos negative]
    exact ⟨minus, writeNat value.natAbs, rfl, startsValue_of_ne (by decide)⟩
  · obtain ⟨first, rest, written, _⟩ := writeNat_eq_cons value.natAbs
    have digit : isDigit first = true :=
      isDigit_of_mem_writeNat value.natAbs (by rw [written]; exact List.mem_cons_self)
    rw [writeInt, if_neg negative]
    exact ⟨first, rest, written, startsValue_of_isDigit digit⟩

theorem writeFloat_eq_cons (value : Binary64) :
    ∃ byte rest, writeFloat value = byte :: rest ∧ StartsValue (.float value) byte := by
  obtain isNull | ⟨numeral, isNumeral, positive | negative⟩ := writeFloat_cases value
  · exact ⟨letterN, _, isNull, by decide, by decide, by decide, nofun⟩
  · obtain ⟨first, rest, same, digit⟩ := isNumeral.exists_cons
    exact ⟨first, rest, positive.trans same, startsValue_of_isDigit digit⟩
  · exact ⟨minus, numeral, negative, startsValue_of_ne (by decide)⟩

/-- Every written value has a first byte that starts a value. -/
theorem write_eq_cons {datum : Datum} {payload : Bytes} (written : write datum = .ok payload) :
    ∃ byte rest, payload = byte :: rest ∧ StartsValue datum byte := by
  match datum with
  | .null =>
      rw [write, Except.ok.injEq] at written
      exact ⟨_, _, written.symm, by decide, by decide, by decide, fun _ _ => rfl⟩
  | .bool true =>
      rw [write, Except.ok.injEq] at written
      exact ⟨_, _, written.symm, startsValue_of_ne (by decide)⟩
  | .bool false =>
      rw [write, Except.ok.injEq] at written
      exact ⟨_, _, written.symm, startsValue_of_ne (by decide)⟩
  | .int value =>
      rw [write, Except.ok.injEq] at written
      rw [← written]
      exact writeInt_eq_cons value
  | .float value =>
      rw [write, Except.ok.injEq] at written
      rw [← written]
      exact writeFloat_eq_cons value
  | .text value =>
      rw [write, Except.ok.injEq] at written
      exact ⟨quote, _, written.symm, startsValue_of_ne (by decide)⟩
  | .list [] =>
      rw [write, Except.ok.injEq] at written
      exact ⟨_, _, written.symm, startsValue_of_ne (by decide)⟩
  | .list (item :: items) =>
      obtain ⟨first, _, others, _, same⟩ := write_list_cons.1 written
      exact ⟨openList, _, same.symm, startsValue_of_ne (by decide)⟩
  | .object [] =>
      rw [write, Except.ok.injEq] at written
      exact ⟨_, _, written.symm, startsValue_of_ne (by decide)⟩
  | .object ((key, value) :: entries) =>
      obtain ⟨first, _, others, _, same⟩ := write_object_cons.1 written
      exact ⟨openObject, _, same.symm, startsValue_of_ne (by decide)⟩
  | .pairs [] =>
      rw [write, Except.ok.injEq] at written
      exact ⟨_, _, written.symm, startsValue_of_ne (by decide)⟩
  | .pairs (_ :: _) => simp [write] at written

/-- An item starts with no blank, and not like the end of a list. -/
def StartsItem (bytes : Bytes) : Prop :=
  ∃ byte more, bytes = byte :: more ∧ isBlank byte = false ∧ byte ≠ closeList

theorem startsItem_of_write {datum : Datum} {payload : Bytes}
    (written : write datum = .ok payload) : StartsItem payload := by
  obtain ⟨byte, more, same, starts⟩ := write_eq_cons written
  exact ⟨byte, more, same, starts.solid, starts.notClose⟩

/-- An item is long enough to take one element of a bound. -/
theorem StartsItem.length_pos {bytes : Bytes} (starts : StartsItem bytes) : 0 < bytes.length := by
  obtain ⟨byte, rest, rfl, _⟩ := starts
  exact Nat.succ_pos _

theorem StartsItem.append {bytes : Bytes} (starts : StartsItem bytes) (rest : Bytes) :
    StartsItem (bytes ++ rest) := by
  obtain ⟨byte, more, rfl, solid, notClose⟩ := starts
  exact ⟨byte, more ++ rest, rfl, solid, notClose⟩

section Parts

/-- The items after the first one stand behind their separators. -/
def joinItems (items : List Bytes) : Bytes := items.flatMap fun item => comma :: item

theorem intercalate_cons (first : Bytes) (items : List Bytes) :
    [comma].intercalate (first :: items) = first ++ joinItems items := by
  induction items generalizing first with
  | nil => rw [List.intercalate_singleton, joinItems, List.flatMap_nil, List.append_nil]
  | cons second items inductionHypothesis =>
      rw [List.intercalate_cons_cons, inductionHypothesis, joinItems, joinItems, List.flatMap_cons,
        List.append_assoc]
      rfl

theorem joinItems_cons (first : Bytes) (items : List Bytes) (rest : Bytes) :
    joinItems (first :: items) ++ rest = comma :: (first ++ (joinItems items ++ rest)) := by
  rw [joinItems, joinItems, List.flatMap_cons, List.cons_append, List.cons_append,
    List.append_assoc]

theorem intercalate_append (first : Bytes) (items others : List Bytes) :
    [comma].intercalate (first :: items ++ others) =
      [comma].intercalate (first :: items) ++ joinItems others := by
  rw [List.cons_append, intercalate_cons, intercalate_cons, joinItems, joinItems, joinItems,
    List.flatMap_append, List.append_assoc]

theorem endsNumber_joinItems (items : List Bytes) {rest : Bytes} (ends : endsNumber rest) :
    endsNumber (joinItems items ++ rest) := by
  cases items with
  | nil => exact ends
  | cons first items =>
      rw [joinItems_cons]
      rfl

def spellList (items : List Bytes) : Bytes :=
  openList :: ([comma].intercalate items ++ [closeList])

def spellEntry (entry : String × Bytes) : Bytes := writeText entry.1 ++ colon :: entry.2

def spellObject (entries : List (String × Bytes)) : Bytes :=
  openObject :: ([comma].intercalate (entries.map spellEntry) ++ [closeObject])

theorem writeItems_eq_ok {items : List Datum} {others : Bytes}
    (written : writeItems items = .ok others) :
    ∃ parts : List Part, parts.map Part.meaning = items ∧
      (∀ part ∈ parts, write part.meaning = .ok part.bytes) ∧
      others = joinItems (parts.map Part.bytes) ++ [closeList] := by
  induction items generalizing others with
  | nil =>
      rw [writeItems, Except.ok.injEq] at written
      exact ⟨[], rfl, nofun, written.symm⟩
  | cons item items inductionHypothesis =>
      obtain ⟨first, firstWritten, later, laterWritten, same⟩ := writeItems_cons.1 written
      obtain ⟨parts, means, all, joined⟩ := inductionHypothesis laterWritten
      refine ⟨⟨first, item⟩ :: parts, congrArg (item :: ·) means,
        List.forall_mem_cons.2 ⟨firstWritten, all⟩, ?_⟩
      rw [List.map_cons, joinItems_cons, ← joined, ← same]
      rfl

/-- A list is written by its items. -/
theorem write_list_eq_ok {items : List Datum} {payload : Bytes}
    (written : write (.list items) = .ok payload) :
    ∃ parts : List Part, parts.map Part.meaning = items ∧
      (∀ part ∈ parts, write part.meaning = .ok part.bytes) ∧
      payload = spellList (parts.map Part.bytes) := by
  cases items with
  | nil =>
      rw [write, Except.ok.injEq] at written
      exact ⟨[], rfl, nofun, written.symm⟩
  | cons item items =>
      obtain ⟨first, firstWritten, others, othersWritten, same⟩ := write_list_cons.1 written
      obtain ⟨parts, means, all, joined⟩ := writeItems_eq_ok othersWritten
      refine ⟨⟨first, item⟩ :: parts, congrArg (item :: ·) means,
        List.forall_mem_cons.2 ⟨firstWritten, all⟩, ?_⟩
      rw [spellList, List.map_cons, intercalate_cons, List.append_assoc, ← joined, ← same]
      rfl

/-- The bytes of an entry do not say more than its part does. -/
def spellPart (entry : String × Part) : Bytes := spellEntry (entry.1, entry.2.bytes)

theorem writeEntries_eq_ok {entries : List (String × Datum)} {others : Bytes}
    (written : writeEntries entries = .ok others) :
    ∃ parts : List (String × Part), parts.map Part.entry = entries ∧
      (∀ entry ∈ parts, write entry.2.meaning = .ok entry.2.bytes) ∧
      others = joinItems (parts.map spellPart) ++ [closeObject] := by
  induction entries generalizing others with
  | nil =>
      rw [writeEntries, Except.ok.injEq] at written
      exact ⟨[], rfl, nofun, written.symm⟩
  | cons entry entries inductionHypothesis =>
      obtain ⟨key, datum⟩ := entry
      obtain ⟨first, firstWritten, later, laterWritten, same⟩ := writeEntries_cons.1 written
      obtain ⟨parts, means, all, joined⟩ := inductionHypothesis laterWritten
      refine ⟨(key, ⟨first, datum⟩) :: parts, congrArg ((key, datum) :: ·) means,
        List.forall_mem_cons.2 ⟨firstWritten, all⟩, ?_⟩
      rw [List.map_cons, joinItems_cons, ← joined, ← same, spellPart, spellEntry]
      simp only [List.cons_append, List.append_assoc]

/-- An object is written by its entries. -/
theorem write_object_eq_ok {entries : List (String × Datum)} {payload : Bytes}
    (written : write (.object entries) = .ok payload) :
    ∃ parts : List (String × Part), parts.map Part.entry = entries ∧
      (∀ entry ∈ parts, write entry.2.meaning = .ok entry.2.bytes) ∧
      payload = openObject :: ([comma].intercalate (parts.map spellPart) ++ [closeObject]) := by
  cases entries with
  | nil =>
      rw [write, Except.ok.injEq] at written
      exact ⟨[], rfl, nofun, written.symm⟩
  | cons entry entries =>
      obtain ⟨key, datum⟩ := entry
      obtain ⟨first, firstWritten, others, othersWritten, same⟩ := write_object_cons.1 written
      obtain ⟨parts, means, all, joined⟩ := writeEntries_eq_ok othersWritten
      refine ⟨(key, ⟨first, datum⟩) :: parts, congrArg ((key, datum) :: ·) means,
        List.forall_mem_cons.2 ⟨firstWritten, all⟩, ?_⟩
      rw [List.map_cons, intercalate_cons, List.append_assoc, ← joined, ← same, spellPart,
        spellEntry]
      simp only [List.cons_append, List.append_assoc]

end Parts

end Switchboard.Json
