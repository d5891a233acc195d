import Switchboard.Proofs.Json.RoundTrip
import Switchboard.Proofs.Strict

/-
This file shows how a JSON payload spells a record: field by field in a list, or by name in an
object. What its parts resolve to decides whether the record is accepted.
-/

namespace Switchboard.Json

section Record

variable {name : String} {fields : Fields} (distinct : fields.names.Nodup) {depth : Nat}
include distinct

/-- The readers of the fields are strict about all parts that are readable for them. -/
theorem renders_strict :
    List.Forall₂ (Renders (fields.IsReadable fun shape => Resolves (readShape shape depth)))
      (readFields fields depth) fields.strict :=
  Fields.forall₂_strict (readFields · depth) rfl (fun _ _ _ _ => rfl) distinct
    fun _ _ shape known => ⟨rfl, rfl, fun _ bytes all => readShape_append all shape depth bytes,
      fun _ _ readable => readable.resolves_of_find? known⟩

variable {entries : List (String × Part)}
  (inside : ∀ entry ∈ entries, ∀ shape, fields.find? entry.1 = some shape →
    Resolves (readShape shape depth) entry.2.bytes (shape.strict entry.2.meaning))
include inside

section Object

variable (unknown : ∀ entry ∈ entries, fields.find? entry.1 = none → IsSkipped entry.2.bytes)
include unknown

variable (name) in
/-- The entries are collected in any order, among others that are skipped. -/
theorem readShape_spelled {inner : Bytes} (spelled : SpellsEntries entries inner) (rest : Bytes) :
    Follows StopsFor
      (readShape (.record name fields) (depth + 1) (openObject :: (inner ++ closeObject :: rest)))
      rest
      (do
        let found ← FieldView.collect fields.strict [] (entries.map Part.entry)
        let complete ← Refusal.ofMismatch (fields.assemble found)
        return .object complete) := by
  have follows := readRecordObject_spelled (renders_strict distinct)
    (fun entry member named =>
      Fields.isReadable_of_isSome inside member (Fields.find?_isSome_of_strict named))
    (fun entry member unnamed =>
      unknown entry member (Fields.find?_eq_none_of_strict unnamed)) spelled fields rest
  rw [readShape, readHead_openObject]
  exact follows

/-- A record is spelled by its entries if they name its fields once. -/
theorem resolves_spellObject (different : (fields.namedKeys (entries.map Part.entry)).Nodup)
    (complete : ∀ field ∈ fields.required, field ∈ (entries.map Part.entry).map Prod.fst) :
    Resolves (readShape (.record name fields) (depth + 1))
      (spellObject (entries.map fun entry => (entry.1, entry.2.bytes)))
      ((Shape.record name fields).strict (.object (fields.fill (entries.map Part.entry)))) := by
  intro rest _
  rw [spellObject, List.map_map, List.cons_append, List.append_assoc]
  exact Follows.strict_of_collect distinct different complete
    (readShape_spelled name distinct inside unknown (spellsEntries_intercalate entries) rest)

end Object

section List

variable (named : entries.map Prod.fst = fields.names)
include named

variable (starts : ∀ entry ∈ entries, StartsItem entry.2.bytes)
include starts

/-- A record is spelled by its fields in declaration order. -/
theorem resolves_spellList :
    Resolves (readShape (.record name fields) (depth + 1)) (spellList (Part.items entries))
      ((Shape.record name fields).strict (.object (entries.map Part.entry))) := by
  intro rest _
  have follows := readWhole_spellList (renders_strict distinct)
    (Shape.record name fields).expectedLength .object (List.forall_mem_map.2 starts)
    (Fields.isReadable_of_mem_zip inside named (List.prefix_refl _)) rest
  rw [spellList, List.cons_append, List.append_assoc, readShape, readHead_openList]
  exact follows.strict_of_align named

/-- A list that is too short for the last field of the record is refused. -/
theorem exists_fault_of_fewer (needed : fields.defaults.getLast? ≠ some true) {count : Nat}
    (fewer : count < entries.length) (rest : Bytes) :
    ∃ fault, readShape (.record name fields) (depth + 1)
      (spellList ((Part.items entries).take count) ++ rest) = .error fault := by
  have leads := List.take_prefix count (entries.map Prod.snd)
  have begins : ∀ part ∈ entries.map Prod.snd, StartsItem part.bytes := List.forall_mem_map.2 starts
  have follows := readWhole_spellList (renders_strict distinct)
    (Shape.record name fields).expectedLength Datum.object
    (fun part member => begins part (leads.mem member))
    (Fields.isReadable_of_mem_zip inside named leads) rest
  rw [Part.items, ← List.map_take, spellList, List.cons_append, List.append_assoc, readShape,
    readHead_openList]
  have short : (((entries.map Prod.snd).take count).map Part.meaning).length <
      fields.names.length := by
    rw [← named]
    simp only [List.length_map, List.length_take]
    omega
  obtain ⟨refusal, refused⟩ := Fields.alignWhole_strict_of_fewer
    (Shape.record name fields).expectedLength needed short
  rw [refused] at follows
  exact follows.unspecified

/-- A list is refused that goes on behind the last field of the record, whatever comes there. -/
theorem exists_fault_of_surplus (filled : entries ≠ []) {surplus : List Bytes} (more : surplus ≠ [])
    (rest : Bytes) :
    ∃ fault, readShape (.record name fields) (depth + 1)
      (spellList (Part.items entries ++ surplus) ++ rest) = .error fault := by
  obtain ⟨extra, others, rfl⟩ := List.exists_cons_of_ne_nil more
  have renders := @renders_strict fields distinct depth
  have sameLength : fields.strict.length = (entries.map Prod.snd).length := by
    rw [← List.length_map FieldView.name, Fields.map_name_strict, ← named, List.length_map,
      List.length_map]
  have separated : endsNumber (comma :: (extra ++ (joinItems others ++ closeList :: rest))) := rfl
  obtain ⟨left, follows, ends⟩ := readPositional_first renders (List.forall_mem_map.2 starts)
    (Fields.isReadable_of_mem_zip inside named (List.prefix_refl _)) separated
    (Shape.record name fields).expectedLength
    (fun fewer => absurd fewer (by rw [renders.length_eq, sameLength]; exact Nat.lt_irrefl _))
  rw [sameLength, if_neg (Nat.lt_irrefl _)] at ends
  rw [← ends] at follows
  have bytes : spellList (Part.items entries ++ extra :: others) ++ rest =
      openList :: ([comma].intercalate (Part.items entries) ++ left) := by
    obtain ⟨first, items, same⟩ := List.exists_cons_of_ne_nil filled
    rw [ends, same, Part.items, List.map_cons, List.map_cons, spellList, intercalate_append,
      List.cons_append, List.append_assoc, List.append_assoc, List.singleton_append, joinItems_cons]
  have goesOn : StartsItem left := ⟨comma, _, ends, by decide, by decide⟩
  rw [bytes, readShape, readHead_openList]
  simp only [ok_bind, enter, List.drop_one, List.tail_cons, readRecordList]
  exact follows.exists_fault fun _ => exists_error_bind goesOn.exists_fault_of_readListEnd _

end List

end Record

end Switchboard.Json
