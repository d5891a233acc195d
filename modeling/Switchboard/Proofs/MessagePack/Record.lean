import Switchboard.Proofs.MessagePack.RoundTrip
import Switchboard.Proofs.Strict

/-
This file shows how a MessagePack payload spells a record: field by field in a list, or by name in
a map. What its parts resolve to decides whether the record is accepted.
-/

namespace Switchboard.MessagePack

section Record

variable {name : String} {fields : Fields} (distinct : fields.names.Nodup) {depth : Nat}
include distinct

/-- The readers of the fields are strict about all parts that are readable for them. -/
theorem renders_strict :
    List.Forall₂ (Renders (fields.IsReadable fun shape => Resolves (readShape shape depth)))
      (readFields fields depth) fields.strict :=
  Fields.forall₂_strict (readFields · depth) rfl (fun _ _ _ _ => rfl) distinct fun _ _ _ known =>
    ⟨rfl, rfl, fun _ _ readable => readable.resolves_of_find? known⟩

variable {entries : List (String × Part)}
  (inside : ∀ entry ∈ entries, ∀ shape, fields.find? entry.1 = some shape →
    Resolves (readShape shape depth) entry.2.bytes (shape.strict entry.2.meaning))
include inside

section Object

variable {head : Bytes} (isHead : IsMapHead entries.length head)
  (unknown : ∀ entry ∈ entries, fields.find? entry.1 = none → IsSkipped depth entry.2.bytes)
include isHead unknown

variable (name) in
/-- The entries are collected in any order, among others that are skipped. -/
theorem readShape_spelled {bytes : Bytes} (spelled : SpellsEntries entries bytes) (rest : Bytes) :
    Follows StopsFor (readShape (.record name fields) (depth + 1) (head ++ (bytes ++ rest))) rest
      (do
        let found ← FieldView.collect fields.strict [] (entries.map Part.entry)
        let complete ← Refusal.ofMismatch (fields.assemble found)
        return .object complete) := by
  have follows := readNamed_spelled (renders_strict distinct) spelled
    (fun entry member named =>
      Fields.isReadable_of_isSome inside member (Fields.find?_isSome_of_strict named))
    (fun entry member unnamed =>
      unknown entry member (Fields.find?_eq_none_of_strict unnamed)) [] rest
  rw [readShape, isHead.read]
  exact follows.bind fun found _ => follows_liftMismatch (fields.assemble found) Datum.object rest

/-- A record is spelled by its entries if they name its fields once. -/
theorem resolves_object (shortKeys : ∀ entry ∈ entries, Datum.isShortText entry.1)
    (different : (fields.namedKeys (entries.map Part.entry)).Nodup)
    (complete : ∀ field ∈ fields.required, field ∈ (entries.map Part.entry).map Prod.fst) :
    Resolves (readShape (.record name fields) (depth + 1)) (head ++ entries.flatMap spellPart)
      ((Shape.record name fields).strict (.object (fields.fill (entries.map Part.entry)))) := by
  intro rest
  rw [List.append_assoc]
  exact Follows.strict_of_collect distinct different complete
    (readShape_spelled name distinct inside isHead unknown (spellsEntries_flatMap shortKeys) rest)

end Object

section List

variable (named : entries.map Prod.fst = fields.names)
include named

/-- A record is spelled by its fields in declaration order. -/
theorem resolves_list {head : Bytes} (isHead : IsListHead entries.length head) :
    Resolves (readShape (.record name fields) (depth + 1))
      (head ++ (Part.items entries).flatten)
      ((Shape.record name fields).strict (.object (entries.map Part.entry))) := by
  intro rest
  have follows := readFieldItems_spelled (renders_strict distinct)
    (Fields.isReadable_of_mem_zip inside named (List.prefix_refl _))
    (Shape.record name fields).expectedLength rest
  rw [List.length_map] at follows
  rw [Part.items, ← List.flatMap_def, List.append_assoc, readShape, isHead.read]
  exact Follows.strict_of_align named follows.map

/-- A list that is too short for the last field of the record is refused. -/
theorem exists_fault_of_fewer (needed : fields.defaults.getLast? ≠ some true) {count : Nat}
    (fewer : count < entries.length) {head : Bytes} (isHead : IsListHead count head)
    (rest : Bytes) :
    ∃ fault, readShape (.record name fields) (depth + 1)
      (head ++ ((Part.items entries).take count).flatten ++ rest) =
        .error fault := by
  have leads := List.take_prefix count (entries.map Prod.snd)
  have taken : ((entries.map Prod.snd).take count).length = count := by
    rw [List.length_take, List.length_map]
    omega
  have follows := readFieldItems_spelled (renders_strict distinct)
    (Fields.isReadable_of_mem_zip inside named leads) (Shape.record name fields).expectedLength rest
  rw [taken] at follows
  have fewerItems : (((entries.map Prod.snd).take count).map Part.meaning).length <
      fields.names.length := by
    rw [← named, List.length_map, List.length_map, taken]
    exact fewer
  obtain ⟨refusal, refused⟩ := Fields.alignWhole_strict_of_fewer
    (Shape.record name fields).expectedLength needed fewerItems
  rw [refused] at follows
  rw [Part.items, ← List.map_take, ← List.flatMap_def, List.append_assoc, readShape, isHead.read]
  exact exists_error_bind follows.unspecified _

/-- A list is refused that goes on behind the last field of the record, whatever comes there. -/
theorem exists_fault_of_surplus {surplus : List Bytes} (more : surplus ≠ []) {head : Bytes}
    (isHead : IsListHead (entries.length + surplus.length) head) (rest : Bytes) :
    ∃ fault, readShape (.record name fields) (depth + 1)
      (head ++ (Part.items entries ++ surplus).flatten ++ rest) =
        .error fault := by
  have renders := @renders_strict fields distinct depth
  have sameLength : (readFields fields depth).length = entries.length := by
    rw [renders.length_eq, ← List.length_map FieldView.name, Fields.map_name_strict, ← named,
      List.length_map]
  have beyond : (readFields fields depth).length < entries.length + surplus.length := by
    have positive := List.length_pos_iff.2 more
    omega
  have enough : (entries.map Prod.snd).length < (readFields fields depth).length →
      surplus.length = 0 := by
    rw [sameLength, List.length_map]
    exact fun fewer => absurd fewer (Nat.lt_irrefl _)
  have follows := readPositional_items renders
    (Fields.isReadable_of_mem_zip inside named (List.prefix_refl _))
    (Shape.record name fields).expectedLength 0 enough (surplus.flatten ++ rest)
  rw [List.length_map] at follows
  rw [Part.items, List.flatten_append, ← List.flatMap_def, List.append_assoc, List.append_assoc,
    readShape, isHead.read]
  exact exists_error_bind (follows.exists_fault fun _ => ⟨_, if_pos beyond⟩) _

end List

end Record

end Switchboard.MessagePack
