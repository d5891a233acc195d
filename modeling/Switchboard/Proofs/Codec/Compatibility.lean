import Switchboard.Proofs.Codec.Spelling

/-
This file shows that a record is decoded by the names of its fields, whatever else a newer or older
writer put beside them and however the entries are spelled.
-/

namespace Switchboard.Codec

section Spelled

/-- Blanks may stand before and after every token of an object, and a map has any of its heads. -/
inductive SpellsEntries : Codec → List (String × Part) → Bytes → Prop where
  | braces {before inner : Bytes} {entries : List (String × Part)}
    (isBefore : Json.AreBlanks before) (spelled : Json.SpellsEntries entries inner) :
    SpellsEntries .json entries (before ++ Json.openObject :: (inner ++ [Json.closeObject]))
  | counted {head bytes : Bytes} {entries : List (String × Part)}
    (isHead : MessagePack.IsMapHead entries.length head)
    (spelled : MessagePack.SpellsEntries entries bytes) :
    SpellsEntries .messagePack entries (head ++ bytes)

/-- A value that no field takes is skipped if its levels fit into the depth of its format. -/
def HasOutline : Codec → Bytes → Prop
  | .json, bytes => ∃ depth, Json.Outline depth bytes
  | .messagePack, bytes => ∃ depth < MessagePack.maximalDepth, MessagePack.Outline depth bytes

theorem hasOutline_of_encode {codec : Codec} {datum : Datum} {bytes : Bytes}
    (encoded : codec.encode datum = .ok bytes)
    (limited : codec = .messagePack → datum.isShort ∧ datum.depth < MessagePack.maximalDepth) :
    codec.HasOutline bytes := by
  cases codec with
  | json =>
      exact ⟨datum.depth, Json.outline_write _ (Nat.le_refl _) (encode_json_eq_ok.1 encoded)⟩
  | messagePack =>
      obtain ⟨short, room⟩ := limited rfl
      rw [encode, Except.ok.injEq] at encoded
      rw [← encoded]
      exact ⟨datum.depth, room, MessagePack.outline_write _ short (Nat.le_refl _)⟩

/-- An encoded object is one of the spellings of its entries. -/
theorem exists_spellsEntries {codec : Codec} {entries : List (String × Datum)}
    (short : codec = .messagePack → (Datum.object entries).isShort) {payload : Bytes}
    (encoded : codec.encode (.object entries) = .ok payload) :
    ∃ parts : List (String × Part), parts.map Part.entry = entries ∧
      (∀ entry ∈ parts, codec.encode entry.2.meaning = .ok entry.2.bytes) ∧
      codec.SpellsEntries parts payload := by
  cases codec with
  | json =>
      obtain ⟨parts, same, written, rfl⟩ := Json.write_object_eq_ok (encode_json_eq_ok.1 encoded)
      refine ⟨parts, same, fun entry member => encode_json_eq_ok.2 (written entry member), ?_⟩
      exact .braces Json.areBlanks_nil (Json.spellsEntries_intercalate parts)
  | messagePack =>
      have isShort := short rfl
      rw [Datum.isShort, Bool.and_eq_true, Datum.entriesShort_iff] at isShort
      rw [encode, Except.ok.injEq, MessagePack.write, MessagePack.writeEntries_eq_flatMap]
        at encoded
      have names : ∀ entry ∈ entries.map MessagePack.entryOf, Datum.isShortText entry.1 :=
        List.forall_mem_map.2 fun entry member => (isShort.2 entry member).1
      have spelled := MessagePack.spellsEntries_flatMap names
      rw [List.flatMap_map] at spelled
      refine ⟨entries.map MessagePack.entryOf, ?_, List.forall_mem_map.2 fun _ _ => rfl, ?_⟩
      · rw [List.map_map]
        exact List.map_id entries
      · rw [← encoded]
        refine .counted ?_ spelled
        rw [List.length_map]
        exact MessagePack.isMapHead_writeMapHead isShort.1

variable {codec : Codec} {name : String} {fields : Fields}
  (regular : (Shape.record name fields).isRegular) (closed : fields.areClosed)
  (shallow : fields.depth ≤ 2) {entries : List (String × Part)}
  (known : ∀ entry ∈ entries, ∀ shape, fields.find? entry.1 = some shape →
    codec.Spells shape entry.2 ∧ shape.holds entry.2.meaning)
  (unknown : ∀ entry ∈ entries, fields.find? entry.1 = none → codec.HasOutline entry.2.bytes)
include regular closed shallow known unknown

/-- What an object is decoded to depends on its entries only, and not on how they are spelled. -/
theorem decodes_of_spellsEntries {payload rest : Bytes}
    (spelled : codec.SpellsEntries entries payload)
    (ignored : codec = .json → Json.AreBlanks rest) :
    codec.Decodes (codec.decode (.record name fields) (payload ++ rest))
      ((Shape.record name fields).interpret (.object (entries.map Part.entry))) := by
  rw [Shape.isRegular, Bool.and_eq_true, decide_eq_true_eq] at regular
  have admitted : fields.Admits (entries.map Part.entry) :=
    List.forall_mem_map.2 fun entry member shape found => (known entry member shape found).2
  have spells := fun entry member shape found => (known entry member shape found).1
  rw [Shape.interpret, ← Fields.collect_strict_eq_views regular.2 admitted]
  cases spelled with
  | braces isBefore spelled =>
      have blank := ignored rfl
      have inside := Spells.json_resolves_parts regular.2 closed
        (Nat.le_trans shallow (show 2 ≤ 126 by decide)) spells
      have skipped (entry : String × Part) (member : entry ∈ entries)
          (absent : fields.find? entry.1 = none) : Json.IsSkipped entry.2.bytes := by
        obtain ⟨_, outline⟩ := unknown entry member absent
        exact outline.isSkipped
      have follows := Json.readShape_spelled name regular.1 inside skipped spelled rest
      rw [← Json.readShape_append isBefore] at follows
      simp only [List.append_assoc, List.cons_append, List.nil_append]
      exact json_decodes_of_follows blank follows
  | counted isHead spelled =>
      have inside := Spells.messagePack_resolves_parts regular.2 closed
        (show fields.depth + 127 ≤ 1022 by omega) spells
      have skipped (entry : String × Part) (member : entry ∈ entries)
          (absent : fields.find? entry.1 = none) : MessagePack.IsSkipped 1022 entry.2.bytes := by
        obtain ⟨levels, room, outline⟩ := unknown entry member absent
        exact outline.isSkipped (Nat.le_of_lt_succ room)
      have follows :=
        MessagePack.readShape_spelled name regular.1 inside isHead skipped spelled rest
      rw [List.append_assoc]
      exact messagePack_decodes_of_follows follows

end Spelled

/--
The entries decide what a record is decoded to: the data of its fields if no field is named twice
and the required ones are there, or else a reason that starts with the first entry that repeats a
field, or with the first field that is missing.
-/
structure DecodesByName (fields : Fields) (entries : List (String × Datum))
    (result : Except Error Datum) : Prop where
  accepted : (∃ datum, result = .ok datum) ↔ (fields.namedKeys entries).Nodup ∧
    ∀ field ∈ fields.required, field ∈ entries.map Prod.fst
  filled : (fields.namedKeys entries).Nodup →
    (∀ field ∈ fields.required, field ∈ entries.map Prod.fst) →
      result = .ok (.object (fields.fill entries))
  repeated : ¬ (fields.namedKeys entries).Nodup → ∃ before key datum after detail,
    entries = before ++ (key, datum) :: after ∧ (fields.namedKeys before).Nodup ∧
      key ∈ fields.namedKeys before ∧
      result = .error (.decode (s!"duplicate field `{key}`" ++ detail))
  missing : (fields.namedKeys entries).Nodup →
    (¬ ∀ field ∈ fields.required, field ∈ entries.map Prod.fst) → ∃ field detail,
      (fields.required.find? fun field => field ∉ entries.map Prod.fst) = some field ∧
      result = .error (.decode (s!"missing field `{field}`" ++ detail))

namespace Decodes

variable {codec : Codec} {name : String} {fields : Fields} (regular : fields.areRegular)
  {entries : List (String × Datum)}
  (known : ∀ entry ∈ entries, ∀ shape, fields.find? entry.1 = some shape → shape.holds entry.2)
  {result : Except Error Datum}
  (decodes : codec.Decodes result ((Shape.record name fields).interpret (.object entries)))
include regular known decodes

theorem of_complete (distinct : (fields.namedKeys entries).Nodup)
    (complete : ∀ field ∈ fields.required, field ∈ entries.map Prod.fst) :
    result = .ok (.object (fields.fill entries)) := by
  rw [interpret_of_complete regular known distinct name complete] at decodes
  exact decodes

theorem of_repeat (repeats : ¬ (fields.namedKeys entries).Nodup) :
    ∃ before key datum after detail, entries = before ++ (key, datum) :: after ∧
      (fields.namedKeys before).Nodup ∧ key ∈ fields.namedKeys before ∧
        result = .error (.decode (s!"duplicate field `{key}`" ++ detail)) := by
  obtain ⟨before, key, datum, after, same, distinct, twice⟩ := Fields.exists_repeat repeats
  have knownBefore (entry : String × Datum) (member : entry ∈ before) :
      ∀ shape, fields.find? entry.1 = some shape → shape.holds entry.2 := by
    apply known
    rw [same]
    exact List.mem_append_left _ member
  rw [same, interpret_of_repeat regular name knownBefore distinct twice datum after] at decodes
  obtain ⟨detail, refused⟩ := decodes
  exact ⟨before, key, datum, after, detail, same, distinct, twice, refused⟩

theorem of_missing (distinct : (fields.namedKeys entries).Nodup)
    (incomplete : ¬ ∀ field ∈ fields.required, field ∈ entries.map Prod.fst) :
    ∃ field detail,
      (fields.required.find? fun field => field ∉ entries.map Prod.fst) = some field ∧
        result = .error (.decode (s!"missing field `{field}`" ++ detail)) := by
  obtain ⟨absent, notThere⟩ := Classical.not_forall.1 incomplete
  obtain ⟨member, notNamed⟩ := Classical.not_imp.1 notThere
  have someAbsent : (fields.required.find? fun field => field ∉ entries.map Prod.fst).isSome :=
    List.find?_isSome.2 ⟨absent, member, decide_eq_true notNamed⟩
  obtain ⟨field, found⟩ := Option.isSome_iff_exists.1 someAbsent
  rw [interpret_of_missing regular known distinct name found] at decodes
  obtain ⟨detail, refused⟩ := decodes
  exact ⟨field, detail, found, refused⟩

/-- Nothing else is accepted. -/
theorem exists_value_iff :
    (∃ datum, result = .ok datum) ↔ (fields.namedKeys entries).Nodup ∧
      ∀ field ∈ fields.required, field ∈ entries.map Prod.fst := by
  constructor
  · rintro ⟨datum, accepted⟩
    by_cases distinct : (fields.namedKeys entries).Nodup
    · refine ⟨distinct, Classical.byContradiction fun incomplete => ?_⟩
      obtain ⟨_, _, _, refused⟩ := of_missing regular known decodes distinct incomplete
      rw [accepted] at refused
      cases refused
    · obtain ⟨_, _, _, _, _, _, _, _, refused⟩ := of_repeat regular known decodes distinct
      rw [accepted] at refused
      cases refused
  · rintro ⟨distinct, complete⟩
    exact ⟨_, of_complete regular known decodes distinct complete⟩

theorem byName : DecodesByName fields entries result :=
  ⟨exists_value_iff regular known decodes, of_complete regular known decodes,
    of_repeat regular known decodes, of_missing regular known decodes⟩

end Decodes

/--
A record is decoded by name from every spelling of its entries: with blanks and escapes in the JSON
object, with any heads in the MessagePack map, and with the data of the fields spelled as they may
be. Entries that no field takes may be any values, even ones that no reader takes.
-/
theorem decodesByName_of_spellsEntries {codec : Codec} {name : String} {fields : Fields}
    (covered : Shape.record name fields ∈ Catalogue.shapes) {entries : List (String × Part)}
    (known : ∀ entry ∈ entries, ∀ shape, fields.find? entry.1 = some shape →
      codec.Spells shape entry.2 ∧ shape.holds entry.2.meaning)
    (unknown : ∀ entry ∈ entries, fields.find? entry.1 = none → codec.HasOutline entry.2.bytes)
    {payload rest : Bytes} (spelled : codec.SpellsEntries entries payload)
    (ignored : codec = .json → Json.AreBlanks rest) :
    DecodesByName fields (entries.map Part.entry)
      (codec.decode (.record name fields) (payload ++ rest)) := by
  obtain ⟨closed, shallow⟩ := Catalogue.isClosed_of_mem covered nofun
  have regular := Catalogue.isRegular_of_mem covered
  rw [Shape.depth] at shallow
  have decodes := decodes_of_spellsEntries regular closed (by omega) known unknown spelled ignored
  rw [Shape.isRegular, Bool.and_eq_true] at regular
  exact decodes.byName regular.2
    (List.forall_mem_map.2 fun entry member shape found => (known entry member shape found).2)

-- No reader takes the unknown entry: it is a number beyond all finite ones, or an extension.
example : json.decode Catalogue.point
    (Text.Utf8.encode "\x7b \"\\u0079\" : 2, \"z\":[1e999], \"x\":-1\x7d ") =
      .ok (.object [("x", .int (-1)), ("y", .int 2)]) := by cbv

example : messagePack.decode Catalogue.point [0xDE, 0x00, 0x03, 0xC4, 0x01, 0x79, 0x02, 0xA1, 0x7A,
    0xD4, 0x05, 0x06, 0xD9, 0x01, 0x78, 0xD0, 0xFF] =
      .ok (.object [("x", .int (-1)), ("y", .int 2)]) := by cbv

/--
An object with the data of some fields in it, in any order and among any other entries, decodes to
the record that has these data if no field is named twice and the required ones are there. Otherwise
the reason starts with the first entry that repeats a field, or else with the first field that is
missing.
-/
theorem decode_record {codec : Codec} {name : String} {fields : Fields}
    (covered : Shape.record name fields ∈ Catalogue.shapes) {entries : List (String × Datum)}
    (known : ∀ entry ∈ entries, ∀ shape, fields.find? entry.1 = some shape → shape.holds entry.2)
    (limited : codec = .messagePack → (Datum.object entries).isShort ∧
      ∀ entry ∈ entries, fields.find? entry.1 = none →
        entry.2.hasPlainIntegers ∧ entry.2.depth ≤ 127)
    {payload : Bytes} (encoded : codec.encode (.object entries) = .ok payload) :
    ((∃ datum, codec.decode (.record name fields) payload = .ok datum) ↔
      (fields.namedKeys entries).Nodup ∧
        ∀ field ∈ fields.required, field ∈ entries.map Prod.fst) ∧
    ((fields.namedKeys entries).Nodup →
      (∀ field ∈ fields.required, field ∈ entries.map Prod.fst) →
        codec.decode (.record name fields) payload = .ok (.object (fields.fill entries))) ∧
    (¬ (fields.namedKeys entries).Nodup → ∃ before key datum after detail,
      entries = before ++ (key, datum) :: after ∧ (fields.namedKeys before).Nodup ∧
        key ∈ fields.namedKeys before ∧
        codec.decode (.record name fields) payload =
          .error (.decode (s!"duplicate field `{key}`" ++ detail))) ∧
    ((fields.namedKeys entries).Nodup →
      (¬ ∀ field ∈ fields.required, field ∈ entries.map Prod.fst) → ∃ field detail,
        (fields.required.find? fun field => field ∉ entries.map Prod.fst) = some field ∧
        codec.decode (.record name fields) payload =
          .error (.decode (s!"missing field `{field}`" ++ detail))) := by
  obtain ⟨parts, rfl, encodes, spelled⟩ :=
    exists_spellsEntries (fun same => (limited same).1) encoded
  have short (entry : String × Part) (member : entry ∈ parts) (same : codec = .messagePack) :
      entry.2.meaning.isShort := by
    have isShort := (limited same).1
    rw [Datum.isShort, Bool.and_eq_true, Datum.entriesShort_iff] at isShort
    exact (isShort.2 _ (List.mem_map_of_mem member)).2
  have spells (entry : String × Part) (member : entry ∈ parts) (shape : Shape)
      (found : fields.find? entry.1 = some shape) :
      codec.Spells shape entry.2 ∧ shape.holds entry.2.meaning := by
    have held := known _ (List.mem_map_of_mem member) shape found
    exact ⟨.encoded held (short entry member) (encodes entry member), held⟩
  have outlined (entry : String × Part) (member : entry ∈ parts)
      (absent : fields.find? entry.1 = none) : codec.HasOutline entry.2.bytes := by
    refine hasOutline_of_encode (encodes entry member) fun same => ⟨short entry member same, ?_⟩
    have shallow := ((limited same).2 _ (List.mem_map_of_mem member) absent).2
    exact Nat.lt_of_le_of_lt shallow (by decide)
  have byName := decodesByName_of_spellsEntries covered spells outlined spelled
    fun _ => Json.areBlanks_nil
  rw [List.append_nil] at byName
  exact ⟨byName.accepted, byName.filled, byName.repeated, byName.missing⟩

/--
Two coordinates in the wrong order make a point, with an unknown entry on both sides of one. A map
with a coordinate too many or too few makes none.
-/
theorem decode_record_point :
    (∃ payload, json.encode (.object [("y", .int 2), ("z", .list [.null]), ("x", .int (-1)),
        ("z", .bool true)]) = .ok payload ∧
      json.decode Catalogue.point payload = .ok (.object [("x", .int (-1)), ("y", .int 2)])) ∧
    messagePack.decode Catalogue.point [0x84, 0xA1, 0x79, 0x02, 0xA1, 0x7A, 0x91, 0xC0, 0xA1, 0x78,
        0xFF, 0xA1, 0x7A, 0xC3] = .ok (.object [("x", .int (-1)), ("y", .int 2)]) ∧
    (∃ detail, messagePack.decode Catalogue.point [0x83, 0xA1, 0x78, 0x01, 0xA1, 0x78, 0x02, 0xA1,
        0x79, 0x03] = .error (.decode ("duplicate field `x`" ++ detail))) ∧
    ∃ detail, messagePack.decode Catalogue.point [0x82, 0xA1, 0x7A, 0xC0, 0xA1, 0x78, 0x01] =
      .error (.decode ("missing field `y`" ++ detail)) := by
  have covered : Catalogue.point ∈ Catalogue.shapes := by decide
  refine ⟨?_, ?_, ?_, ?_⟩
  · have written : ∃ payload, json.encode (.object [("y", .int 2), ("z", .list [.null]),
        ("x", .int (-1)), ("z", .bool true)]) = .ok payload := ⟨_, rfl⟩
    obtain ⟨payload, encoded⟩ := written
    obtain ⟨_, filled, _⟩ := @decode_record json "Point" _ covered _
      (show Fields.Admits _ _ by decide) nofun payload encoded
    exact ⟨payload, encoded, filled (by decide) (by decide)⟩
  · obtain ⟨_, filled, _⟩ := @decode_record messagePack "Point" _ covered [("y", .int 2),
      ("z", .list [.null]), ("x", .int (-1)), ("z", .bool true)] (show Fields.Admits _ _ by decide)
      (fun _ => by decide) _ rfl
    exact filled (by decide) (by decide)
  · obtain ⟨_, _, repeated, _⟩ := @decode_record messagePack "Point" _ covered [("x", .int 1),
      ("x", .int 2), ("y", .int 3)] (show Fields.Admits _ _ by decide) (fun _ => by decide) _ rfl
    obtain ⟨before, key, datum, after, detail, same, distinct, old, refused⟩ := repeated (by decide)
    match before with
    | [] => cases old
    | [first] =>
        simp only [List.cons_append, List.nil_append, List.cons.injEq, Prod.mk.injEq] at same
        obtain ⟨_, ⟨rfl, _⟩, _⟩ := same
        exact ⟨detail, refused⟩
    | first :: second :: others =>
        simp only [List.cons_append, List.cons.injEq] at same
        obtain ⟨rfl, rfl, _⟩ := same
        simp [Fields.namedKeys, Fields.names] at distinct
  · obtain ⟨_, _, _, missing⟩ := @decode_record messagePack "Point" _ covered [("z", .null),
      ("x", .int 1)] (show Fields.Admits _ _ by decide) (fun _ => by decide) _ rfl
    obtain ⟨field, detail, first, refused⟩ := missing (by decide) (by decide)
    obtain rfl : "y" = field := Option.some.inj (Eq.trans (by decide) first)
    exact ⟨detail, refused⟩

end Switchboard.Codec
