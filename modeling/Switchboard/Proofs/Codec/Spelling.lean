import Switchboard.Proofs.Codec.Agreement
import Switchboard.Proofs.Json.Integer
import Switchboard.Proofs.Json.Record
import Switchboard.Proofs.MessagePack.Integer
import Switchboard.Proofs.MessagePack.Record

/-
This file describes the payloads that can stand for a record besides the one that is encoded for
it. They decode to the record that they spell, or they are refused because it does not have the
expected shape.
-/

namespace Switchboard.Codec

/-- A list stands between brackets, or behind a head that counts its items. -/
inductive SpellsList : Codec → List Bytes → Bytes → Prop where
  | brackets (items : List Bytes) : SpellsList .json items (Json.spellList items)
  | counted {items : List Bytes} {head : Bytes}
    (isHead : MessagePack.IsListHead items.length head) :
    SpellsList .messagePack items (head ++ items.flatten)

/-- The names of the entries stand in front of them. -/
inductive SpellsObject : Codec → List (String × Bytes) → Bytes → Prop where
  | braces (entries : List (String × Bytes)) : SpellsObject .json entries (Json.spellObject entries)
  | counted {entries : List (String × Bytes)} {head : Bytes}
    (isHead : MessagePack.IsMapHead entries.length head)
    (short : ∀ entry ∈ entries, Datum.isShortText entry.1) :
    SpellsObject .messagePack entries (head ++ entries.flatMap MessagePack.spellEntry)

/-- A whole number is spelled by its JSON literal or in one of several MessagePack forms. -/
inductive SpellsNumber : Codec → Datum → Bytes → Prop where
  | literal (value : Int) : SpellsNumber .json (.int value) (Json.writeInt value)
  | negativeZero : SpellsNumber .json (.float ⟨0x8000000000000000⟩) (Json.spellWhole true 0)
  | marked {value : Int} {bytes : Bytes} (spelled : MessagePack.SpellsInteger value bytes) :
    SpellsNumber .messagePack (.int value) bytes

/-- Entries that no field takes are skipped when they are encoded within the limits of the format. -/
structure IsSurplus (codec : Codec) (part : Part) : Prop where
  encoded : codec.encode part.meaning = .ok part.bytes
  limited : codec = .messagePack →
    part.meaning.isShort ∧ part.meaning.hasPlainIntegers ∧ part.meaning.depth ≤ 127

/--
The parts of a record stand in a list in declaration order, or in an object in any order and among
surplus entries.
-/
inductive Arranges (codec : Codec) (fields : Fields) (entries : List (String × Part)) :
    Part → Prop where
  | list (named : entries.map Prod.fst = fields.names) {bytes : Bytes}
    (spelled : codec.SpellsList (Part.items entries) bytes) :
    Arranges codec fields entries ⟨bytes, .object (entries.map Part.entry)⟩
  | object (different : (fields.namedKeys (entries.map Part.entry)).Nodup)
    (complete : ∀ field ∈ fields.required, field ∈ (entries.map Part.entry).map Prod.fst)
    (unknown : ∀ entry ∈ entries, fields.find? entry.1 = none → codec.IsSurplus entry.2)
    {bytes : Bytes}
    (spelled : codec.SpellsObject (entries.map fun entry => (entry.1, entry.2.bytes)) bytes) :
    Arranges codec fields entries ⟨bytes, .object (fields.fill (entries.map Part.entry))⟩

/--
A part spells its meaning for a shape: it is encoded as it has to be, or it is a number that may be
out of range, or it is a record whose parts spell their meanings.
-/
inductive Spells (codec : Codec) : Shape → Part → Prop where
  | encoded {shape : Shape} {datum : Datum} {bytes : Bytes} (held : shape.holds datum)
    (short : codec = .messagePack → datum.isShort) (encoded : codec.encode datum = .ok bytes) :
    Spells codec shape ⟨bytes, datum⟩
  | number {type : IntegerType} {datum : Datum} {bytes : Bytes}
    (spelled : codec.SpellsNumber datum bytes) : Spells codec (.integer type) ⟨bytes, datum⟩
  | record {name : String} {fields : Fields} {entries : List (String × Part)} {part : Part}
    (inside : ∀ entry ∈ entries, ∀ shape, fields.find? entry.1 = some shape →
      Spells codec shape entry.2)
    (arranged : codec.Arranges fields entries part) : Spells codec (.record name fields) part

/-- Every field has its part, if the parts are named like the fields. -/
theorem exists_shape_of_named {fields : Fields} {entries : List (String × Part)}
    (named : entries.map Prod.fst = fields.names) {entry : String × Part}
    (member : entry ∈ entries) : ∃ shape, fields.find? entry.1 = some shape := by
  apply Option.isSome_iff_exists.1
  rw [Fields.find?_isSome_iff, ← named]
  exact List.mem_map_of_mem member

namespace Arranges

variable {codec : Codec} {fields : Fields} {entries : List (String × Part)} {part : Part}
  (distinct : fields.names.Nodup) (arranged : codec.Arranges fields entries part)
include distinct arranged

/-- In both forms the parts fill the fields of the record. -/
theorem meaning_eq : part.meaning = .object (fields.fill (entries.map Part.entry)) ∧
    (fields.namedKeys (entries.map Part.entry)).Nodup ∧
    ∀ field ∈ fields.required, field ∈ (entries.map Part.entry).map Prod.fst := by
  cases arranged with
  | list named _ =>
      have keys : (entries.map Part.entry).map Prod.fst = fields.names := by
        rw [List.map_map]
        exact named
      rw [Fields.fill_of_names distinct keys, Fields.namedKeys_of_names keys, keys]
      exact ⟨rfl, distinct, fun _ => Fields.mem_names_of_mem_required⟩
  | object different complete _ _ => exact ⟨rfl, different, complete⟩

/-- The record has its shape when its parts have the shapes of their fields. -/
theorem holds_iff (name : String) :
    (Shape.record name fields).holds part.meaning ↔ fields.Admits (entries.map Part.entry) := by
  obtain ⟨same, different, complete⟩ := arranged.meaning_eq distinct
  rw [same, Shape.holds]
  exact Fields.hold_fill_iff_admits distinct different complete

/-- The record holds the meaning of a part under the name of its field. -/
theorem exists_lookup {entry : String × Part} (member : entry ∈ entries)
    (isField : entry.1 ∈ fields.names) :
    ∃ found, part.meaning = .object found ∧ found.lookup entry.1 = some entry.2.meaning := by
  obtain ⟨same, different, _⟩ := arranged.meaning_eq distinct
  refine ⟨_, same, ?_⟩
  have isNamed : FieldView.isNamed fields.views (Part.entry entry) := by
    rw [Fields.isNamed_views]
    exact decide_eq_true isField
  rw [Fields.namedKeys_eq_map] at different
  have found := lookup_of_mem different (List.mem_filter.2 ⟨List.mem_map_of_mem member, isNamed⟩)
  rw [lookup_filter_isNamed (show (Part.entry entry).1 ∈ fields.names from isField)] at found
  have present : (entries.map Part.entry).lookup entry.1 = some entry.2.meaning := found
  rw [Fields.lookup_fill isField, present, Option.getD_some]

end Arranges

namespace Spells

section Json

/-- A spelled part can be an item of a list. -/
theorem startsItem {shape : Shape} {part : Part} (spells : json.Spells shape part) :
    Json.StartsItem part.bytes := by
  cases spells with
  | encoded _ _ encoded => exact Json.startsItem_of_write (encode_json_eq_ok.1 encoded)
  | number spelled =>
      cases spelled with
      | literal value =>
          have written : Json.write (.int value) = .ok (Json.writeInt value) := rfl
          exact Json.startsItem_of_write written
      | negativeZero => exact ⟨_, _, rfl, by decide, by decide⟩
  | record _ arranged =>
      cases arranged with
      | list _ spelled =>
          cases spelled
          exact ⟨_, _, rfl, by decide, by decide⟩
      | object _ _ _ spelled =>
          cases spelled
          exact ⟨_, _, rfl, by decide, by decide⟩

theorem startsItem_of_named {fields : Fields} {entries : List (String × Part)}
    (named : entries.map Prod.fst = fields.names)
    (inside : ∀ entry ∈ entries, ∀ shape, fields.find? entry.1 = some shape →
      json.Spells shape entry.2) :
    ∀ entry ∈ entries, Json.StartsItem entry.2.bytes := by
  intro entry member
  obtain ⟨shape, known⟩ := exists_shape_of_named named member
  exact (inside entry member shape known).startsItem

/-- A reader is strict about what is spelled for its shape. -/
theorem json_resolves {shape : Shape} {part : Part} (spells : json.Spells shape part) {depth : Nat}
    (regular : shape.isRegular) (closed : shape.isClosed) (within : shape.depth ≤ depth) :
    Json.Resolves (Json.readShape shape depth) part.bytes (shape.strict part.meaning) := by
  induction spells generalizing depth with
  | encoded held _ encoded =>
      intro rest ends
      have shallow := Nat.le_trans (Shape.depth_le_of_isClosed closed held) within
      have read := Json.readShape_of_holds regular held (Shape.isFloatFree_of_isClosed closed held)
        shallow (encode_json_eq_ok.1 encoded) rest fun _ => ends
      rw [read, Shape.strict, if_pos held]
      exact rfl
  | number spelled =>
      cases spelled with
      | literal value => exact Json.resolves_writeInt _ depth value
      | negativeZero => exact Json.resolves_negativeZero _ depth _
  | @record name fields entries part inside arranged inductionHypothesis =>
      rw [Shape.isRegular, Bool.and_eq_true, decide_eq_true_eq] at regular
      obtain ⟨inner, rfl, room⟩ := Shape.exists_depth_of_le within
      have resolves (entry : String × Part) (member : entry ∈ entries) (shape : Shape)
          (known : fields.find? entry.1 = some shape) :
          Json.Resolves (Json.readShape shape inner) entry.2.bytes
            (shape.strict entry.2.meaning) := by
        obtain ⟨isClosed, bounded⟩ := Fields.isClosed_of_find? closed known
        exact inductionHypothesis entry member shape known
          (Fields.isRegular_of_find? regular.2 known) isClosed (Nat.le_trans bounded room)
      cases arranged with
      | list named spelled =>
          cases spelled
          exact Json.resolves_spellList regular.1 resolves named (startsItem_of_named named inside)
      | object different complete unknown spelled =>
          cases spelled
          refine Json.resolves_spellObject regular.1 resolves (fun entry member absent => ?_)
            different complete
          exact Json.isSkipped_write (encode_json_eq_ok.1 (unknown entry member absent).encoded)

theorem json_resolves_parts {fields : Fields} (regular : fields.areRegular)
    (closed : fields.areClosed) {depth : Nat} (within : fields.depth ≤ depth)
    {entries : List (String × Part)}
    (inside : ∀ entry ∈ entries, ∀ shape, fields.find? entry.1 = some shape →
      json.Spells shape entry.2) :
    ∀ entry ∈ entries, ∀ shape, fields.find? entry.1 = some shape →
      Json.Resolves (Json.readShape shape depth) entry.2.bytes
        (shape.strict entry.2.meaning) := by
  intro entry member shape known
  obtain ⟨isClosed, bounded⟩ := Fields.isClosed_of_find? closed known
  exact (inside entry member shape known).json_resolves
    (Fields.isRegular_of_find? regular known) isClosed (Nat.le_trans bounded within)

end Json

section MessagePack

/-- The surplus entries need some room below the records that they are in. -/
theorem messagePack_resolves {shape : Shape} {part : Part} (spells : messagePack.Spells shape part)
    {depth : Nat} (regular : shape.isRegular) (closed : shape.isClosed)
    (within : shape.depth + 127 ≤ depth) :
    MessagePack.Resolves (MessagePack.readShape shape depth) part.bytes
      (shape.strict part.meaning) := by
  induction spells generalizing depth with
  | @encoded shape datum bytes held short encoded =>
      intro rest
      have shallow := Shape.depth_le_of_isClosed closed held
      have readable : MessagePack.Readable depth datum :=
        ⟨⟨Shape.hasPlainIntegers_of_holds held, short rfl⟩, by omega⟩
      have follows := MessagePack.readShape_write shape depth readable rest
      rw [encode, Except.ok.injEq] at encoded
      rw [encoded, Shape.interpret_of_holds regular held] at follows
      rw [Shape.strict, if_pos held]
      exact follows
  | number spelled =>
      cases spelled with
      | marked spelled => exact spelled.resolves _ depth
  | @record name fields entries part inside arranged inductionHypothesis =>
      rw [Shape.isRegular, Bool.and_eq_true, decide_eq_true_eq] at regular
      rw [Shape.depth] at within
      obtain ⟨inner, rfl⟩ := Nat.exists_eq_add_of_le' (show 1 ≤ depth by omega)
      have resolves (entry : String × Part) (member : entry ∈ entries) (shape : Shape)
          (known : fields.find? entry.1 = some shape) :
          MessagePack.Resolves (MessagePack.readShape shape inner) entry.2.bytes
            (shape.strict entry.2.meaning) := by
        obtain ⟨isClosed, bounded⟩ := Fields.isClosed_of_find? closed known
        exact inductionHypothesis entry member shape known
          (Fields.isRegular_of_find? regular.2 known) isClosed (by omega)
      cases arranged with
      | list named spelled =>
          cases spelled with
          | counted isHead =>
              rw [Part.length_items] at isHead
              exact MessagePack.resolves_list regular.1 resolves named isHead
      | object different complete unknown spelled =>
          cases spelled with
          | counted isHead short =>
              rw [List.length_map] at isHead
              rw [List.flatMap_map]
              refine MessagePack.resolves_object regular.1 resolves isHead
                (fun entry member absent => ?_) (List.forall_mem_map.1 short) different complete
              obtain ⟨encoded, limited⟩ := unknown entry member absent
              obtain ⟨isShort, _, shallow⟩ := limited rfl
              rw [encode, Except.ok.injEq] at encoded
              rw [← encoded]
              exact MessagePack.isSkipped_write isShort (by omega)

theorem messagePack_resolves_parts {fields : Fields} (regular : fields.areRegular)
    (closed : fields.areClosed) {depth : Nat} (within : fields.depth + 127 ≤ depth)
    {entries : List (String × Part)}
    (inside : ∀ entry ∈ entries, ∀ shape, fields.find? entry.1 = some shape →
      messagePack.Spells shape entry.2) :
    ∀ entry ∈ entries, ∀ shape, fields.find? entry.1 = some shape →
      MessagePack.Resolves (MessagePack.readShape shape depth) entry.2.bytes
        (shape.strict entry.2.meaning) := by
  intro entry member shape known
  obtain ⟨isClosed, bounded⟩ := Fields.isClosed_of_find? closed known
  exact (inside entry member shape known).messagePack_resolves
    (Fields.isRegular_of_find? regular known) isClosed (by omega)

end MessagePack

end Spells

/--
A covered payload decodes to what it spells, or it is refused because its shape does not hold that.
Only blanks may stand behind a JSON payload.
-/
theorem decodes_of_spells {codec : Codec} {shape : Shape} (covered : shape ∈ Catalogue.shapes)
    (notAny : shape ≠ .any) {part : Part} (spells : codec.Spells shape part) {rest : Bytes}
    (ignored : codec = .json → Json.AreBlanks rest) :
    codec.Decodes (codec.decode shape (part.bytes ++ rest)) (shape.strict part.meaning) := by
  have regular := Catalogue.isRegular_of_mem covered
  obtain ⟨closed, shallow⟩ := Catalogue.isClosed_of_mem covered notAny
  cases codec with
  | json =>
      have blank := ignored rfl
      have resolves := spells.json_resolves regular closed
        (Nat.le_trans shallow (show 2 ≤ Json.maximalDepth by decide))
      exact json_decodes_of_follows blank (resolves rest (Json.endsNumber_of_areBlanks blank))
  | messagePack =>
      have room : shape.depth + 127 ≤ MessagePack.maximalDepth := by
        rw [MessagePack.maximalDepth]
        omega
      exact messagePack_decodes_of_follows (spells.messagePack_resolves regular closed room rest)

end Switchboard.Codec
