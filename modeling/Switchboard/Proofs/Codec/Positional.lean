import Switchboard.Proofs.Codec.Spelling

/-
This file shows that a record is decoded from a list of its fields as well as by their names, and
that such a list must neither be too short nor too long.
-/

namespace Switchboard

/-- A list for such a record needs its last item, and it has one. -/
def Shape.needsItems : Shape → Bool
  | .record _ fields => decide (fields.names ≠ []) && decide (fields.defaults.getLast? ≠ some true)
  | _ => true

namespace Catalogue

variable {name : String} {fields : Fields} (member : Shape.record name fields ∈ shapes)
include member

theorem needsItems_of_mem : fields.names ≠ [] ∧ fields.defaults.getLast? ≠ some true := by
  have all : ∀ shape ∈ shapes, shape.needsItems = true := by decide
  have needs := all _ member
  rwa [Shape.needsItems, Bool.and_eq_true, decide_eq_true_eq, decide_eq_true_eq] at needs

end Catalogue

namespace Codec

section Refusals

variable {shape : Shape} {payload : Bytes}

theorem json_refused
    (stopped : ∃ fault, Json.readShape shape Json.maximalDepth payload = .error fault) :
    ∃ reason, json.decode shape payload = .error (.decode reason) := by
  obtain ⟨fault, same⟩ := stopped
  rw [decode, Json.readPayload, same]
  exact ⟨_, rfl⟩

theorem messagePack_refused
    (stopped : ∃ fault, MessagePack.readShape shape MessagePack.maximalDepth payload = .error fault) :
    ∃ reason, messagePack.decode shape payload = .error (.decode reason) := by
  obtain ⟨fault, same⟩ := stopped
  rw [decode, MessagePack.readPayload, same]
  exact ⟨_, rfl⟩

end Refusals

section Lengths

variable {codec : Codec} {name : String} {fields : Fields}
  (covered : Shape.record name fields ∈ Catalogue.shapes) {entries : List (String × Part)}
  (named : entries.map Prod.fst = fields.names)
  (inside : ∀ entry ∈ entries, ∀ shape, fields.find? entry.1 = some shape →
    codec.Spells shape entry.2)
include covered named inside

/-- A part is missing at the end of the list, be it one that could be missing in an object. -/
theorem refused_of_fewer {count : Nat} (fewer : count < entries.length) {payload : Bytes}
    (spelled : codec.SpellsList ((Part.items entries).take count) payload) :
    ∃ reason, codec.decode (.record name fields) payload = .error (.decode reason) := by
  obtain ⟨distinct, regular, closed, shallow⟩ := Catalogue.fields_of_mem covered
  obtain ⟨_, needed⟩ := Catalogue.needsItems_of_mem covered
  cases spelled with
  | brackets _ =>
      have resolves := Spells.json_resolves_parts regular closed (Nat.le_trans shallow
        (show 1 ≤ 126 by decide)) inside
      apply json_refused
      rw [← List.append_nil (Json.spellList _)]
      exact Json.exists_fault_of_fewer distinct resolves named
        (Spells.startsItem_of_named named inside) needed fewer []
  | counted isHead =>
      rw [List.length_take, Part.length_items, Nat.min_eq_left (Nat.le_of_lt fewer)] at isHead
      have resolves := Spells.messagePack_resolves_parts regular closed
        (show fields.depth + 127 ≤ 1022 by omega) inside
      apply messagePack_refused
      rw [← List.append_nil (_ ++ _)]
      exact MessagePack.exists_fault_of_fewer distinct resolves named needed fewer isHead []

/-- The list goes on behind the last field. -/
theorem refused_of_surplus {surplus : List Bytes} (more : surplus ≠ []) {payload : Bytes}
    (spelled : codec.SpellsList (Part.items entries ++ surplus) payload) :
    ∃ reason, codec.decode (.record name fields) payload = .error (.decode reason) := by
  obtain ⟨distinct, regular, closed, shallow⟩ := Catalogue.fields_of_mem covered
  obtain ⟨filled, _⟩ := Catalogue.needsItems_of_mem covered
  cases spelled with
  | brackets _ =>
      have some : entries ≠ [] := by
        intro none
        rw [none] at named
        exact filled named.symm
      have resolves := Spells.json_resolves_parts regular closed (Nat.le_trans shallow
        (show 1 ≤ 126 by decide)) inside
      apply json_refused
      rw [← List.append_nil (Json.spellList _)]
      exact Json.exists_fault_of_surplus distinct resolves named
        (Spells.startsItem_of_named named inside) some more []
  | counted isHead =>
      rw [List.length_append, Part.length_items] at isHead
      have resolves := Spells.messagePack_resolves_parts regular closed
        (show fields.depth + 127 ≤ 1022 by omega) inside
      apply messagePack_refused
      rw [← List.append_nil (_ ++ _)]
      exact MessagePack.exists_fault_of_surplus distinct resolves named more isHead []

end Lengths

/-- No selection of encoded items makes up for one that is missing. -/
theorem refused_of_short_list {codec : Codec} {name : String} {fields : Fields}
    (covered : Shape.record name fields ∈ Catalogue.shapes) {items : List Datum}
    (fewer : items.length < fields.names.length) (carried : codec.Carries (.list items))
    {payload : Bytes} (encoded : codec.encode (.list items) = .ok payload) :
    ∃ reason, codec.decode (.record name fields) payload = .error (.decode reason) := by
  obtain ⟨_, needed⟩ := Catalogue.needsItems_of_mem covered
  obtain ⟨refusal, refused⟩ := Fields.alignWhole_views_of_fewer
    (Shape.record name fields).expectedLength needed fewer
  have decodes := decodes_of_encode carried encoded (.record name fields)
  rw [Shape.interpret, refused] at decodes
  exact decodes.exists_reason

/--
A list of the fields of a record in declaration order decodes to the record like an object with the
same parts does, whatever their forms are. A list is refused if it lacks the last of these parts, or
if it has fewer items of any kind, or if anything comes behind the last part.
-/
theorem decode_positional {codec : Codec} {name : String} {fields : Fields}
    (covered : Shape.record name fields ∈ Catalogue.shapes) {entries : List (String × Part)}
    (held : fields.hold (entries.map Part.entry))
    (inside : ∀ entry ∈ entries, ∀ shape, fields.find? entry.1 = some shape →
      codec.Spells shape entry.2) :
    (∀ payload, codec.SpellsList (Part.items entries) payload →
      codec.decode (.record name fields) payload = .ok (.object (entries.map Part.entry))) ∧
    (∀ payload, codec.SpellsObject (entries.map fun entry => (entry.1, entry.2.bytes)) payload →
      codec.decode (.record name fields) payload = .ok (.object (entries.map Part.entry))) ∧
    (∀ count < entries.length, ∀ payload,
      codec.SpellsList ((Part.items entries).take count) payload →
        ∃ reason, codec.decode (.record name fields) payload = .error (.decode reason)) ∧
    (∀ items : List Datum, items.length < entries.length → codec.Carries (.list items) →
      ∀ payload, codec.encode (.list items) = .ok payload →
        ∃ reason, codec.decode (.record name fields) payload = .error (.decode reason)) ∧
    ∀ surplus ≠ [], ∀ payload, codec.SpellsList (Part.items entries ++ surplus) payload →
      ∃ reason, codec.decode (.record name fields) payload = .error (.decode reason) := by
  obtain ⟨distinct, regular, closed, shallow⟩ := Catalogue.fields_of_mem covered
  have keys := Fields.names_of_hold held
  have named : entries.map Prod.fst = fields.names := by
    rw [← keys, List.map_map]
    rfl
  have arranged (part : Part) (spelled : codec.Arranges fields entries part) :
      codec.decode (.record name fields) part.bytes = .ok (.object (entries.map Part.entry)) := by
    have holds : (Shape.record name fields).holds (.object (entries.map Part.entry)) := held
    have same := (spelled.meaning_eq distinct).1
    rw [Fields.fill_of_names distinct keys] at same
    have nothing : codec = .json → Json.AreBlanks [] := fun _ => Json.areBlanks_nil
    have decodes := decodes_of_spells covered nofun (.record inside spelled) nothing
    rw [List.append_nil, same, Shape.strict, if_pos holds] at decodes
    exact decodes
  refine ⟨fun payload spelled => arranged _ (.list named spelled), fun payload spelled => ?_,
    fun count fewer payload spelled => refused_of_fewer covered named inside fewer spelled,
    fun items fewer carried payload encoded => ?_,
    fun surplus more payload spelled => refused_of_surplus covered named inside more spelled⟩
  · refine arranged ⟨payload, _⟩ (.object ?_ ?_ ?_ spelled)
    · rw [Fields.namedKeys_of_names keys]
      exact distinct
    · rw [keys]
      exact fun _ => Fields.mem_names_of_mem_required
    · intro entry member absent
      obtain ⟨shape, present⟩ := exists_shape_of_named named member
      rw [present] at absent
      cases absent
  · rw [← List.length_map Prod.fst, named] at fewer
    exact refused_of_short_list covered fewer carried encoded

/-- A message without a note needs a null at the end of its list, and no second one behind it. -/
theorem decode_positional_message :
    json.decode Catalogue.testMessage
        (Json.spellList [[0x37], [0x22, 0x41, 0x22], Json.nullLiteral]) =
      .ok (.object [("id", .int 7), ("data", .text "A"), ("note", .null)]) ∧
    (∃ reason, json.decode Catalogue.testMessage (Json.spellList [[0x37], [0x22, 0x41, 0x22]]) =
      .error (.decode reason)) ∧
    ∃ reason, json.decode Catalogue.testMessage
        (Json.spellList [[0x37], [0x22, 0x41, 0x22], Json.nullLiteral, Json.nullLiteral]) =
      .error (.decode reason) := by
  have covered : Catalogue.testMessage ∈ Catalogue.shapes := by decide
  let entries : List (String × Part) := [("id", ⟨[0x37], .int 7⟩),
    ("data", ⟨[0x22, 0x41, 0x22], .text "A"⟩), ("note", ⟨Json.nullLiteral, .null⟩)]
  obtain ⟨whole, _, fewer, _, surplus⟩ := @decode_positional json "TestMessage" _ covered entries
    (by decide) fun entry member shape known => by
      simp only [entries, List.mem_cons, List.not_mem_nil, or_false] at member
      obtain rfl | rfl | rfl := member <;> simp [Fields.find?] at known <;> rw [← known] <;>
        exact .encoded rfl nofun rfl
  exact ⟨whole _ (.brackets _), fewer 2 (by decide) _ (.brackets _),
    surplus [Json.nullLiteral] (List.cons_ne_nil _ _) _ (.brackets _)⟩

end Codec

end Switchboard
