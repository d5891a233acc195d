import Switchboard.Proofs.Codec.Spelling

/-
This file shows that whole numbers are decoded exactly or refused, whatever width or number of
digits they are spelled with, and whether they are a payload of their own or a field of a record.
-/

namespace Switchboard.Codec

/-- No two parts stand for one field. -/
theorem Arranges.eq_of_key {codec : Codec} {fields : Fields} {entries : List (String × Part)}
    {part : Part} (distinct : fields.names.Nodup) (arranged : codec.Arranges fields entries part)
    {one other : String × Part} (isOne : one ∈ entries) (isOther : other ∈ entries)
    (isField : one.1 ∈ fields.names) (same : other.1 = one.1) : other = one := by
  obtain ⟨_, different, _⟩ := arranged.meaning_eq distinct
  rw [Fields.namedKeys, List.map_map, List.filter_map] at different
  refine List.inj_on_of_nodup_map different (List.mem_filter.2 ⟨isOther, ?_⟩)
    (List.mem_filter.2 ⟨isOne, ?_⟩) same
  · rw [← same] at isField
    exact decide_eq_true isField
  · exact decide_eq_true isField

/-- A strict outcome is a value or a refusal. -/
theorem Decodes.of_strict {codec : Codec} {shape : Shape} {datum : Datum}
    {result : Except Error Datum} (decodes : codec.Decodes result (shape.strict datum)) :
    if shape.holds datum then result = .ok datum
    else ∃ reason, result = .error (.decode reason) := by
  rw [Shape.strict] at decodes
  split at decodes
  · next held =>
      rw [if_pos held]
      exact decodes
  · next notHeld =>
      rw [if_neg notHeld]
      exact decodes

/--
A whole number is decoded at a type that holds it, and refused at all others; a zero with a sign is
held by none. So it is as a field of a record, if the other parts of the record are as they have to
be, and the decoded record has the number in its place.
-/
theorem decode_number {codec : Codec} {number : Datum} {bytes : Bytes}
    (spelled : codec.SpellsNumber number bytes) (type : IntegerType) {rest : Bytes}
    (ignored : codec = .json → Json.AreBlanks rest) :
    (if (Shape.integer type).holds number then
      codec.decode (.integer type) (bytes ++ rest) = .ok number
    else ∃ reason, codec.decode (.integer type) (bytes ++ rest) = .error (.decode reason)) ∧
    ∀ {name : String} {fields : Fields}, Shape.record name fields ∈ Catalogue.shapes →
      ∀ {entries : List (String × Part)} {part : Part}, codec.Arranges fields entries part →
      ∀ {key : String}, fields.find? key = some (.integer type) →
      (key, ⟨bytes, number⟩) ∈ entries →
      (∀ entry ∈ entries, entry.1 ≠ key → ∀ shape, fields.find? entry.1 = some shape →
        codec.Spells shape entry.2 ∧ shape.holds entry.2.meaning) →
      if (Shape.integer type).holds number then
        codec.decode (.record name fields) (part.bytes ++ rest) = .ok part.meaning ∧
          ∃ found, part.meaning = .object found ∧ found.lookup key = some number
      else ∃ reason,
        codec.decode (.record name fields) (part.bytes ++ rest) = .error (.decode reason) := by
  constructor
  · have covered := Catalogue.integer_mem_shapes type
    exact (decodes_of_spells covered nofun (.number spelled) ignored).of_strict
  intro name fields covered entries part arranged key known member others
  obtain ⟨distinct, _⟩ := Catalogue.fields_of_mem covered
  have isField : key ∈ fields.names := by
    rw [← Fields.find?_isSome_iff, known]
    rfl
  have inside (entry : String × Part) (isEntry : entry ∈ entries) (shape : Shape)
      (present : fields.find? entry.1 = some shape) : codec.Spells shape entry.2 := by
    by_cases same : entry.1 = key
    · rw [same, known, Option.some.injEq] at present
      rw [arranged.eq_of_key distinct member isEntry isField same, ← present]
      exact .number spelled
    · exact (others entry isEntry same shape present).1
  have decodes := (decodes_of_spells covered nofun (.record inside arranged) ignored).of_strict
  have holds := arranged.holds_iff distinct name
  by_cases inRange : (Shape.integer type).holds number
  · have admitted : fields.Admits (entries.map Part.entry) := by
      refine List.forall_mem_map.2 fun entry isEntry shape present => ?_
      by_cases same : entry.1 = key
      · have whole := arranged.eq_of_key distinct member isEntry isField same
        rw [whole] at present ⊢
        have isInteger : fields.find? key = some shape := present
        rw [known, Option.some.injEq] at isInteger
        rw [← isInteger]
        exact inRange
      · exact (others entry isEntry same shape present).2
    rw [if_pos (holds.2 admitted)] at decodes
    rw [if_pos inRange]
    exact ⟨decodes, arranged.exists_lookup distinct member isField⟩
  · have notAdmitted : ¬ fields.Admits (entries.map Part.entry) := fun admitted =>
      inRange (admitted (key, number) (List.mem_map.2 ⟨_, member, rfl⟩) _ known)
    rw [if_neg fun held => notAdmitted (holds.1 held)] at decodes
    rw [if_neg inRange]
    exact decodes

/-- The number of a customer may take two bytes although one is enough. -/
theorem decode_number_lookup :
    messagePack.decode (.integer .i64) [0xD1, 0xFF, 0xFE, 0x00] = .ok (.int (-2)) ∧
      messagePack.decode Customers.lookupShape [0x91, 0xD1, 0xFF, 0xFE, 0x00] =
        .ok (.object [("id", .int (-2))]) := by
  have spelled : messagePack.SpellsNumber (.int (-2)) [0xD1, 0xFF, 0xFE] :=
    .marked (.signed (show ((0xD1 : UInt8), 2) ∈ MessagePack.signedMarkers by decide)
      (by decide) (by decide))
  have inRange : (Shape.integer .i64).holds (.int (-2)) := rfl
  have covered : Customers.lookupShape ∈ Catalogue.shapes := by decide
  let entries : List (String × Part) := [("id", ⟨[0xD1, 0xFF, 0xFE], .int (-2)⟩)]
  have counted : messagePack.SpellsList (Part.items entries) [0x91, 0xD1, 0xFF, 0xFE] :=
    .counted (show MessagePack.IsListHead (Part.items entries).length [0x91] from .fixed (by decide))
  have arranged : messagePack.Arranges (.cons "id" false (.integer .i64) .nil) entries
      ⟨[0x91, 0xD1, 0xFF, 0xFE], .object [("id", .int (-2))]⟩ := .list rfl counted
  have behind : messagePack = .json → Json.AreBlanks [0x00] := nofun
  obtain ⟨single, field⟩ := decode_number spelled .i64 behind
  have whole := field covered arranged rfl List.mem_cons_self fun entry member different => by
    rw [List.mem_singleton.1 member] at different
    exact absurd rfl different
  rw [if_pos inRange] at single whole
  exact ⟨single, whole.1⟩

end Switchboard.Codec
