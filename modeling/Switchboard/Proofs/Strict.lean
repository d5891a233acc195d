import Switchboard.Proofs.Record

/-
This file reads the fields of a record strictly: data of their shapes are taken as they are, and
everything else is refused. So it is clear what a record makes of parts that may be out of range.
-/

namespace Switchboard

/-- A strict reading keeps what the shape holds and refuses everything else. -/
def Shape.strict (shape : Shape) (datum : Datum) : Except Refusal Datum :=
  if shape.holds datum then .ok datum else .error .unspecified

section Following

variable {φ α β : Type} {gives : Mismatch → φ → Prop} {result : Except φ (α × Bytes)}
  {rest : Bytes}

/-- The cause of a refusal need not be known. -/
theorem Follows.unspecified {refusal : Refusal} (follows : Follows gives result rest (.error refusal)) :
    Follows gives result rest (.error .unspecified) := by
  cases refusal with
  | unspecified => exact follows
  | mismatch cause =>
      obtain ⟨fault, _, stopped⟩ := follows
      exact ⟨fault, stopped⟩

/-- A chain is refused where nothing that its first reader returns lets it go on. -/
theorem Follows.exists_fault {outcome : Except Refusal α} {next : α × Bytes → Except φ (β × Bytes)}
    (first : Follows gives result rest outcome)
    (stops : ∀ value, ∃ fault, next (value, rest) = .error fault) :
    ∃ fault, (result >>= next) = .error fault := by
  cases outcome with
  | ok value =>
      have ran : result = .ok (value, rest) := first
      rw [ran]
      exact stops value
  | error refusal => exact exists_error_bind first.unspecified next

/-- An integer out of range has no place in its type. -/
theorem Follows.strict_of_accept {gives : Mismatch → φ → Prop} {result : Except φ (Datum × Bytes)}
    {type : IntegerType} {value : Int} (follows : Follows gives result rest
      (Refusal.ofMismatch ((type.accept value).map .int))) :
    Follows gives result rest ((Shape.integer type).strict (.int value)) := by
  rw [IntegerType.accept] at follows
  rw [Shape.strict, Shape.holds]
  by_cases inRange : type.holds value
  · rw [if_pos inRange] at follows ⊢
    exact follows
  · rw [if_neg inRange] at follows ⊢
    exact follows.unspecified

end Following

/-- A list is refused that is too short for a last field that it needs, whatever it holds. -/
theorem FieldView.align_of_fewer (expected : String) {fields : List FieldView}
    (needed : (fields.map defaulted).getLast? ≠ some true) {items : List Datum}
    (fewer : items.length < fields.length) (index : Nat) :
    ∃ refusal, align expected index fields items = .error refusal := by
  induction fields generalizing items index with
  | nil => exact absurd fewer (Nat.not_lt_zero _)
  | cons field fields inductionHypothesis =>
      have later : (fields.map defaulted).getLast? ≠ some true := by
        cases fields with
        | nil => exact nofun
        | cons second others => rwa [List.map_cons, List.map_cons, List.getLast?_cons_cons] at needed
      cases items with
      | nil =>
          rw [align]
          cases fields with
          | nil =>
              have required : field.defaulted ≠ true := fun same =>
                needed (congrArg some same)
              rw [if_neg required]
              exact ⟨_, rfl⟩
          | cons second others =>
              have none : ([] : List Datum).length < (second :: others).length := Nat.succ_pos _
              split
              · exact exists_error_bind (inductionHypothesis later none (index + 1)) _
              · exact ⟨_, rfl⟩
      | cons item items =>
          have tail := inductionHypothesis later (Nat.lt_of_succ_lt_succ fewer) (index + 1)
          rw [align]
          cases field.interpret item with
          | error refusal => exact ⟨refusal, rfl⟩
          | ok value =>
              rw [ok_bind]
              exact exists_error_bind tail _

namespace Fields

def strict : Fields → List FieldView
  | .nil => []
  | .cons name defaulted shape rest => ⟨name, defaulted, shape.strict⟩ :: rest.strict

theorem map_name_strict (fields : Fields) : fields.strict.map FieldView.name = fields.names := by
  match fields with
  | .nil => rfl
  | .cons name _ _ rest => rw [strict, List.map_cons, map_name_strict rest, names]

theorem strict_find?_none {fields : Fields} {key : String} (absent : fields.find? key = none) :
    (fields.strict.find? fun view => view.name = key) = none := by
  match fields with
  | .nil => rfl
  | .cons name defaulted shape rest =>
      rw [find?] at absent
      by_cases same : name = key
      · rw [if_pos same] at absent
        cases absent
      · rw [if_neg same] at absent
        rw [strict, List.find?_cons, decide_eq_false same]
        exact strict_find?_none absent

theorem strict_find?_some {fields : Fields} {key : String} {shape : Shape}
    (present : fields.find? key = some shape) :
    ∃ view, (fields.strict.find? fun view => view.name = key) = some view ∧
      view.interpret = shape.strict := by
  match fields with
  | .nil => cases present
  | .cons name defaulted first rest =>
      rw [find?] at present
      by_cases same : name = key
      · rw [if_pos same, Option.some.injEq] at present
        rw [strict, List.find?_cons, decide_eq_true same]
        exact ⟨_, rfl, congrArg Shape.strict present⟩
      · rw [if_neg same] at present
        rw [strict, List.find?_cons, decide_eq_false same]
        exact strict_find?_some present

theorem find?_isSome_of_strict {fields : Fields} {key : String}
    (named : (fields.strict.find? fun view => view.name = key).isSome) :
    (fields.find? key).isSome := by
  cases present : fields.find? key with
  | none =>
      rw [strict_find?_none present] at named
      cases named
  | some shape => rfl

theorem find?_eq_none_of_strict {fields : Fields} {key : String}
    (unnamed : (fields.strict.find? fun view => view.name = key) = none) :
    fields.find? key = none := by
  cases present : fields.find? key with
  | none => rfl
  | some shape =>
      obtain ⟨_, named, _⟩ := strict_find?_some present
      rw [unnamed] at named
      cases named

section Readable

variable {resolves : Shape → Bytes → Except Refusal Datum → Prop} {fields : Fields}

/-- A part is readable for the field of its name when the reader of that field takes it strictly. -/
def IsReadable (resolves : Shape → Bytes → Except Refusal Datum → Prop) (fields : Fields)
    (key : String) (bytes : Bytes) (datum : Datum) : Prop :=
  ∃ shape, fields.find? key = some shape ∧ resolves shape bytes (shape.strict datum)

theorem IsReadable.resolves_of_find? {key : String} {bytes : Bytes} {datum : Datum}
    (readable : fields.IsReadable resolves key bytes datum) {shape : Shape}
    (known : fields.find? key = some shape) : resolves shape bytes (shape.strict datum) := by
  obtain ⟨other, same, resolved⟩ := readable
  rw [known, Option.some.injEq] at same
  rw [same]
  exact resolved

/-- Readers that are made field by field belong to the strict fields. -/
theorem forall₂_strict {φ : Type} {related : φ → FieldView → Prop}
    {reader : String → Bool → Shape → φ} (readers : Fields → List φ) (none : readers .nil = [])
    (more : ∀ name defaulted shape rest, readers (.cons name defaulted shape rest) =
      reader name defaulted shape :: readers rest)
    {fields : Fields} (distinct : fields.names.Nodup)
    (belongs : ∀ name defaulted shape, fields.find? name = some shape →
      related (reader name defaulted shape) ⟨name, defaulted, shape.strict⟩) :
    List.Forall₂ related (readers fields) fields.strict := by
  match fields with
  | .nil =>
      rw [none]
      exact .nil
  | .cons name defaulted shape rest =>
      rw [names, List.nodup_cons] at distinct
      rw [more]
      refine .cons (belongs name defaulted shape (if_pos rfl)) ?_
      refine forall₂_strict readers none more distinct.2 fun other defaulted shape known =>
        belongs other defaulted shape ?_
      rw [find?, if_neg]
      · exact known
      · intro same
        apply distinct.1
        rw [same, ← find?_isSome_iff, known]
        rfl

variable {entries : List (String × Part)}
  (inside : ∀ entry ∈ entries, ∀ shape, fields.find? entry.1 = some shape →
    resolves shape entry.2.bytes (shape.strict entry.2.meaning))
include inside

theorem isReadable_of_isSome {entry : String × Part} (member : entry ∈ entries)
    (known : (fields.find? entry.1).isSome) :
    fields.IsReadable resolves entry.1 entry.2.bytes entry.2.meaning := by
  obtain ⟨shape, present⟩ := Option.isSome_iff_exists.1 known
  exact ⟨shape, present, inside entry member shape present⟩

/-- Each field of the record has its part in the list. -/
theorem isReadable_of_mem_zip (named : entries.map Prod.fst = fields.names) {parts : List Part}
    (leads : parts <+: entries.map Prod.snd) :
    ∀ pair ∈ (fields.strict.map FieldView.name).zip parts,
      fields.IsReadable resolves pair.1 pair.2.bytes pair.2.meaning := by
  intro pair member
  rw [map_name_strict, ← named] at member
  have isEntry := Part.mem_of_mem_zip leads member
  refine isReadable_of_isSome inside isEntry ?_
  rw [find?_isSome_iff, ← named]
  exact List.mem_map_of_mem isEntry

end Readable

/-- The strict fields have the names of the fields. -/
theorem isNamed_strict (fields : Fields) :
    FieldView.isNamed fields.strict = FieldView.isNamed fields.views := by
  funext entry
  rw [FieldView.isNamed, FieldView.isNamed]
  cases present : fields.find? entry.1 with
  | none => rw [strict_find?_none present, views_find?_none present]
  | some shape =>
      obtain ⟨_, strictly, _⟩ := strict_find?_some present
      obtain ⟨_, plainly, _⟩ := views_find?_some present
      rw [strictly, plainly]
      rfl

section Lists

/-- These fields may be missing at the end of a list. -/
def defaults : Fields → List Bool
  | .nil => []
  | .cons _ defaulted _ rest => defaulted :: rest.defaults

theorem map_defaulted_strict (fields : Fields) :
    fields.strict.map FieldView.defaulted = fields.defaults := by
  match fields with
  | .nil => rfl
  | .cons _ _ _ rest => rw [strict, List.map_cons, map_defaulted_strict rest, defaults]

theorem map_defaulted_views (fields : Fields) :
    fields.views.map FieldView.defaulted = fields.defaults := by
  match fields with
  | .nil => rfl
  | .cons _ _ _ rest => rw [views, List.map_cons, map_defaulted_views rest, defaults]

theorem length_defaults (fields : Fields) : fields.defaults.length = fields.names.length := by
  rw [← map_defaulted_strict, ← map_name_strict, List.length_map, List.length_map]

section Fewer

variable (expected : String) {fields : Fields} (needed : fields.defaults.getLast? ≠ some true)
  {items : List Datum} (fewer : items.length < fields.names.length)
include needed fewer

theorem alignWhole_strict_of_fewer :
    ∃ refusal, FieldView.alignWhole expected fields.strict items = .error refusal := by
  rw [← map_defaulted_strict] at needed
  rw [← length_defaults, ← map_defaulted_strict, List.length_map] at fewer
  exact exists_error_bind (FieldView.align_of_fewer expected needed fewer 0) _

theorem alignWhole_views_of_fewer :
    ∃ refusal, FieldView.alignWhole expected fields.views items = .error refusal := by
  rw [← map_defaulted_views] at needed
  rw [← length_defaults, ← map_defaulted_views, List.length_map] at fewer
  exact exists_error_bind (FieldView.align_of_fewer expected needed fewer 0) _

end Fewer

/-- A list with an item for each field stands for the record of its items. -/
theorem align_strict (expected : String) (index : Nat) {fields : Fields}
    {entries : List (String × Datum)} (named : entries.map Prod.fst = fields.names) :
    FieldView.align expected index fields.strict (entries.map Prod.snd) =
      if fields.hold entries then .ok entries else .error .unspecified := by
  match fields, entries with
  | .nil, [] => rfl
  | .nil, _ :: _ => cases named
  | .cons name defaulted shape rest, [] => cases named
  | .cons name defaulted shape rest, (key, datum) :: entries =>
      rw [List.map_cons, names, List.cons.injEq] at named
      obtain ⟨isName, others⟩ := named
      have isKey : key = name := isName
      have later := align_strict expected (index + 1) others
      rw [List.map_cons, strict, FieldView.align, later, hold, isKey]
      simp only [Shape.strict]
      cases shape.holds datum with
      | false => rfl
      | true => cases rest.hold entries <;> rfl

/-- Nothing is left of such a list. -/
theorem alignWhole_strict (expected : String) {fields : Fields} {entries : List (String × Datum)}
    (named : entries.map Prod.fst = fields.names) :
    FieldView.alignWhole expected fields.strict (entries.map Prod.snd) =
      if fields.hold entries then .ok entries else .error .unspecified := by
  have sameLength : fields.strict.length = entries.length := by
    rw [← List.length_map FieldView.name, map_name_strict, ← named, List.length_map]
  rw [FieldView.alignWhole, align_strict expected 0 named, sameLength, List.length_map]
  simp only [Nat.lt_irrefl, if_false]
  split <;> rfl

end Lists

section Objects

variable {fields : Fields} {entries : List (String × Datum)}

/-- The entries of known fields have their shapes. -/
def Admits (fields : Fields) (entries : List (String × Datum)) : Prop :=
  ∀ entry ∈ entries, ∀ shape, fields.find? entry.1 = some shape → shape.holds entry.2

theorem admits_iff : fields.Admits entries ↔
    ∀ entry ∈ entries, ((fields.find? entry.1).all fun shape => shape.holds entry.2) = true := by
  simp only [Admits, Option.all_eq_true]

instance instDecidableAdmits (fields : Fields) (entries : List (String × Datum)) :
    Decidable (fields.Admits entries) := decidable_of_iff _ admits_iff.symm

/-- Entries that name different fields are all collected, if each has the shape of its field. -/
theorem collect_strict (admitted : fields.Admits entries)
    (distinct : (fields.namedKeys entries).Nodup) :
    FieldView.collect fields.strict [] entries =
      .ok (entries.filter (FieldView.isNamed fields.views)) := by
  have keeps (entry : String × Datum) (member : entry ∈ entries) (view : FieldView)
      (named : (fields.strict.find? fun view => view.name = entry.1) = some view) :
      view.interpret entry.2 = .ok entry.2 := by
    cases present : fields.find? entry.1 with
    | none =>
        rw [strict_find?_none present] at named
        cases named
    | some shape =>
        obtain ⟨other, sameName, reads⟩ := strict_find?_some present
        rw [named, Option.some.injEq] at sameName
        rw [sameName, reads, Shape.strict, if_pos (admitted entry member shape present)]
  rw [namedKeys_eq_map, ← isNamed_strict] at distinct
  rw [FieldView.collect_of_keeps keeps distinct, List.nil_append, isNamed_strict]

/-- For data of their shapes it does not matter whether the fields are strict. -/
theorem collect_strict_eq_views (regular : fields.areRegular) (admitted : fields.Admits entries)
    (found : List (String × Datum)) :
    FieldView.collect fields.strict found entries =
      FieldView.collect fields.views found entries := by
  induction entries generalizing found with
  | nil => rfl
  | cons entry entries inductionHypothesis =>
      obtain ⟨key, datum⟩ := entry
      obtain ⟨here, others⟩ := List.forall_mem_cons.1 admitted
      rw [FieldView.collect, FieldView.collect]
      cases present : fields.find? key with
      | none =>
          rw [strict_find?_none present, views_find?_none present]
          exact inductionHypothesis others found
      | some shape =>
          have held := here shape present
          obtain ⟨_, strictly, isStrict⟩ := strict_find?_some present
          obtain ⟨_, plainly, isPlain⟩ := views_find?_some present
          rw [strictly, plainly]
          simp only [isStrict, isPlain, Shape.strict, if_pos held, ok_bind,
            Shape.interpret_of_holds (isRegular_of_find? regular present) held,
            inductionHypothesis others]

/-- An entry without the shape of its field is never collected. -/
theorem exists_refusal_of_not_admits (refused : ¬ fields.Admits entries)
    (found : List (String × Datum)) :
    ∃ refusal, FieldView.collect fields.strict found entries = .error refusal := by
  induction entries generalizing found with
  | nil => exact absurd (fun _ member => absurd member List.not_mem_nil) refused
  | cons entry entries inductionHypothesis =>
      obtain ⟨key, datum⟩ := entry
      rw [Admits, List.forall_mem_cons, not_and_or] at refused
      rw [FieldView.collect]
      cases present : fields.find? key with
      | none =>
          have later : ¬ fields.Admits entries := by
            refine refused.resolve_left fun notHere => notHere fun shape known => ?_
            rw [present] at known
            cases known
          rw [strict_find?_none present]
          exact inductionHypothesis later found
      | some shape =>
          obtain ⟨view, named, reads⟩ := strict_find?_some present
          rw [named]
          simp only [reads, Shape.strict]
          split
          · exact ⟨_, rfl⟩
          by_cases held : shape.holds datum
          · have later : ¬ fields.Admits entries := by
              refine refused.resolve_left fun notHere => notHere fun other known => ?_
              rw [present, Option.some.injEq] at known
              rw [← known]
              exact held
            rw [if_pos held, ok_bind]
            exact inductionHypothesis later _
          · rw [if_neg held]
            exact ⟨_, rfl⟩

/-- A filled record is one whose fields have their shapes. -/
theorem hold_fill_iff {fields : Fields} (distinct : fields.names.Nodup)
    (entries : List (String × Datum)) : fields.hold (fields.fill entries) ↔
      ∀ key shape, fields.find? key = some shape → shape.holds ((entries.lookup key).getD .null) := by
  match fields with
  | .nil => exact ⟨fun _ _ _ => nofun, fun _ => rfl⟩
  | .cons name defaulted shape rest =>
      rw [names, List.nodup_cons] at distinct
      have later := hold_fill_iff distinct.2 entries
      rw [fill, hold, Bool.and_eq_true, Bool.and_eq_true, later]
      constructor
      · rintro ⟨⟨_, here⟩, others⟩ key other known
        rw [find?] at known
        split at known
        · next same =>
            rw [Option.some.injEq] at known
            rw [← known, ← same]
            exact here
        · exact others key other known
      · intro all
        refine ⟨⟨decide_eq_true rfl, all name shape (if_pos rfl)⟩, fun key other known => ?_⟩
        have different : name ≠ key := by
          intro same
          apply distinct.1
          rw [same, ← find?_isSome_iff, known]
          rfl
        refine all key other ?_
        rw [find?, if_neg different]
        exact known

/-- A field that is not required may be null. -/
theorem holds_null_of_not_required {fields : Fields} {key : String} {shape : Shape}
    (known : fields.find? key = some shape) (optional : key ∉ fields.required) :
    shape.holds .null := by
  match fields with
  | .nil => cases known
  | .cons name defaulted first rest =>
      rw [find?] at known
      rw [required] at optional
      by_cases same : name = key
      · rw [if_pos same, Option.some.injEq] at known
        rw [same, known] at optional
        refine Shape.holds_null_of_isOptional (Classical.byContradiction fun needed => ?_)
        rw [if_neg needed] at optional
        exact optional List.mem_cons_self
      · rw [if_neg same] at known
        refine holds_null_of_not_required known fun later => optional ?_
        split
        · exact later
        · exact List.mem_cons_of_mem _ later

/-- A complete record holds what its fields find among the entries. -/
theorem hold_fill_iff_admits (different : fields.names.Nodup)
    (distinct : (fields.namedKeys entries).Nodup)
    (complete : ∀ name ∈ fields.required, name ∈ entries.map Prod.fst) :
    fields.hold (fields.fill entries) ↔ fields.Admits entries := by
  rw [hold_fill_iff different]
  constructor
  · rintro all ⟨key, datum⟩ member shape known
    have isNamed : FieldView.isNamed fields.views (key, datum) := by
      obtain ⟨_, named, _⟩ := views_find?_some known
      rw [FieldView.isNamed, named]
      rfl
    have isName : key ∈ fields.names := by
      rw [← find?_isSome_iff, known]
      rfl
    rw [namedKeys_eq_map] at distinct
    have found := lookup_of_mem distinct (List.mem_filter.2 ⟨member, isNamed⟩)
    rw [lookup_filter_isNamed isName] at found
    have held := all key shape known
    rwa [found] at held
  · intro admitted key shape known
    cases found : entries.lookup key with
    | some datum =>
        obtain ⟨before, after, same, _⟩ := List.lookup_eq_some_iff.1 found
        have member : (key, datum) ∈ entries := by
          rw [same]
          exact List.mem_append_right _ List.mem_cons_self
        exact admitted (key, datum) member shape known
    | none =>
        refine holds_null_of_not_required known fun required => ?_
        have present := lookup_isSome_iff_mem.2 (complete key required)
        rw [found] at present
        cases present

/-- Where the entries stand for all fields in declaration order, they are what they fill. -/
theorem fill_of_names {fields : Fields} {entries : List (String × Datum)}
    (distinct : fields.names.Nodup) (named : entries.map Prod.fst = fields.names) :
    fields.fill entries = entries := by
  match fields, entries with
  | .nil, [] => rfl
  | .nil, _ :: _ => cases named
  | .cons name defaulted shape rest, [] => cases named
  | .cons name defaulted shape rest, (key, datum) :: entries =>
      rw [List.map_cons, names, List.cons.injEq] at named
      obtain ⟨isName, others⟩ := named
      have isKey : key = name := isName
      rw [names, List.nodup_cons] at distinct
      have later (other : String) (member : other ∈ rest.names) :
          ((name, datum) :: entries).lookup other = entries.lookup other := by
        have different : (other == name) = false := by
          rw [beq_eq_false_iff_ne]
          intro same
          exact distinct.1 (same ▸ member)
        rw [List.lookup_cons, different]
      rw [isKey, fill, List.lookup_cons_self, fill_congr later, fill_of_names distinct.2 others]
      rfl

theorem namedKeys_of_names (named : entries.map Prod.fst = fields.names) :
    fields.namedKeys entries = fields.names := by
  rw [namedKeys, named, List.filter_eq_self]
  exact fun key member => decide_eq_true member

/-- A field is filled with the entry of its name. -/
theorem lookup_fill {fields : Fields} {key : String} (member : key ∈ fields.names)
    (entries : List (String × Datum)) :
    (fields.fill entries).lookup key = some ((entries.lookup key).getD .null) := by
  match fields with
  | .nil => exact absurd member List.not_mem_nil
  | .cons name _ shape rest =>
      rw [fill, List.lookup_cons]
      by_cases same : key = name
      · rw [same, beq_self_eq_true]
      · rw [beq_eq_false_iff_ne.2 same]
        exact lookup_fill ((List.mem_cons.1 member).resolve_left same) entries

end Objects

end Fields

section Following

variable {φ : Type} {gives : Mismatch → φ → Prop} {result : Except φ (Datum × Bytes)}
  {rest : Bytes}

/-- A list with an item for each field makes the record of these, or it is refused. -/
theorem Follows.strict_of_align {name expected : String} {fields : Fields}
    {entries : List (String × Part)} (named : entries.map Prod.fst = fields.names)
    (follows : Follows gives result rest (do
      let found ← FieldView.alignWhole expected fields.strict
        ((entries.map Prod.snd).map Part.meaning)
      return .object found)) :
    Follows gives result rest
      ((Shape.record name fields).strict (.object (entries.map Part.entry))) := by
  have keys : (entries.map Part.entry).map Prod.fst = fields.names := by
    rw [List.map_map]
    exact named
  have whole := Fields.alignWhole_strict expected keys
  have items : (entries.map Prod.snd).map Part.meaning = (entries.map Part.entry).map Prod.snd := by
    rw [List.map_map, List.map_map]
    rfl
  rw [items, whole] at follows
  rw [Shape.strict, Shape.holds]
  by_cases held : fields.hold (entries.map Part.entry)
  · rw [if_pos held] at follows ⊢
    exact follows
  · rw [if_neg held] at follows ⊢
    exact follows

/-- Entries in any order make the record that they fill, or they are refused. -/
theorem Follows.strict_of_collect {name : String} {fields : Fields}
    {entries : List (String × Datum)} (different : fields.names.Nodup)
    (distinct : (fields.namedKeys entries).Nodup)
    (complete : ∀ name ∈ fields.required, name ∈ entries.map Prod.fst)
    (follows : Follows gives result rest (do
      let found ← FieldView.collect fields.strict [] entries
      let complete ← Refusal.ofMismatch (fields.assemble found)
      return .object complete)) :
    Follows gives result rest
      ((Shape.record name fields).strict (.object (fields.fill entries))) := by
  have held := Fields.hold_fill_iff_admits different distinct complete
  rw [Shape.strict, Shape.holds]
  by_cases admitted : fields.Admits entries
  · have present (name : String) (member : name ∈ fields.required) :
        ((entries.filter (FieldView.isNamed fields.views)).lookup name).isSome := by
      rw [lookup_filter_isNamed (Fields.mem_names_of_mem_required member), lookup_isSome_iff_mem]
      exact complete name member
    rw [Fields.collect_strict admitted distinct, ok_bind, Fields.assemble_of_complete present,
      Fields.fill_congr fun name member => lookup_filter_isNamed member] at follows
    rw [if_pos (held.2 admitted)]
    exact follows
  · obtain ⟨refusal, refused⟩ := Fields.exists_refusal_of_not_admits admitted []
    rw [refused] at follows
    rw [if_neg fun holds => admitted (held.1 holds)]
    exact follows.unspecified

end Following

end Switchboard
