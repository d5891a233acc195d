import Mathlib.Data.List.Find
import Mathlib.Data.List.Induction
import Mathlib.Data.List.Nodup
import Switchboard.Proofs.Interpretation

/-
This file says what a record makes of entries that come in any order and may be unknown to it: it
fills its fields if it can, and otherwise it names the field that is there twice or not at all.
-/

namespace Switchboard

theorem lookup_isSome_iff_mem {entries : List (String × Datum)} {key : String} :
    (entries.lookup key).isSome ↔ key ∈ entries.map Prod.fst := by
  rw [List.lookup_isSome_iff, List.mem_map]
  constructor
  · rintro ⟨entry, member, same⟩
    exact ⟨entry, member, (beq_iff_eq.1 same).symm⟩
  · rintro ⟨entry, member, same⟩
    exact ⟨entry, member, beq_iff_eq.2 same.symm⟩

/-- Entries with other keys do not change what is found under a key. -/
theorem lookup_filter {entries : List (String × Datum)} {keep : String × Datum → Bool} {key : String}
    (kept : ∀ datum, keep (key, datum)) : (entries.filter keep).lookup key = entries.lookup key := by
  induction entries with
  | nil => rfl
  | cons entry entries inductionHypothesis =>
      obtain ⟨name, datum⟩ := entry
      by_cases same : key = name
      · subst same
        rw [List.filter_cons, if_pos (kept datum), List.lookup_cons_self, List.lookup_cons_self]
      · have other : (key == name) = false := beq_eq_false_iff_ne.2 same
        rw [List.filter_cons, List.lookup_cons, other]
        split
        · rw [List.lookup_cons, other]
          exact inductionHypothesis
        · exact inductionHypothesis

namespace Fields

/-- A field is required when it cannot be absent. -/
def required : Fields → List String
  | .nil => []
  | .cons name _ shape rest => if shape.isOptional then rest.required else name :: rest.required

/-- Each field takes the value of its entry, and null stands for a field without one. -/
def fill (entries : List (String × Datum)) : Fields → List (String × Datum)
  | .nil => []
  | .cons name _ _ rest => (name, (entries.lookup name).getD .null) :: rest.fill entries

/-- These keys of the entries name fields, in the order of the entries. -/
def namedKeys (fields : Fields) (entries : List (String × Datum)) : List String :=
  (entries.map Prod.fst).filter fun key => key ∈ fields.names

theorem mem_names_of_mem_required {fields : Fields} {name : String}
    (member : name ∈ fields.required) : name ∈ fields.names := by
  match fields with
  | .nil => exact absurd member List.not_mem_nil
  | .cons first _ shape rest =>
      rw [required] at member
      split at member
      · exact List.mem_cons_of_mem _ (mem_names_of_mem_required member)
      · obtain same | later := List.mem_cons.1 member
        · exact List.mem_cons.2 (.inl same)
        · exact List.mem_cons_of_mem _ (mem_names_of_mem_required later)

/-- The fields are filled when every required one was found. -/
theorem assemble_of_complete {fields : Fields} {found : List (String × Datum)}
    (complete : ∀ name ∈ fields.required, (found.lookup name).isSome) :
    fields.assemble found = .ok (fields.fill found) := by
  match fields with
  | .nil => rfl
  | .cons name _ shape rest =>
      rw [required] at complete
      have others : ∀ name ∈ rest.required, (found.lookup name).isSome := by
        intro other member
        apply complete
        split
        · exact member
        · exact List.mem_cons_of_mem _ member
      rw [assemble, fill, assemble_of_complete others]
      cases held : found.lookup name with
      | some value => rfl
      | none =>
          by_cases optional : shape.isOptional
          · simp only [if_pos optional]
            rfl
          · rw [if_neg optional] at complete
            have present := complete name List.mem_cons_self
            rw [held] at present
            exact Bool.noConfusion present

/-- The first required field that was not found is reported. -/
theorem assemble_of_missing {fields : Fields} {found : List (String × Datum)} {name : String}
    (missing : (fields.required.find? fun name => (found.lookup name).isNone) = some name) :
    fields.assemble found = .error (.missingField name) := by
  match fields with
  | .nil => simp [required] at missing
  | .cons first _ shape rest =>
      rw [required] at missing
      rw [assemble]
      by_cases optional : shape.isOptional
      · rw [if_pos optional] at missing
        have later := assemble_of_missing missing
        cases found.lookup first with
        | some value => simp only [later]; rfl
        | none => simp only [if_pos optional, later]; rfl
      · rw [if_neg optional, List.find?_cons] at missing
        cases held : found.lookup first with
        | some value =>
            rw [held] at missing
            simp only [assemble_of_missing missing]
            rfl
        | none =>
            rw [held] at missing
            have same : first = name := Option.some.inj missing
            simp only [if_neg optional, same]

theorem fill_congr {fields : Fields} {entries others : List (String × Datum)}
    (same : ∀ name ∈ fields.names, entries.lookup name = others.lookup name) :
    fields.fill entries = fields.fill others := by
  match fields with
  | .nil => rfl
  | .cons name _ _ rest =>
      obtain ⟨here, later⟩ := List.forall_mem_cons.1 same
      rw [fill, fill, here, fill_congr later]

/-- The shape of a field tells the fields of its records apart. -/
theorem isRegular_of_find? {fields : Fields} (regular : fields.areRegular) {key : String}
    {shape : Shape} (found : fields.find? key = some shape) : shape.isRegular := by
  match fields with
  | .nil => cases found
  | .cons name _ first rest =>
      rw [areRegular, Bool.and_eq_true] at regular
      rw [find?] at found
      split at found
      · rw [Option.some.injEq] at found
        rw [← found]
        exact regular.1
      · exact isRegular_of_find? regular.2 found

/-- A closed record bounds what its fields hold. -/
theorem isClosed_of_find? {fields : Fields} (closed : fields.areClosed) {key : String}
    {shape : Shape} (found : fields.find? key = some shape) :
    shape.isClosed ∧ shape.depth ≤ fields.depth := by
  match fields with
  | .nil => cases found
  | .cons name _ first rest =>
      rw [areClosed, Bool.and_eq_true] at closed
      rw [find?] at found
      rw [depth]
      split at found
      · rw [Option.some.injEq] at found
        rw [← found]
        exact ⟨closed.1, Nat.le_max_left _ _⟩
      · obtain ⟨isClosed, bounded⟩ := isClosed_of_find? closed.2 found
        exact ⟨isClosed, Nat.le_trans bounded (Nat.le_max_right _ _)⟩

theorem find?_isSome_iff {fields : Fields} {key : String} :
    (fields.find? key).isSome ↔ key ∈ fields.names := by
  match fields with
  | .nil => simp [find?, names]
  | .cons name _ shape rest =>
      rw [find?, names, List.mem_cons]
      by_cases same : name = key
      · simp [same]
      · rw [if_neg same, find?_isSome_iff]
        exact ⟨.inr, fun either => either.resolve_left (Ne.symm same)⟩

/-- The views of the fields name the same entries. -/
theorem isNamed_views (fields : Fields) (entry : String × Datum) :
    FieldView.isNamed fields.views entry = decide (entry.1 ∈ fields.names) := by
  rw [FieldView.isNamed]
  cases present : fields.find? entry.1 with
  | none =>
      have absent : entry.1 ∉ fields.names := by
        rw [← find?_isSome_iff, present]
        exact Bool.false_ne_true
      rw [views_find?_none present, decide_eq_false absent]
      rfl
  | some shape =>
      have member : entry.1 ∈ fields.names := by
        rw [← find?_isSome_iff, present]
        rfl
      obtain ⟨view, named, _⟩ := views_find?_some present
      rw [named, decide_eq_true member]
      rfl

theorem namedKeys_eq_map (fields : Fields) (entries : List (String × Datum)) :
    fields.namedKeys entries = (entries.filter (FieldView.isNamed fields.views)).map Prod.fst := by
  have same : (fun key => decide (key ∈ fields.names)) ∘ Prod.fst =
      FieldView.isNamed fields.views := by
    funext entry
    rw [Function.comp_apply, isNamed_views]
  rw [namedKeys, List.filter_map, same]

/-- Where a field is named twice, there is a first entry that repeats one. -/
theorem exists_repeat {fields : Fields} {entries : List (String × Datum)}
    (repeats : ¬ (fields.namedKeys entries).Nodup) :
    ∃ before key datum after, entries = before ++ (key, datum) :: after ∧
      (fields.namedKeys before).Nodup ∧ key ∈ fields.namedKeys before := by
  induction entries using List.reverseRecOn with
  | nil => exact absurd List.nodup_nil repeats
  | append_singleton entries entry inductionHypothesis =>
      obtain ⟨key, datum⟩ := entry
      by_cases distinct : (fields.namedKeys entries).Nodup
      · refine ⟨entries, key, datum, [], rfl, distinct, ?_⟩
        by_contra new
        apply repeats
        rw [namedKeys, List.map_append, List.filter_append, List.nodup_append]
        refine ⟨distinct, (List.nodup_singleton key).filter _, ?_⟩
        intro old member other single same
        have isKey : other = key := List.mem_singleton.1 (List.mem_filter.1 single).1
        rw [same, isKey] at member
        exact new member
      · obtain ⟨before, first, held, after, same, rest⟩ := inductionHypothesis distinct
        refine ⟨before, first, held, after ++ [(key, datum)], ?_, rest⟩
        rw [same, List.append_assoc, List.cons_append]

end Fields

section Entries

variable {fields : Fields} (regular : fields.areRegular) {entries : List (String × Datum)}
  (known : ∀ entry ∈ entries, ∀ shape, fields.find? entry.1 = some shape → shape.holds entry.2)
  (distinct : (fields.namedKeys entries).Nodup)
include regular known distinct

/-- Entries that name different fields are all collected. -/
theorem collect_of_nodup :
    FieldView.collect fields.views [] entries =
      .ok (entries.filter (FieldView.isNamed fields.views)) := by
  have keeps (entry : String × Datum) (member : entry ∈ entries) (view : FieldView)
      (named : (fields.views.find? fun view => view.name = entry.1) = some view) :
      view.interpret entry.2 = .ok entry.2 := by
    cases present : fields.find? entry.1 with
    | none =>
        rw [Fields.views_find?_none present] at named
        cases named
    | some shape =>
        obtain ⟨other, sameName, reads⟩ := Fields.views_find?_some present
        rw [named, Option.some.injEq] at sameName
        rw [sameName, reads]
        exact Shape.interpret_of_holds (Fields.isRegular_of_find? regular present)
          (known entry member shape present)
  have different : (([] ++ entries.filter (FieldView.isNamed fields.views)).map
      Prod.fst).Nodup := by
    rw [List.nil_append, ← Fields.namedKeys_eq_map]
    exact distinct
  rw [FieldView.collect_of_keeps keeps different, List.nil_append]

omit known distinct regular in
/-- Leaving the other entries out does not change what the fields find. -/
theorem lookup_filter_isNamed {name : String} (member : name ∈ fields.names) :
    (entries.filter (FieldView.isNamed fields.views)).lookup name = entries.lookup name := by
  apply lookup_filter
  intro datum
  rw [Fields.isNamed_views, decide_eq_true member]

variable (name : String)

/-- A record is filled when its required fields are there and no field is there twice. -/
theorem interpret_of_complete
    (complete : ∀ name ∈ fields.required, name ∈ entries.map Prod.fst) :
    (Shape.record name fields).interpret (.object entries) =
      .ok (.object (fields.fill entries)) := by
  have present (name : String) (member : name ∈ fields.required) :
      ((entries.filter (FieldView.isNamed fields.views)).lookup name).isSome := by
    rw [lookup_filter_isNamed (Fields.mem_names_of_mem_required member), lookup_isSome_iff_mem]
    exact complete name member
  rw [Shape.interpret, collect_of_nodup regular known distinct, ok_bind,
    Fields.assemble_of_complete present,
    Fields.fill_congr fun name member => lookup_filter_isNamed member]
  rfl

/-- The first required field that no entry names is missing. -/
theorem interpret_of_missing {absent : String}
    (missing : (fields.required.find? fun name => name ∉ entries.map Prod.fst) = some absent) :
    (Shape.record name fields).interpret (.object entries) =
      .error (.mismatch (.missingField absent)) := by
  have absence (name : String) (member : name ∈ fields.required) :
      decide (name ∉ entries.map Prod.fst) =
        ((entries.filter (FieldView.isNamed fields.views)).lookup name).isNone := by
    rw [lookup_filter_isNamed (Fields.mem_names_of_mem_required member), ← Option.not_isSome,
      decide_not, ← Bool.decide_coe (entries.lookup name).isSome]
    simp only [lookup_isSome_iff_mem]
  rw [List.find?_congr absence] at missing
  rw [Shape.interpret, collect_of_nodup regular known distinct, ok_bind,
    Fields.assemble_of_missing missing]
  rfl

omit known distinct in
/-- The first entry for a field that is there already is refused, whatever comes behind it. -/
theorem interpret_of_repeat {before : List (String × Datum)}
    (knownBefore : ∀ entry ∈ before, ∀ shape,
      fields.find? entry.1 = some shape → shape.holds entry.2)
    (distinctBefore : (fields.namedKeys before).Nodup) {key : String}
    (repeated : key ∈ fields.namedKeys before) (datum : Datum) (after : List (String × Datum)) :
    (Shape.record name fields).interpret (.object (before ++ (key, datum) :: after)) =
      .error (.mismatch (.duplicateField key)) := by
  have isNamed : FieldView.isNamed fields.views (key, datum) := by
    rw [Fields.isNamed_views]
    exact (List.mem_filter.1 repeated).2
  rw [Fields.namedKeys_eq_map] at repeated
  rw [Shape.interpret, FieldView.collect_append,
    collect_of_nodup regular knownBefore distinctBefore, ok_bind,
    FieldView.collect_of_repeat datum after isNamed repeated]
  rfl

end Entries

end Switchboard
