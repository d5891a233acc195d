import Switchboard.Proofs.Record

/-
This file shows that a shape holds whatever it makes of a datum, so a reader that follows it returns
data of the expected shape only.
-/

namespace Switchboard

/-- Every result of a run comes from one of its items. -/
theorem exists_mem_of_mapM {ε α β : Type} {step : α → Except ε β} {items : List α}
    {results : List β} (done : items.mapM step = .ok results) :
    ∀ result ∈ results, ∃ item ∈ items, step item = .ok result := by
  induction items generalizing results with
  | nil =>
      rw [List.mapM_nil, pure_eq_ok, Except.ok.injEq] at done
      rw [← done]
      exact fun _ member => absurd member List.not_mem_nil
  | cons item items inductionHypothesis =>
      rw [List.mapM_cons] at done
      obtain ⟨first, head, done⟩ := bind_eq_ok.1 done
      obtain ⟨later, tail, done⟩ := bind_eq_ok.1 done
      rw [pure_eq_ok, Except.ok.injEq] at done
      rw [← done]
      refine List.forall_mem_cons.2 ⟨⟨item, List.mem_cons_self, head⟩, fun result member => ?_⟩
      obtain ⟨source, inside, same⟩ := inductionHypothesis tail result member
      exact ⟨source, List.mem_cons_of_mem _ inside, same⟩

theorem length_of_mapM {ε α β : Type} {step : α → Except ε β} {items : List α} {results : List β}
    (done : items.mapM step = .ok results) : results.length = items.length := by
  induction items generalizing results with
  | nil =>
      cases done
      rfl
  | cons item items inductionHypothesis =>
      rw [List.mapM_cons] at done
      obtain ⟨first, _, done⟩ := bind_eq_ok.1 done
      obtain ⟨later, tail, done⟩ := bind_eq_ok.1 done
      rw [pure_eq_ok, Except.ok.injEq] at done
      rw [← done, List.length_cons, List.length_cons, inductionHypothesis tail]

theorem interpretEntry_eq_ok {interpret : Datum → Except Refusal Datum} {entry result : String × Datum} :
    interpretEntry interpret entry = .ok result ↔
      interpret entry.2 = .ok result.2 ∧ entry.1 = result.1 := by
  rw [interpretEntry, bind_eq_ok]
  constructor
  · rintro ⟨value, accepted, same⟩
    rw [pure_eq_ok, Except.ok.injEq] at same
    rw [← same]
    exact ⟨accepted, rfl⟩
  · rintro ⟨accepted, same⟩
    exact ⟨result.2, accepted, by rw [same]; rfl⟩

theorem ofMismatch_eq_ok {α : Type} {accepted : Except Mismatch α} {value : α} :
    Refusal.ofMismatch accepted = .ok value ↔ accepted = .ok value := by
  cases accepted with
  | ok held => rw [Refusal.ofMismatch, Except.ok.injEq, Except.ok.injEq]
  | error cause => exact ⟨nofun, nofun⟩

theorem IntegerType.accept_eq_ok {type : IntegerType} {value result : Int} :
    type.accept value = .ok result ↔ type.holds value ∧ value = result := by
  rw [accept]
  split
  · next inRange => simp [inRange]
  · next outOfRange => simp [outOfRange]

mutual

/-- Without expectations a datum of plain integers is made plain. -/
theorem Datum.isPlain_of_settle {datum value : Datum} (integers : datum.hasPlainIntegers)
    (settled : datum.settle = .ok value) : value.isPlain := by
  match datum with
  | .null | .bool _ | .text _ =>
      cases settled
      rfl
  | .int held =>
      cases settled
      exact integers
  | .float held =>
      rw [Datum.settle, Except.ok.injEq] at settled
      rw [← settled]
      split
      · next finite => exact finite
      · rfl
  | .list items =>
      rw [Datum.settle] at settled
      obtain ⟨values, inside, same⟩ := bind_eq_ok.1 settled
      rw [pure_eq_ok, Except.ok.injEq] at same
      rw [← same]
      exact (Datum.arePlain_iff values).2 (Datum.isPlain_of_settleItems integers inside)
  | .object entries =>
      rw [Datum.settle] at settled
      obtain ⟨values, inside, same⟩ := bind_eq_ok.1 settled
      rw [pure_eq_ok, Except.ok.injEq] at same
      have plain := Datum.isPlain_of_settleEntries integers inside
      rw [← same, Datum.isPlain, Bool.and_eq_true, decide_eq_true_eq]
      exact ⟨Ascending.isAscending_ofList values, (Datum.entriesPlain_iff _).2 fun entry member =>
        plain entry (Ascending.mem_ofList member)⟩
  | .pairs [] =>
      rw [Datum.settle, Except.ok.injEq] at settled
      rw [← settled]
      rfl
  | .pairs (_ :: _) => cases settled

theorem Datum.isPlain_of_settleItems {items values : List Datum}
    (integers : Datum.havePlainIntegers items) (settled : Datum.settleItems items = .ok values) :
    ∀ value ∈ values, value.isPlain := by
  match items with
  | [] =>
      rw [Datum.settleItems, Except.ok.injEq] at settled
      rw [← settled]
      exact fun _ member => absurd member List.not_mem_nil
  | item :: items =>
      rw [Datum.havePlainIntegers, Bool.and_eq_true] at integers
      rw [Datum.settleItems] at settled
      obtain ⟨first, head, settled⟩ := bind_eq_ok.1 settled
      obtain ⟨later, tail, settled⟩ := bind_eq_ok.1 settled
      rw [pure_eq_ok, Except.ok.injEq] at settled
      rw [← settled]
      exact List.forall_mem_cons.2 ⟨Datum.isPlain_of_settle integers.1 head,
        Datum.isPlain_of_settleItems integers.2 tail⟩

theorem Datum.isPlain_of_settleEntries {entries values : List (String × Datum)}
    (integers : Datum.entriesPlainIntegers entries)
    (settled : Datum.settleEntries entries = .ok values) : ∀ value ∈ values, value.2.isPlain := by
  match entries with
  | [] =>
      rw [Datum.settleEntries, Except.ok.injEq] at settled
      rw [← settled]
      exact fun _ member => absurd member List.not_mem_nil
  | (key, datum) :: entries =>
      rw [Datum.entriesPlainIntegers, Bool.and_eq_true] at integers
      rw [Datum.settleEntries] at settled
      obtain ⟨first, head, settled⟩ := bind_eq_ok.1 settled
      obtain ⟨later, tail, settled⟩ := bind_eq_ok.1 settled
      rw [pure_eq_ok, Except.ok.injEq] at settled
      rw [← settled]
      exact List.forall_mem_cons.2 ⟨Datum.isPlain_of_settle integers.1 head,
        Datum.isPlain_of_settleEntries integers.2 tail⟩

end

/-- What is collected was found before, or the field of its name made it of an entry. -/
theorem FieldView.exists_of_mem_collect {fields : List FieldView}
    {found entries result : List (String × Datum)}
    (collected : FieldView.collect fields found entries = .ok result) :
    ∀ each ∈ result, each ∈ found ∨ ∃ field datum,
      (fields.find? fun field => field.name = each.1) = some field ∧
        (each.1, datum) ∈ entries ∧ field.interpret datum = .ok each.2 := by
  induction entries generalizing found with
  | nil =>
      rw [FieldView.collect, Except.ok.injEq] at collected
      rw [← collected]
      exact fun _ member => .inl member
  | cons entry entries inductionHypothesis =>
      obtain ⟨key, datum⟩ := entry
      intro each member
      rw [FieldView.collect] at collected
      cases named : fields.find? fun field => field.name = key with
      | none =>
          rw [named] at collected
          refine (inductionHypothesis collected each member).imp_right ?_
          rintro ⟨field, source, same, inside, accepted⟩
          exact ⟨field, source, same, List.mem_cons_of_mem _ inside, accepted⟩
      | some field =>
          rw [named] at collected
          simp only at collected
          split at collected
          · cases collected
          · obtain ⟨value, accepted, collected⟩ := bind_eq_ok.1 collected
            obtain inFound | ⟨other, source, same, inside, taken⟩ :=
              inductionHypothesis collected each member
            · obtain old | new := List.mem_append.1 inFound
              · exact .inl old
              · rw [List.mem_singleton.1 new]
                exact .inr ⟨field, datum, named, List.mem_cons_self, accepted⟩
            · exact .inr ⟨other, source, same, List.mem_cons_of_mem _ inside, taken⟩

/-- What was collected under the name of a field is what its shape made of an entry. -/
theorem Fields.exists_of_lookup {fields : Fields} {entries found : List (String × Datum)}
    (collected : FieldView.collect fields.views [] entries = .ok found) {key : String}
    {value : Datum} {shape : Shape} (present : found.lookup key = some value)
    (named : fields.find? key = some shape) :
    ∃ datum, (key, datum) ∈ entries ∧ shape.interpret datum = .ok value := by
  obtain ⟨before, after, split, _⟩ := List.lookup_eq_some_iff.1 present
  have member : (key, value) ∈ found := split ▸ List.mem_append_right _ List.mem_cons_self
  obtain absent | ⟨field, datum, sameField, isEntry, taken⟩ :=
    FieldView.exists_of_mem_collect collected _ member
  · exact absurd absent List.not_mem_nil
  · obtain ⟨view, sameView, interprets⟩ := Fields.views_find?_some named
    rw [sameField, Option.some.injEq] at sameView
    rw [sameView, interprets] at taken
    exact ⟨datum, isEntry, taken⟩

/-- The first field takes what was found under its name, or null if it may be absent. -/
theorem Fields.exists_of_assemble_cons {name : String} {defaulted : Bool} {shape : Shape}
    {rest : Fields} {found entries : List (String × Datum)}
    (assembled : (Fields.cons name defaulted shape rest).assemble found = .ok entries) :
    ∃ value more, entries = (name, value) :: more ∧ rest.assemble found = .ok more ∧
      (found.lookup name = some value ∨ value = .null ∧ shape.isOptional) := by
  have finish (value : Datum) (tail : (rest.assemble found).map ((name, value) :: ·) = .ok entries) :
      ∃ more, entries = (name, value) :: more ∧ rest.assemble found = .ok more := by
    cases later : rest.assemble found with
    | error cause =>
        rw [later] at tail
        cases tail
    | ok more =>
        rw [later] at tail
        exact ⟨more, (Except.ok.inj tail).symm, rfl⟩
  rw [assemble] at assembled
  cases present : found.lookup name with
  | some value =>
      rw [present] at assembled
      obtain ⟨more, same, later⟩ := finish value assembled
      exact ⟨value, more, same, later, .inl rfl⟩
  | none =>
      rw [present] at assembled
      simp only at assembled
      split at assembled
      · next optional =>
          obtain ⟨more, same, later⟩ := finish .null assembled
          exact ⟨.null, more, same, later, .inr ⟨rfl, optional⟩⟩
      · cases assembled

/-- A record is complete when every value that was found is held by the field of its name. -/
theorem Fields.hold_of_assemble {fields : Fields} {found entries : List (String × Datum)}
    (distinct : fields.names.Nodup)
    (inside : ∀ name value shape, found.lookup name = some value → fields.find? name = some shape →
      shape.holds value)
    (assembled : fields.assemble found = .ok entries) : fields.hold entries := by
  match fields with
  | .nil =>
      rw [assemble, Except.ok.injEq] at assembled
      rw [← assembled]
      rfl
  | .cons name defaulted shape rest =>
      rw [names, List.nodup_cons] at distinct
      have others : ∀ other value shape, found.lookup other = some value →
          rest.find? other = some shape → shape.holds value := by
        intro other value shape present named
        refine inside other value shape present ?_
        have different : name ≠ other := by
          rintro rfl
          exact distinct.1 (find?_isSome_iff.1 (Option.isSome_iff_exists.2 ⟨shape, named⟩))
        rw [find?, if_neg different, named]
      obtain ⟨value, more, rfl, later, source⟩ := exists_of_assemble_cons assembled
      refine hold_cons.2 ⟨value, more, rfl, ?_, hold_of_assemble distinct.2 others later⟩
      obtain present | ⟨rfl, optional⟩ := source
      · exact inside name value shape present (if_pos rfl)
      · exact Shape.holds_null_of_isOptional optional

theorem FieldView.alignWhole_eq_ok {expected : String} {fields : List FieldView}
    {items : List Datum} {entries : List (String × Datum)}
    (aligned : FieldView.alignWhole expected fields items = .ok entries) :
    FieldView.align expected 0 fields items = .ok entries := by
  obtain ⟨found, aligned, whole⟩ := bind_eq_ok.1 aligned
  split at whole
  · cases whole
  · rw [pure_eq_ok, Except.ok.injEq] at whole
    rw [aligned, whole]

/-- Two fields without defaults take the first two items. -/
theorem FieldView.exists_of_align_two {expected first second : String}
    {readFirst readSecond : Datum → Except Refusal Datum} {items : List Datum}
    {entries : List (String × Datum)}
    (aligned : FieldView.align expected 0 [⟨first, false, readFirst⟩, ⟨second, false, readSecond⟩]
      items = .ok entries) :
    ∃ one two rest left right, items = one :: two :: rest ∧ readFirst one = .ok left ∧
      readSecond two = .ok right ∧ entries = [(first, left), (second, right)] := by
  match items with
  | [] => cases aligned
  | [_] =>
      obtain ⟨_, _, missing⟩ := bind_eq_ok.1 aligned
      cases missing
  | one :: two :: rest =>
      obtain ⟨left, inFirst, aligned⟩ := bind_eq_ok.1 aligned
      obtain ⟨more, later, aligned⟩ := bind_eq_ok.1 aligned
      obtain ⟨right, inSecond, later⟩ := bind_eq_ok.1 later
      cases later
      cases aligned
      exact ⟨one, two, rest, left, right, rfl, inFirst, inSecond, rfl⟩

mutual

/-- A shape holds what it makes of a datum. -/
theorem Shape.holds_of_interpret {shape : Shape} {datum value : Datum} (regular : shape.isRegular)
    (defaults : shape.hasNullDefaults) (integers : datum.hasPlainIntegers)
    (accepted : shape.interpret datum = .ok value) : shape.holds value := by
  match shape with
  | .unit =>
      rw [Shape.interpret.eq_def] at accepted
      simp only at accepted
      split at accepted
      · cases accepted
        exact Shape.holds_unit.2 rfl
      · cases accepted
  | .bool =>
      rw [Shape.interpret.eq_def] at accepted
      simp only at accepted
      split at accepted
      · cases accepted
        exact Shape.holds_bool.2 ⟨_, rfl⟩
      · cases accepted
  | .integer type =>
      rw [Shape.interpret.eq_def] at accepted
      simp only at accepted
      split at accepted
      · next held =>
          cases inRange : type.accept held with
          | error cause =>
              rw [inRange] at accepted
              cases accepted
          | ok same =>
              rw [inRange] at accepted
              cases accepted
              obtain ⟨holds, rfl⟩ := IntegerType.accept_eq_ok.1 inRange
              exact Shape.holds_integer.2 ⟨_, rfl, holds⟩
      · cases accepted
  | .text =>
      rw [Shape.interpret.eq_def] at accepted
      simp only at accepted
      split at accepted
      · cases accepted
        exact Shape.holds_text.2 ⟨_, rfl⟩
      · cases accepted
  | .optional content =>
      rw [Shape.isRegular] at regular
      rw [Shape.hasNullDefaults] at defaults
      by_cases absent : datum = .null
      · rw [absent, Shape.interpret, Except.ok.injEq] at accepted
        exact Shape.holds_optional.2 (.inl accepted.symm)
      · rw [Shape.interpret_optional absent] at accepted
        exact Shape.holds_optional.2
          (.inr (Shape.holds_of_interpret regular defaults integers accepted))
  | .list item =>
      rw [Shape.isRegular] at regular
      rw [Shape.hasNullDefaults] at defaults
      rw [Shape.interpret.eq_def] at accepted
      simp only at accepted
      split at accepted
      · next items =>
          obtain ⟨values, inside, same⟩ := bind_eq_ok.1 accepted
          rw [pure_eq_ok, Except.ok.injEq] at same
          refine Shape.holds_list.2 ⟨values, same.symm, fun each member => ?_⟩
          obtain ⟨source, isItem, taken⟩ := exists_mem_of_mapM inside each member
          exact Shape.holds_of_interpret regular defaults
            ((Datum.havePlainIntegers_iff items).1 integers source isItem) taken
      · cases accepted
  | .dictionary content =>
      rw [Shape.isRegular] at regular
      rw [Shape.hasNullDefaults] at defaults
      rw [Shape.interpret.eq_def] at accepted
      simp only at accepted
      split at accepted
      · next entries =>
          obtain ⟨values, inside, same⟩ := bind_eq_ok.1 accepted
          rw [pure_eq_ok, Except.ok.injEq] at same
          refine Shape.holds_dictionary.2
            ⟨_, same.symm, Ascending.isAscending_ofList values, fun each member => ?_⟩
          obtain ⟨source, isEntry, taken⟩ :=
            exists_mem_of_mapM inside each (Ascending.mem_ofList member)
          exact Shape.holds_of_interpret regular defaults
            ((Datum.entriesPlainIntegers_iff entries).1 integers source isEntry)
            (interpretEntry_eq_ok.1 taken).1
      · cases accepted
        exact Shape.holds_dictionary.2 ⟨[], rfl, List.Pairwise.nil, nofun⟩
      · cases accepted
  | .pair first second =>
      rw [Shape.isRegular, Bool.and_eq_true] at regular
      rw [Shape.hasNullDefaults, Bool.and_eq_true] at defaults
      rw [Shape.interpret.eq_def] at accepted
      simp only at accepted
      split at accepted
      · next items =>
          obtain ⟨found, inside, same⟩ := bind_eq_ok.1 accepted
          rw [pure_eq_ok, Except.ok.injEq] at same
          obtain ⟨one, two, rest, left, right, rfl, inFirst, inSecond, taken⟩ :=
            FieldView.exists_of_align_two (FieldView.alignWhole_eq_ok inside)
          rw [taken] at same
          obtain ⟨plainOne, others⟩ :=
            List.forall_mem_cons.1 ((Datum.havePlainIntegers_iff _).1 integers)
          refine Shape.holds_pair.2 ⟨left, right, same.symm, ?_, ?_⟩
          · exact Shape.holds_of_interpret regular.1 defaults.1 plainOne inFirst
          · exact Shape.holds_of_interpret regular.2 defaults.2
              (List.forall_mem_cons.1 others).1 inSecond
      · cases accepted
  | .pairTable =>
      rw [Shape.interpret.eq_def] at accepted
      simp only at accepted
      split at accepted
      · obtain ⟨values, inside, same⟩ := bind_eq_ok.1 accepted
        rw [pure_eq_ok, Except.ok.injEq] at same
        refine Shape.holds_pairTable.2
          ⟨_, same.symm, Ascending.isAscending_ofList values, fun each member => ?_⟩
        obtain ⟨source, _, taken⟩ := exists_mem_of_mapM inside each (Ascending.mem_ofList member)
        obtain ⟨first, inFirst, taken⟩ := bind_eq_ok.1 taken
        obtain ⟨second, inSecond, taken⟩ := bind_eq_ok.1 taken
        obtain ⟨third, inValue, taken⟩ := bind_eq_ok.1 taken
        cases taken
        obtain ⟨firstHolds, rfl⟩ := IntegerType.accept_eq_ok.1 (ofMismatch_eq_ok.1 inFirst)
        obtain ⟨secondHolds, rfl⟩ := IntegerType.accept_eq_ok.1 (ofMismatch_eq_ok.1 inSecond)
        obtain ⟨valueHolds, rfl⟩ := IntegerType.accept_eq_ok.1 (ofMismatch_eq_ok.1 inValue)
        exact ⟨firstHolds, secondHolds, valueHolds⟩
      · cases accepted
        exact Shape.holds_pairTable.2 ⟨[], rfl, List.Pairwise.nil, nofun⟩
      · cases accepted
  | .record name fields =>
      rw [Shape.isRegular, Bool.and_eq_true, decide_eq_true_eq] at regular
      rw [Shape.hasNullDefaults] at defaults
      rw [Shape.interpret.eq_def] at accepted
      simp only at accepted
      split at accepted
      · next items =>
          obtain ⟨entries, inside, same⟩ := bind_eq_ok.1 accepted
          rw [pure_eq_ok, Except.ok.injEq] at same
          exact Shape.holds_record.2 ⟨entries, same.symm, Fields.hold_of_align regular.2 defaults
            ((Datum.havePlainIntegers_iff items).1 integers) (FieldView.alignWhole_eq_ok inside)⟩
      · next source =>
          obtain ⟨found, collected, accepted⟩ := bind_eq_ok.1 accepted
          obtain ⟨entries, assembled, same⟩ := bind_eq_ok.1 accepted
          rw [pure_eq_ok, Except.ok.injEq] at same
          refine Shape.holds_record.2 ⟨entries, same.symm, Fields.hold_of_assemble regular.1 ?_
            (ofMismatch_eq_ok.1 assembled)⟩
          intro key value shape present named
          obtain ⟨datum, isEntry, taken⟩ := Fields.exists_of_lookup collected present named
          exact Fields.holds_of_find? regular.2 defaults named
            ((Datum.entriesPlainIntegers_iff source).1 integers _ isEntry) taken
      · obtain ⟨entries, assembled, same⟩ := bind_eq_ok.1 accepted
        rw [pure_eq_ok, Except.ok.injEq] at same
        refine Shape.holds_record.2 ⟨entries, same.symm, Fields.hold_of_assemble regular.1 ?_
          (ofMismatch_eq_ok.1 assembled)⟩
        intro _ _ _ present
        cases present
      · cases accepted
  | .any => exact Shape.holds_any.2 (Datum.isPlain_of_settle integers accepted)

theorem Fields.holds_of_find? {fields : Fields} {key : String} {shape : Shape}
    {datum value : Datum} (regular : fields.areRegular) (defaults : fields.haveNullDefaults)
    (named : fields.find? key = some shape) (integers : datum.hasPlainIntegers)
    (accepted : shape.interpret datum = .ok value) : shape.holds value := by
  match fields with
  | .nil => cases named
  | .cons name defaulted first rest =>
      rw [Fields.areRegular, Bool.and_eq_true] at regular
      rw [Fields.haveNullDefaults, Bool.and_eq_true, Bool.and_eq_true] at defaults
      rw [Fields.find?] at named
      split at named
      · rw [Option.some.injEq] at named
        rw [← named] at accepted ⊢
        exact Shape.holds_of_interpret regular.1 defaults.1.2 integers accepted
      · exact Fields.holds_of_find? regular.2 defaults.2 named integers accepted

/-- Fields that take the items of a list in order hold them, and null where a default is taken. -/
theorem Fields.hold_of_align {fields : Fields} {expected : String} {index : Nat}
    {items : List Datum} {entries : List (String × Datum)} (regular : fields.areRegular)
    (defaults : fields.haveNullDefaults) (integers : ∀ item ∈ items, item.hasPlainIntegers)
    (aligned : FieldView.align expected index fields.views items = .ok entries) :
    fields.hold entries := by
  match fields with
  | .nil =>
      rw [Fields.views, FieldView.align, Except.ok.injEq] at aligned
      rw [← aligned]
      rfl
  | .cons name defaulted shape rest =>
      rw [Fields.areRegular, Bool.and_eq_true] at regular
      rw [Fields.haveNullDefaults, Bool.and_eq_true, Bool.and_eq_true] at defaults
      rw [Fields.views] at aligned
      match items with
      | item :: items =>
          obtain ⟨value, accepted, aligned⟩ := bind_eq_ok.1 aligned
          obtain ⟨more, later, aligned⟩ := bind_eq_ok.1 aligned
          rw [pure_eq_ok, Except.ok.injEq] at aligned
          obtain ⟨head, tail⟩ := List.forall_mem_cons.1 integers
          refine Fields.hold_cons.2 ⟨value, more, aligned.symm, ?_, ?_⟩
          · exact Shape.holds_of_interpret regular.1 defaults.1.2 head accepted
          · exact Fields.hold_of_align regular.2 defaults.2 tail later
      | [] =>
          rw [FieldView.align] at aligned
          split at aligned
          · next isDefaulted =>
              obtain ⟨more, later, aligned⟩ := bind_eq_ok.1 aligned
              rw [pure_eq_ok, Except.ok.injEq] at aligned
              refine Fields.hold_cons.2 ⟨.null, more, aligned.symm, ?_, ?_⟩
              · have optional := defaults.1.1
                rw [show defaulted = true from isDefaulted] at optional
                exact Shape.holds_null_of_isOptional optional
              · exact Fields.hold_of_align regular.2 defaults.2 integers later
          · cases aligned

end

end Switchboard
