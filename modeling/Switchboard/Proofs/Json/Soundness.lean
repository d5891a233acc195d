import Switchboard.Json.Reader
import Switchboard.Proofs.Json.Walk
import Switchboard.Proofs.Reading

/-
This file shows that a datum that is read from a JSON payload has the shape that was expected.
-/

namespace Switchboard.Json

/-- The readers of a record return what its fields hold, and null where a field may be missing. -/
inductive Serve : List FieldReader → Fields → Prop where
  | nil : Serve [] .nil
  | cons {name : String} {defaulted : Bool} {shape : Shape} {fields : Fields} {read : Reader Datum}
    {readers : List FieldReader} (optional : defaulted → shape.isOptional)
    (returns : Returns read fun datum => shape.holds datum) (others : Serve readers fields) :
    Serve (⟨name, defaulted, read⟩ :: readers) (.cons name defaulted shape fields)

section Walks

variable {α : Type} {good : α → Prop} {readers : List FieldReader} {fields : Fields}

theorem returns_readParts (exhausted : Cause) (next : Bool → Reader Next) {part : Reader α}
    (returns : Returns part good) (bound : Bytes) (first : Bool) :
    Returns (readParts exhausted next part bound first) fun parts => ∀ each ∈ parts, good each := by
  induction bound generalizing first with
  | nil => exact nofun
  | cons mark bound inductionHypothesis =>
      intro bytes parts rest read
      obtain ⟨⟨found, behind⟩, _, read⟩ := bind_eq_ok.1 read
      cases found with
      | closed =>
          cases read
          exact fun _ absent => absurd absent List.not_mem_nil
      | item =>
          obtain ⟨⟨meaning, after⟩, isPart, read⟩ := bind_eq_ok.1 read
          obtain ⟨⟨more, last⟩, others, read⟩ := bind_eq_ok.1 read
          cases read
          exact List.forall_mem_cons.2
            ⟨returns _ _ _ isPart, inductionHypothesis false _ _ _ others⟩

/-- A field reader is found exactly under the name of a field. -/
theorem Serve.find? (serve : Serve readers fields) {key : String} {reader : FieldReader}
    (found : FieldReader.find? key readers = some reader) {shape : Shape}
    (named : fields.find? key = some shape) :
    Returns reader.read fun datum => shape.holds datum := by
  induction serve with
  | nil => cases found
  | cons _ returns _ inductionHypothesis =>
      rw [FieldReader.find?] at found
      rw [Fields.find?] at named
      split at found
      · next same =>
          rw [if_pos same, Option.some.injEq] at named
          rw [Option.some.injEq] at found
          rw [← found, ← named]
          exact returns
      · next different =>
          rw [if_neg different] at named
          exact inductionHypothesis found named

/-- A list that stands for a record holds its fields in order. -/
theorem Serve.returns_readPositional (serve : Serve readers fields) (expected : String)
    (index : Nat) (first : Bool) :
    Returns (readPositional expected index first readers) fun entries => fields.hold entries := by
  induction serve generalizing index first with
  | nil =>
      intro bytes entries rest read
      cases read
      exact Fields.hold_nil.2 rfl
  | cons optional returns _ inductionHypothesis =>
      intro bytes entries rest read
      obtain ⟨⟨found, behind⟩, _, read⟩ := bind_eq_ok.1 read
      cases found with
      | item =>
          obtain ⟨⟨value, after⟩, isField, read⟩ := bind_eq_ok.1 read
          obtain ⟨⟨more, last⟩, others, read⟩ := bind_eq_ok.1 read
          cases read
          exact Fields.hold_cons.2 ⟨value, more, rfl, returns _ _ _ isField,
            inductionHypothesis _ _ _ _ _ others⟩
      | closed =>
          simp only at read
          split at read
          · next isDefaulted =>
              obtain ⟨⟨more, last⟩, others, read⟩ := bind_eq_ok.1 read
              cases read
              exact Fields.hold_cons.2 ⟨.null, more, rfl,
                Shape.holds_null_of_isOptional (optional isDefaulted),
                inductionHypothesis _ _ _ _ _ others⟩
          · cases read

/-- Whatever is found under the name of a field has its shape. -/
theorem Serve.returns_readNamed (serve : Serve readers fields) (bound : Bytes) (first : Bool)
    {found : List (String × Datum)} (knows : fields.Knows found) :
    Returns (readNamed readers bound first found) fields.Knows := by
  induction bound generalizing first found with
  | nil => exact nofun
  | cons mark bound inductionHypothesis =>
      intro bytes entries rest read
      obtain ⟨⟨next, behind⟩, _, read⟩ := bind_eq_ok.1 read
      cases next with
      | closed =>
          cases read
          exact knows
      | item =>
          obtain ⟨⟨key, after⟩, _, read⟩ := bind_eq_ok.1 read
          simp only at read
          split at read
          · next reader isReader =>
              split at read
              · cases read
              · obtain ⟨⟨_, behindColon⟩, _, read⟩ := bind_eq_ok.1 read
                obtain ⟨⟨value, behindValue⟩, isField, read⟩ := bind_eq_ok.1 read
                have held (shape : Shape) (named : fields.find? key = some shape) :
                    shape.holds value :=
                  serve.find? isReader named _ _ _ isField
                exact inductionHypothesis false (knows.append held) _ _ _ read
          · obtain ⟨⟨_, behindColon⟩, _, read⟩ := bind_eq_ok.1 read
            obtain ⟨⟨_, behindValue⟩, _, read⟩ := bind_eq_ok.1 read
            exact inductionHypothesis false knows _ _ _ read

end Walks

section Containers

variable {good : Datum → Prop} {reader : Reader Datum} {readers : List FieldReader}
  {fields : Fields}

theorem returns_enter {inside : Nat → Reader Datum} (returns : ∀ inner, Returns (inside inner) good)
    (depth : Nat) : Returns (enter depth inside) good := by
  intro bytes datum rest read
  cases depth with
  | zero => cases read
  | succ depth => exact returns depth _ _ _ read

theorem returns_readList (returns : Returns reader good) :
    Returns (readList reader) fun datum =>
      ∃ items, datum = .list items ∧ ∀ item ∈ items, good item := by
  intro bytes datum rest read
  obtain ⟨⟨items, behind⟩, inside, read⟩ := bind_eq_ok.1 read
  obtain ⟨_, _, read⟩ := bind_eq_ok.1 read
  cases read
  rw [readItems_eq_readParts] at inside
  exact ⟨items, rfl, returns_readParts _ _ returns _ _ _ _ _ inside⟩

theorem returns_readEntry (returns : Returns reader good) :
    Returns (readEntry reader) fun entry => good entry.2 := by
  intro bytes entry rest read
  obtain ⟨⟨key, behindKey⟩, _, read⟩ := bind_eq_ok.1 read
  obtain ⟨⟨_, behindColon⟩, _, read⟩ := bind_eq_ok.1 read
  obtain ⟨⟨held, behind⟩, isValue, read⟩ := bind_eq_ok.1 read
  cases read
  exact returns _ _ _ isValue

theorem returns_readDictionary (returns : Returns reader good) :
    Returns (readDictionary reader) fun datum => ∃ entries, datum = .object entries ∧
      Ascending.IsAscending (entries.map Prod.fst) ∧ ∀ entry ∈ entries, good entry.2 := by
  intro bytes datum rest read
  obtain ⟨⟨entries, behind⟩, inside, read⟩ := bind_eq_ok.1 read
  obtain ⟨_, _, read⟩ := bind_eq_ok.1 read
  cases read
  rw [readEntries_eq_readParts] at inside
  have all := returns_readParts _ _ (returns_readEntry returns) _ _ _ _ _ inside
  exact ⟨_, rfl, Ascending.isAscending_ofList entries, fun entry member =>
    all entry (Ascending.mem_ofList member)⟩

theorem returns_readPairTable (expectedKey : String) :
    Returns (readPairTable expectedKey) fun datum => datum = .pairs [] := by
  intro bytes datum rest read
  obtain ⟨⟨next, behind⟩, _, read⟩ := bind_eq_ok.1 read
  cases next with
  | closed =>
      obtain ⟨_, _, read⟩ := bind_eq_ok.1 read
      cases read
      rfl
  | item =>
      obtain ⟨_, _, read⟩ := bind_eq_ok.1 read
      cases read

theorem returns_readPair (expected : String) {first second : Shape}
    {readFirst readSecond : Reader Datum}
    (returnsFirst : Returns readFirst fun datum => first.holds datum)
    (returnsSecond : Returns readSecond fun datum => second.holds datum) :
    Returns (readPair expected readFirst readSecond) fun datum =>
      ∃ one two, datum = .list [one, two] ∧ first.holds one ∧ second.holds two := by
  intro bytes datum rest read
  have serve : Serve [⟨"first", false, readFirst⟩, ⟨"second", false, readSecond⟩]
      (.cons "first" false first (.cons "second" false second .nil)) :=
    .cons nofun returnsFirst (.cons nofun returnsSecond .nil)
  obtain ⟨⟨entries, behind⟩, inside, read⟩ := bind_eq_ok.1 read
  obtain ⟨_, _, read⟩ := bind_eq_ok.1 read
  cases read
  have held := serve.returns_readPositional _ _ _ _ _ _ inside
  obtain ⟨one, later, rfl, inFirst, held⟩ := Fields.hold_cons.1 held
  obtain ⟨two, later, rfl, inSecond, held⟩ := Fields.hold_cons.1 held
  obtain rfl := Fields.hold_nil.1 held
  exact ⟨one, two, rfl, inFirst, inSecond⟩

theorem Serve.returns_readRecordList (serve : Serve readers fields) (expected : String) :
    Returns (readRecordList expected readers) fun datum =>
      ∃ entries, datum = .object entries ∧ fields.hold entries := by
  intro bytes datum rest read
  obtain ⟨⟨entries, behind⟩, inside, read⟩ := bind_eq_ok.1 read
  obtain ⟨_, _, read⟩ := bind_eq_ok.1 read
  cases read
  exact ⟨entries, rfl, serve.returns_readPositional _ _ _ _ _ _ inside⟩

theorem Serve.returns_readRecordObject (serve : Serve readers fields)
    (distinct : fields.names.Nodup) :
    Returns (readRecordObject fields readers) fun datum =>
      ∃ entries, datum = .object entries ∧ fields.hold entries := by
  intro bytes datum rest read
  obtain ⟨⟨found, behind⟩, inside, read⟩ := bind_eq_ok.1 read
  have knows := serve.returns_readNamed _ _ fields.knows_nil _ _ _ inside
  simp only at read
  split at read
  · cases read
  · next entries assembled =>
      obtain ⟨_, _, read⟩ := bind_eq_ok.1 read
      cases read
      exact ⟨entries, rfl, Fields.hold_of_assemble distinct knows assembled⟩

end Containers

/-- Only the literal of the absent value starts like it. -/
theorem eq_null_of_startsLikeNull {bytes rest : Bytes} {head : Head}
    (starts : startsLikeNull (skipBlanks bytes)) (read : readHead bytes = .ok (head, rest)) :
    head = .null := by
  rw [readHead] at read
  split at read
  · cases read
  next byte more skipped =>
  rw [skipped, startsLikeNull, decide_eq_true_eq] at starts
  subst starts
  obtain ⟨_, _, read⟩ := bind_eq_ok.1 read
  cases read
  rfl

mutual

/-- A reader that expects a closed shape returns data of that shape only. -/
theorem returns_readShape {shape : Shape} (regular : shape.isRegular)
    (defaults : shape.hasNullDefaults) (closed : shape.isClosed) (depth : Nat) :
    Returns (readShape shape depth) fun datum => shape.holds datum := by
  -- along the shape; the depth is free, because a bracket only takes one of it
  intro bytes datum rest read
  match shape with
  | .unit =>
      rw [readShape] at read
      obtain ⟨⟨head, behind⟩, _, read⟩ := bind_eq_ok.1 read
      cases head with
      | null =>
          cases read
          exact Shape.holds_unit.2 rfl
      | bool _ | number _ | text _ | openList | openObject => cases read
  | .bool =>
      rw [readShape] at read
      obtain ⟨⟨head, behind⟩, _, read⟩ := bind_eq_ok.1 read
      cases head with
      | bool value =>
          cases read
          exact Shape.holds_bool.2 ⟨value, rfl⟩
      | null | number _ | text _ | openList | openObject => cases read
  | .integer type =>
      rw [readShape] at read
      obtain ⟨⟨head, behind⟩, _, read⟩ := bind_eq_ok.1 read
      simp only at read
      split at read
      · split at read
        · next value accepted =>
            cases read
            obtain ⟨inRange, rfl⟩ := IntegerType.accept_eq_ok.1 accepted
            exact Shape.holds_integer.2 ⟨_, rfl, inRange⟩
        · cases read
      · cases read
  | .text =>
      rw [readShape] at read
      obtain ⟨⟨head, behind⟩, _, read⟩ := bind_eq_ok.1 read
      cases head with
      | text value =>
          cases read
          exact Shape.holds_text.2 ⟨value, rfl⟩
      | null | bool _ | number _ | openList | openObject => cases read
  | .optional content =>
      rw [Shape.isRegular] at regular
      rw [Shape.hasNullDefaults] at defaults
      rw [Shape.isClosed] at closed
      rw [readShape] at read
      split at read
      · next starts =>
          obtain ⟨⟨head, behind⟩, isHead, read⟩ := bind_eq_ok.1 read
          cases read
          rw [eq_null_of_startsLikeNull starts isHead]
          exact Shape.holds_optional.2 (.inl rfl)
      · exact Shape.holds_optional.2
          (.inr (returns_readShape regular defaults closed depth _ _ _ read))
  | .list item =>
      rw [Shape.isRegular] at regular
      rw [Shape.hasNullDefaults] at defaults
      rw [Shape.isClosed] at closed
      rw [readShape] at read
      obtain ⟨⟨head, behind⟩, _, read⟩ := bind_eq_ok.1 read
      cases head with
      | openList =>
          have returns (inner : Nat) :=
            returns_readList (returns_readShape regular defaults closed inner)
          exact Shape.holds_list.2 (returns_enter returns depth _ _ _ read)
      | null | bool _ | number _ | text _ | openObject => cases read
  | .dictionary value =>
      rw [Shape.isRegular] at regular
      rw [Shape.hasNullDefaults] at defaults
      rw [Shape.isClosed] at closed
      rw [readShape] at read
      obtain ⟨⟨head, behind⟩, _, read⟩ := bind_eq_ok.1 read
      cases head with
      | openObject =>
          have returns (inner : Nat) :=
            returns_readDictionary (returns_readShape regular defaults closed inner)
          exact Shape.holds_dictionary.2 (returns_enter returns depth _ _ _ read)
      | null | bool _ | number _ | text _ | openList => cases read
  | .pair first second =>
      rw [Shape.isRegular, Bool.and_eq_true] at regular
      rw [Shape.hasNullDefaults, Bool.and_eq_true] at defaults
      rw [Shape.isClosed, Bool.and_eq_true] at closed
      rw [readShape] at read
      obtain ⟨⟨head, behind⟩, _, read⟩ := bind_eq_ok.1 read
      cases head with
      | openList =>
          have returns (inner : Nat) := returns_readPair (Shape.pair first second).expected
            (returns_readShape regular.1 defaults.1 closed.1 inner)
            (returns_readShape regular.2 defaults.2 closed.2 inner)
          exact Shape.holds_pair.2 (returns_enter returns depth _ _ _ read)
      | null | bool _ | number _ | text _ | openObject => cases read
  | .pairTable =>
      rw [readShape] at read
      obtain ⟨⟨head, behind⟩, _, read⟩ := bind_eq_ok.1 read
      cases head with
      | openObject =>
          have empty := returns_enter (fun _ => returns_readPairTable _) depth _ _ _ read
          exact Shape.holds_pairTable.2 ⟨[], empty, List.Pairwise.nil, nofun⟩
      | null | bool _ | number _ | text _ | openList => cases read
  | .record name fields =>
      rw [Shape.isRegular, Bool.and_eq_true, decide_eq_true_eq] at regular
      rw [Shape.hasNullDefaults] at defaults
      rw [Shape.isClosed] at closed
      rw [readShape] at read
      obtain ⟨⟨head, behind⟩, _, read⟩ := bind_eq_ok.1 read
      have serve := serve_readFields regular.2 defaults closed
      cases head with
      | openList =>
          have returns (inner : Nat) := (serve inner).returns_readRecordList
            (Shape.record name fields).expectedLength
          exact Shape.holds_record.2 (returns_enter returns depth _ _ _ read)
      | openObject =>
          have returns (inner : Nat) := (serve inner).returns_readRecordObject regular.1
          exact Shape.holds_record.2 (returns_enter returns depth _ _ _ read)
      | null | bool _ | number _ | text _ => cases read
  | .any => cases closed

theorem serve_readFields {fields : Fields} (regular : fields.areRegular)
    (defaults : fields.haveNullDefaults) (closed : fields.areClosed) (depth : Nat) :
    Serve (readFields fields depth) fields := by
  match fields with
  | .nil => exact .nil
  | .cons name defaulted shape rest =>
      rw [Fields.areRegular, Bool.and_eq_true] at regular
      rw [Fields.haveNullDefaults, Bool.and_eq_true, Bool.and_eq_true] at defaults
      rw [Fields.areClosed, Bool.and_eq_true] at closed
      refine .cons (fun isDefaulted => ?_)
        (returns_readShape regular.1 defaults.1.2 closed.1 depth)
        (serve_readFields regular.2 defaults.2 closed.2 depth)
      have optional := defaults.1.1
      rw [isDefaulted] at optional
      exact optional

end

/-- A payload is read as a datum of the shape that was expected. -/
theorem holds_of_readPayload {shape : Shape} (regular : shape.isRegular)
    (defaults : shape.hasNullDefaults) (closed : shape.isClosed) {payload : Bytes} {datum : Datum}
    (read : readPayload shape payload = .ok datum) : shape.holds datum := by
  obtain ⟨⟨found, rest⟩, isRead, read⟩ := bind_eq_ok.1 read
  simp only at read
  split at read
  · cases read
    exact returns_readShape regular defaults closed maximalDepth _ _ _ isRead
  · cases read

end Switchboard.Json
