import Switchboard.Proofs.MessagePack.Bounds

/-
This file shows that a datum that is read from a MessagePack payload has the shape that was
expected. All of its texts and containers are short, because 32 bits announce their lengths.
-/

namespace Switchboard.MessagePack

/-- A datum suits a shape that holds it when it can also be written. -/
structure Suits (shape : Shape) (datum : Datum) : Prop where
  held : shape.holds datum
  short : datum.isShort

theorem suits_null {shape : Shape} (optional : shape.isOptional) : Suits shape .null :=
  ⟨Shape.holds_null_of_isOptional optional, rfl⟩

/-- The entries of a record suit its fields one by one. -/
structure Suit (fields : Fields) (entries : List (String × Datum)) : Prop where
  held : fields.hold entries
  short : ∀ entry ∈ entries, entry.2.isShort

theorem suit_nil : Suit .nil [] := ⟨rfl, fun _ absent => absurd absent List.not_mem_nil⟩

theorem Suit.cons {name : String} {defaulted : Bool} {shape : Shape} {rest : Fields}
    {value : Datum} {entries : List (String × Datum)} (suits : Suits shape value)
    (others : Suit rest entries) :
    Suit (.cons name defaulted shape rest) ((name, value) :: entries) :=
  ⟨Fields.hold_cons.2 ⟨value, entries, rfl, suits.held, others.held⟩,
    List.forall_mem_cons.2 ⟨suits.short, others.short⟩⟩

/-- The readers of a record return what suits its fields, also where they take a single byte. -/
inductive Serve : List FieldReader → Fields → Prop where
  | nil : Serve [] .nil
  | cons {name : String} {defaulted : Bool} {shape : Shape} {fields : Fields} {read : Reader Datum}
    {ofByte : UInt8 → Except Mismatch Datum} {readers : List FieldReader}
    (optional : defaulted → shape.isOptional) (returns : Returns read (Suits shape))
    (takes : ∀ byte value, ofByte byte = .ok value → Suits shape value)
    (others : Serve readers fields) :
    Serve (⟨name, defaulted, read, ofByte⟩ :: readers) (.cons name defaulted shape fields)

section Walks

variable {κ ν : Type} {goodKey : κ → Prop} {goodValue : ν → Prop} {good : Datum → Prop}
  {readers : List FieldReader} {fields : Fields}

theorem returns_readItems {item : Reader Datum} (returns : Returns item good) (count : Nat) :
    Returns (readItems item count) fun items =>
      items.length = count ∧ ∀ each ∈ items, good each := by
  induction count with
  | zero =>
      intro bytes items rest read
      cases read
      exact ⟨rfl, nofun⟩
  | succ count inductionHypothesis =>
      intro bytes items rest read
      obtain ⟨⟨value, behind⟩, isItem, read⟩ := bind_eq_ok.1 read
      obtain ⟨⟨more, after⟩, others, read⟩ := bind_eq_ok.1 read
      cases read
      obtain ⟨length, all⟩ := inductionHypothesis _ _ _ others
      rw [List.length_cons, length]
      exact ⟨rfl, List.forall_mem_cons.2 ⟨returns _ _ _ isItem, all⟩⟩

theorem returns_readEntries {key : Reader κ} {value : Reader ν} (returnsKey : Returns key goodKey)
    (returnsValue : Returns value goodValue) (count : Nat) :
    Returns (readEntries key value count) fun entries =>
      entries.length = count ∧ ∀ entry ∈ entries, goodKey entry.1 ∧ goodValue entry.2 := by
  induction count with
  | zero =>
      intro bytes entries rest read
      cases read
      exact ⟨rfl, nofun⟩
  | succ count inductionHypothesis =>
      intro bytes entries rest read
      obtain ⟨⟨name, behindKey⟩, isKey, read⟩ := bind_eq_ok.1 read
      obtain ⟨⟨held, behindValue⟩, isValue, read⟩ := bind_eq_ok.1 read
      obtain ⟨⟨more, after⟩, others, read⟩ := bind_eq_ok.1 read
      cases read
      obtain ⟨length, all⟩ := inductionHypothesis _ _ _ others
      rw [List.length_cons, length]
      exact ⟨rfl, List.forall_mem_cons.2
        ⟨⟨returnsKey _ _ _ isKey, returnsValue _ _ _ isValue⟩, all⟩⟩

/-- Items in order suit the fields, and null where no items are left for the last fields. -/
theorem Serve.returns_readPositional (serve : Serve readers fields) (expected : String)
    (index count : Nat) :
    Returns (readPositional expected index count readers) (Suit fields) := by
  induction serve generalizing index count with
  | nil =>
      intro bytes entries rest read
      rw [readPositional] at read
      cases read
      exact suit_nil
  | cons optional returns _ _ inductionHypothesis =>
      intro bytes entries rest read
      cases count with
      | zero =>
          rw [readPositional] at read
          split at read
          · next isDefaulted =>
              obtain ⟨⟨more, after⟩, others, read⟩ := bind_eq_ok.1 read
              cases read
              exact .cons (suits_null (optional isDefaulted))
                (inductionHypothesis _ _ _ _ _ others)
          · cases read
      | succ count =>
          obtain ⟨⟨value, behind⟩, isField, read⟩ := bind_eq_ok.1 read
          obtain ⟨⟨more, after⟩, others, read⟩ := bind_eq_ok.1 read
          cases read
          exact .cons (returns _ _ _ isField) (inductionHypothesis _ _ _ _ _ others)

theorem Serve.suit_of_ofBytes (serve : Serve readers fields) {expected : String} {index : Nat}
    {bytes : Bytes} {entries : List (String × Datum)}
    (taken : ofBytes expected index bytes readers = .ok entries) : Suit fields entries := by
  induction serve generalizing index bytes entries with
  | nil =>
      rw [ofBytes] at taken
      cases taken
      exact suit_nil
  | cons optional _ takes _ inductionHypothesis =>
      cases bytes with
      | nil =>
          rw [ofBytes] at taken
          split at taken
          · next isDefaulted =>
              obtain ⟨more, others, taken⟩ := bind_eq_ok.1 taken
              cases taken
              exact .cons (suits_null (optional isDefaulted)) (inductionHypothesis others)
          · cases taken
      | cons byte bytes =>
          obtain ⟨value, isField, taken⟩ := bind_eq_ok.1 taken
          obtain ⟨more, others, taken⟩ := bind_eq_ok.1 taken
          cases taken
          exact .cons (takes _ _ isField) (inductionHypothesis others)

theorem Serve.returns_readFieldItems (serve : Serve readers fields) (expected : String)
    (length : Nat) : Returns (readFieldItems expected readers length) (Suit fields) := by
  intro bytes entries rest read
  obtain ⟨⟨found, behind⟩, inside, read⟩ := bind_eq_ok.1 read
  simp only at read
  split at read
  · cases read
  · cases read
    exact serve.returns_readPositional _ _ _ _ _ _ inside

theorem Serve.returns_readFieldBytes (serve : Serve readers fields) (expected : String)
    (length : Nat) : Returns (readFieldBytes expected readers length) (Suit fields) := by
  intro bytes entries rest read
  obtain ⟨⟨content, behind⟩, _, read⟩ := bind_eq_ok.1 read
  obtain ⟨found, taken, read⟩ := bind_eq_ok.1 read
  cases read
  exact serve.suit_of_ofBytes (liftMismatch_eq_ok.1 taken)

/-- Where no two fields are named alike, each reader stands for the field of its name. -/
theorem Serve.exists_shape (serve : Serve readers fields) (distinct : fields.names.Nodup)
    {reader : FieldReader} (member : reader ∈ readers) :
    ∃ shape, fields.find? reader.name = some shape ∧ Returns reader.read (Suits shape) := by
  induction serve with
  | nil => exact absurd member List.not_mem_nil
  | @cons name defaulted shape rest read ofByte readers _ returns _ _ inductionHypothesis =>
      rw [Fields.names, List.nodup_cons] at distinct
      obtain rfl | later := List.mem_cons.1 member
      · exact ⟨shape, if_pos rfl, returns⟩
      · obtain ⟨found, named, returns⟩ := inductionHypothesis distinct.2 later
        refine ⟨found, ?_, returns⟩
        have different : name ≠ reader.name := by
          intro same
          rw [same] at distinct
          exact distinct.1 (Fields.find?_isSome_iff.1 (Option.isSome_iff_exists.2 ⟨found, named⟩))
        rw [Fields.find?, if_neg different, named]

theorem mem_of_find? {key : FieldKey} {reader : FieldReader}
    (found : key.find? readers = some reader) : reader ∈ readers := by
  cases key with
  | name bytes => exact List.mem_of_find?_eq_some found
  | index value => exact List.mem_of_getElem? found

/-- Whatever is found under the name of a field has its shape and can be written. -/
theorem Serve.returns_readNamed (serve : Serve readers fields) (distinct : fields.names.Nodup)
    (depth count : Nat) {found : List (String × Datum)} (knows : fields.Knows found)
    (short : ∀ entry ∈ found, entry.2.isShort) :
    Returns (readNamed depth readers count found) fun entries =>
      fields.Knows entries ∧ ∀ entry ∈ entries, entry.2.isShort := by
  induction count generalizing found with
  | zero =>
      intro bytes entries rest read
      cases read
      exact ⟨knows, short⟩
  | succ count inductionHypothesis =>
      intro bytes entries rest read
      obtain ⟨⟨key, behindKey⟩, _, read⟩ := bind_eq_ok.1 read
      simp only at read
      split at read
      -- a key is a name or an index, but what was found is filed under the name of the field
      · next reader isReader =>
          split at read
          · cases read
          · obtain ⟨⟨value, behindValue⟩, isField, read⟩ := bind_eq_ok.1 read
            obtain ⟨shape, named, returns⟩ := serve.exists_shape distinct (mem_of_find? isReader)
            have suits := returns _ _ _ isField
            refine inductionHypothesis (knows.append ?_) ?_ _ _ _ read
            · intro other sameName
              rw [named, Option.some.injEq] at sameName
              rw [← sameName]
              exact suits.held
            · intro entry member
              obtain old | new := List.mem_append.1 member
              · exact short entry old
              · rw [List.mem_singleton.1 new]
                exact suits.short
      · obtain ⟨⟨_, behindValue⟩, _, read⟩ := bind_eq_ok.1 read
        exact inductionHypothesis knows short _ _ _ read

theorem suit_of_assemble (distinct : fields.names.Nodup) {found entries : List (String × Datum)}
    (knows : fields.Knows found) (short : ∀ entry ∈ found, entry.2.isShort)
    (assembled : fields.assemble found = .ok entries) : Suit fields entries := by
  refine ⟨Fields.hold_of_assemble distinct knows assembled, fun entry member => ?_⟩
  obtain old | absent := Fields.mem_of_assemble assembled entry member
  · exact short entry old
  · rw [absent]
    rfl

end Walks

section Pairs

theorem returns_readPairItems (expected : String) (length : Nat) :
    Returns (readPairItems expected length) fun key =>
      IntegerType.i32.holds key.1 ∧ IntegerType.i32.holds key.2 := by
  intro bytes key rest read
  match length with
  | 0 => cases read
  | 1 =>
      obtain ⟨_, _, read⟩ := bind_eq_ok.1 read
      cases read
  | surplus + 2 =>
      obtain ⟨⟨first, behind⟩, isFirst, read⟩ := bind_eq_ok.1 read
      obtain ⟨⟨second, after⟩, isSecond, read⟩ := bind_eq_ok.1 read
      simp only at read
      split at read
      · cases read
        exact ⟨returns_readInteger _ _ _ _ isFirst, returns_readInteger _ _ _ _ isSecond⟩
      · cases read

theorem holds_of_pairOfBytes {expected : String} {bytes : Bytes} {key : Int × Int}
    (taken : pairOfBytes expected bytes = .ok key) :
    IntegerType.i32.holds key.1 ∧ IntegerType.i32.holds key.2 := by
  match bytes with
  | [] => cases taken
  | [byte] =>
      obtain ⟨_, _, taken⟩ := bind_eq_ok.1 taken
      cases taken
  | first :: second :: rest =>
      obtain ⟨one, isFirst, taken⟩ := bind_eq_ok.1 taken
      obtain ⟨two, isSecond, taken⟩ := bind_eq_ok.1 taken
      cases taken
      obtain ⟨firstHolds, rfl⟩ := IntegerType.accept_eq_ok.1 isFirst
      obtain ⟨secondHolds, rfl⟩ := IntegerType.accept_eq_ok.1 isSecond
      exact ⟨firstHolds, secondHolds⟩

theorem returns_readPairKey (depth : Nat) (expected : String) :
    Returns (readPairKey depth expected) fun key =>
      IntegerType.i32.holds key.1 ∧ IntegerType.i32.holds key.2 := by
  intro bytes key rest read
  obtain ⟨⟨head, behind⟩, _, read⟩ := bind_eq_ok.1 read
  simp only at read
  split at read
  · obtain ⟨_, read⟩ := exists_enter read
    exact returns_readPairItems _ _ _ _ _ read
  · obtain ⟨⟨content, after⟩, _, read⟩ := bind_eq_ok.1 read
    obtain ⟨pair, taken, read⟩ := bind_eq_ok.1 read
    cases read
    exact holds_of_pairOfBytes (liftMismatch_eq_ok.1 taken)
  · exact (not_refuse read).elim

end Pairs

section Containers

variable {item : Shape} {items : List Datum} {length : Nat}

theorem suits_list (short : Datum.isShortLength items.length)
    (suit : ∀ each ∈ items, Suits item each) : Suits (.list item) (.list items) := by
  refine ⟨Shape.holds_list.2 ⟨items, rfl, fun each member => (suit each member).held⟩, ?_⟩
  rw [Datum.isShort, short, Bool.true_and]
  exact (Datum.areShort_iff items).2 fun each member => (suit each member).short

theorem suits_dictionary {value : Shape} {entries : List (String × Datum)}
    (short : Datum.isShortLength entries.length)
    (suit : ∀ entry ∈ entries, Datum.isShortText entry.1 ∧ Suits value entry.2) :
    Suits (.dictionary value) (.object (Ascending.ofList entries)) := by
  have inside (entry : String × Datum) (member : entry ∈ Ascending.ofList entries) :=
    suit entry (Ascending.mem_ofList member)
  refine ⟨Shape.holds_dictionary.2 ⟨_, rfl, Ascending.isAscending_ofList entries,
    fun entry member => (inside entry member).2.held⟩, ?_⟩
  rw [Datum.isShort, isShortLength_ofList short, Bool.true_and]
  exact (Datum.entriesShort_iff _).2 fun entry member =>
    ⟨(inside entry member).1, (inside entry member).2.short⟩

theorem suits_pair {first second : Shape} {entries : List (String × Datum)}
    (suit : Suit (.cons "first" false first (.cons "second" false second .nil)) entries) :
    Suits (.pair first second) (.list (entries.map Prod.snd)) := by
  obtain ⟨held, short⟩ := suit
  obtain ⟨one, later, rfl, inFirst, held⟩ := Fields.hold_cons.1 held
  obtain ⟨two, later, rfl, inSecond, held⟩ := Fields.hold_cons.1 held
  obtain rfl := Fields.hold_nil.1 held
  obtain ⟨shortOne, short⟩ := List.forall_mem_cons.1 short
  obtain ⟨shortTwo, _⟩ := List.forall_mem_cons.1 short
  refine ⟨Shape.holds_pair.2 ⟨one, two, rfl, inFirst, inSecond⟩, ?_⟩
  exact (Datum.areShort_iff [one, two]).2
    (List.forall_mem_cons.2 ⟨shortOne, List.forall_mem_singleton.2 shortTwo⟩)

theorem suits_pairTable {entries : List ((Int × Int) × Int)}
    (short : Datum.isShortLength entries.length)
    (held : ∀ entry ∈ entries, (IntegerType.i32.holds entry.1.1 ∧
      IntegerType.i32.holds entry.1.2) ∧ IntegerType.i32.holds entry.2) :
    Suits .pairTable (.pairs (Ascending.ofList entries)) := by
  refine ⟨Shape.holds_pairTable.2 ⟨_, rfl, Ascending.isAscending_ofList entries, ?_⟩,
    isShortLength_ofList short⟩
  exact fun entry member => and_assoc.1 (held entry (Ascending.mem_ofList member))

theorem suits_record {name : String} {fields : Fields} {entries : List (String × Datum)}
    (narrow : (Shape.record name fields).isNarrow) (suit : Suit fields entries) :
    Suits (.record name fields) (.object entries) := by
  rw [Shape.isNarrow, Bool.and_eq_true] at narrow
  have named := Fields.names_of_hold suit.held
  refine ⟨Shape.holds_record.2 ⟨entries, rfl, suit.held⟩, ?_⟩
  rw [Datum.isShort, ← List.length_map Prod.fst, named, narrow.1, Bool.true_and]
  refine (Datum.entriesShort_iff entries).2 fun entry member => ⟨?_, suit.short entry member⟩
  exact Fields.isShortText_of_mem narrow.2 _ (named ▸ List.mem_map_of_mem member)

/-- A single byte suits the shapes that take one. -/
theorem suits_of_ofByte {shape : Shape} {byte : UInt8} {value : Datum}
    (taken : ofByte shape byte = .ok value) : Suits shape value := by
  cases shape with
  | integer type =>
      rw [ofByte] at taken
      cases accepted : type.accept byte.toNat with
      | error cause =>
          rw [accepted] at taken
          cases taken
      | ok held =>
          rw [accepted] at taken
          cases taken
          exact ⟨Shape.holds_integer.2 ⟨held, rfl, holds_of_accept (liftMismatch_eq_ok.2 accepted)⟩,
            rfl⟩
  | any =>
      have small : byte.toNat < 256 := byte.toNat_lt
      cases taken
      refine ⟨Shape.holds_any.2 ?_, rfl⟩
      simp only [Datum.isPlain, Datum.isPlainInteger, Bool.and_eq_true, decide_eq_true_eq]
      omega
  | unit | bool | text | optional _ | list _ | dictionary _ | pair _ _ | pairTable | record _ _ =>
      cases taken

theorem serve_pairFields {first second : Shape} {readFirst readSecond : Reader Datum}
    (returnsFirst : Returns readFirst (Suits first))
    (returnsSecond : Returns readSecond (Suits second)) :
    Serve (pairFields first second readFirst readSecond)
      (.cons "first" false first (.cons "second" false second .nil)) :=
  .cons nofun returnsFirst (fun _ _ => suits_of_ofByte)
    (.cons nofun returnsSecond (fun _ _ => suits_of_ofByte) .nil)

end Containers

mutual

/-- A reader that expects a closed shape returns data of that shape that can be written again. -/
theorem returns_readShape {shape : Shape} (regular : shape.isRegular)
    (defaults : shape.hasNullDefaults) (closed : shape.isClosed) (narrow : shape.isNarrow)
    (depth : Nat) : Returns (readShape shape depth) (Suits shape) := by
  intro bytes datum rest read
  match shape with
  | .unit =>
      rw [readShape] at read
      obtain ⟨⟨head, behind⟩, _, read⟩ := bind_eq_ok.1 read
      simp only at read
      split at read
      · cases read
        exact ⟨Shape.holds_unit.2 rfl, rfl⟩
      · exact (not_refuse read).elim
  | .bool =>
      rw [readShape] at read
      obtain ⟨⟨head, behind⟩, _, read⟩ := bind_eq_ok.1 read
      simp only at read
      split at read
      · cases read
        exact ⟨Shape.holds_bool.2 ⟨_, rfl⟩, rfl⟩
      · exact (not_refuse read).elim
  | .integer type =>
      rw [readShape] at read
      obtain ⟨⟨value, behind⟩, isInteger, read⟩ := bind_eq_ok.1 read
      cases read
      exact ⟨Shape.holds_integer.2 ⟨value, rfl, returns_readInteger type _ _ _ isInteger⟩, rfl⟩
  | .text =>
      rw [readShape] at read
      obtain ⟨⟨text, behind⟩, isText, read⟩ := bind_eq_ok.1 read
      cases read
      exact ⟨Shape.holds_text.2 ⟨text, rfl⟩, returns_readTextValue _ _ _ _ _ isText⟩
  | .optional content =>
      rw [Shape.isRegular] at regular
      rw [Shape.hasNullDefaults] at defaults
      rw [Shape.isClosed] at closed
      rw [Shape.isNarrow] at narrow
      rw [readShape] at read
      split at read
      · cases read
        exact suits_null rfl
      · have suits := returns_readShape regular defaults closed narrow depth _ _ _ read
        exact ⟨Shape.holds_optional.2 (.inr suits.held), suits.short⟩
  | .list item =>
      rw [Shape.isRegular] at regular
      rw [Shape.hasNullDefaults] at defaults
      rw [Shape.isClosed] at closed
      rw [Shape.isNarrow] at narrow
      rw [readShape] at read
      obtain ⟨⟨head, behind⟩, isHead, read⟩ := bind_eq_ok.1 read
      have short := isShort_of_readHead isHead
      simp only at read
      split at read
      · obtain ⟨inner, read⟩ := exists_enter read
        obtain ⟨⟨items, after⟩, inside, read⟩ := bind_eq_ok.1 read
        cases read
        obtain ⟨rfl, suit⟩ := returns_readItems
          (returns_readShape regular defaults closed narrow inner) _ _ _ _ inside
        exact suits_list short suit
      · obtain ⟨⟨content, after⟩, isContent, read⟩ := bind_eq_ok.1 read
        obtain ⟨items, taken, read⟩ := bind_eq_ok.1 read
        cases read
        have done := liftMismatch_eq_ok.1 taken
        have same : items.length = content.length := length_of_mapM done
        refine suits_list ?_ fun each member => ?_
        · rw [same, readExactly_eq_ok isContent]
          exact short
        · obtain ⟨byte, _, isItem⟩ := exists_mem_of_mapM done each member
          exact suits_of_ofByte isItem
      · exact (not_refuse read).elim
  | .dictionary value =>
      rw [Shape.isRegular] at regular
      rw [Shape.hasNullDefaults] at defaults
      rw [Shape.isClosed] at closed
      rw [Shape.isNarrow] at narrow
      rw [readShape] at read
      obtain ⟨⟨head, behind⟩, isHead, read⟩ := bind_eq_ok.1 read
      have short := isShort_of_readHead isHead
      simp only at read
      split at read
      · obtain ⟨inner, read⟩ := exists_enter read
        obtain ⟨⟨entries, after⟩, inside, read⟩ := bind_eq_ok.1 read
        cases read
        obtain ⟨rfl, suit⟩ := returns_readEntries (returns_readTextValue inner _)
          (returns_readShape regular defaults closed narrow inner) _ _ _ _ inside
        exact suits_dictionary short suit
      · exact (not_refuse read).elim
  | .pair first second =>
      rw [Shape.isRegular, Bool.and_eq_true] at regular
      rw [Shape.hasNullDefaults, Bool.and_eq_true] at defaults
      rw [Shape.isClosed, Bool.and_eq_true] at closed
      rw [Shape.isNarrow, Bool.and_eq_true] at narrow
      have serve (inner : Nat) := serve_pairFields
        (returns_readShape regular.1 defaults.1 closed.1 narrow.1 inner)
        (returns_readShape regular.2 defaults.2 closed.2 narrow.2 inner)
      rw [readShape] at read
      obtain ⟨⟨head, behind⟩, _, read⟩ := bind_eq_ok.1 read
      simp only at read
      split at read
      · obtain ⟨inner, read⟩ := exists_enter read
        obtain ⟨⟨entries, after⟩, inside, read⟩ := bind_eq_ok.1 read
        cases read
        exact suits_pair ((serve inner).returns_readFieldItems _ _ _ _ _ inside)
      · obtain ⟨⟨entries, after⟩, inside, read⟩ := bind_eq_ok.1 read
        cases read
        exact suits_pair ((serve depth).returns_readFieldBytes _ _ _ _ _ inside)
      · exact (not_refuse read).elim
  | .pairTable =>
      rw [readShape] at read
      obtain ⟨⟨head, behind⟩, isHead, read⟩ := bind_eq_ok.1 read
      have short := isShort_of_readHead isHead
      simp only at read
      split at read
      · obtain ⟨inner, read⟩ := exists_enter read
        obtain ⟨⟨entries, after⟩, inside, read⟩ := bind_eq_ok.1 read
        cases read
        obtain ⟨rfl, held⟩ := returns_readEntries (returns_readPairKey inner _)
          (returns_readInteger .i32) _ _ _ _ inside
        exact suits_pairTable short held
      · exact (not_refuse read).elim
  | .record name fields =>
      rw [Shape.isRegular, Bool.and_eq_true, decide_eq_true_eq] at regular
      rw [Shape.hasNullDefaults] at defaults
      rw [Shape.isClosed] at closed
      have inside := narrow
      rw [Shape.isNarrow, Bool.and_eq_true] at inside
      have serve := serve_readFields regular.2 defaults closed inside.2
      rw [readShape] at read
      obtain ⟨⟨head, behind⟩, _, read⟩ := bind_eq_ok.1 read
      simp only at read
      split at read
      · obtain ⟨inner, read⟩ := exists_enter read
        obtain ⟨⟨entries, after⟩, inside, read⟩ := bind_eq_ok.1 read
        cases read
        exact suits_record narrow ((serve inner).returns_readFieldItems _ _ _ _ _ inside)
      · obtain ⟨⟨entries, after⟩, inside, read⟩ := bind_eq_ok.1 read
        cases read
        exact suits_record narrow ((serve depth).returns_readFieldBytes _ _ _ _ _ inside)
      · obtain ⟨inner, read⟩ := exists_enter read
        obtain ⟨⟨found, after⟩, inside, read⟩ := bind_eq_ok.1 read
        obtain ⟨entries, assembled, read⟩ := bind_eq_ok.1 read
        cases read
        obtain ⟨knows, short⟩ := (serve inner).returns_readNamed regular.1 _ _ fields.knows_nil
          (fun _ absent => absurd absent List.not_mem_nil) _ _ _ inside
        exact suits_record narrow
          (suit_of_assemble regular.1 knows short (liftMismatch_eq_ok.1 assembled))
      · exact (not_refuse read).elim
  | .any => cases closed

theorem serve_readFields {fields : Fields} (regular : fields.areRegular)
    (defaults : fields.haveNullDefaults) (closed : fields.areClosed) (narrow : fields.areNarrow)
    (depth : Nat) : Serve (readFields fields depth) fields := by
  match fields with
  | .nil => exact .nil
  | .cons name defaulted shape rest =>
      rw [Fields.areRegular, Bool.and_eq_true] at regular
      rw [Fields.haveNullDefaults, Bool.and_eq_true, Bool.and_eq_true] at defaults
      rw [Fields.areClosed, Bool.and_eq_true] at closed
      rw [Fields.areNarrow, Bool.and_eq_true, Bool.and_eq_true] at narrow
      refine .cons (fun isDefaulted => ?_)
        (returns_readShape regular.1 defaults.1.2 closed.1 narrow.1.2 depth)
        (fun _ _ => suits_of_ofByte)
        (serve_readFields regular.2 defaults.2 closed.2 narrow.2 depth)
      have optional := defaults.1.1
      rw [isDefaulted] at optional
      exact optional

end

/-- A payload is read as a datum of the shape that was expected, and it can be written again. -/
theorem suits_of_readPayload {shape : Shape} (regular : shape.isRegular)
    (defaults : shape.hasNullDefaults) (closed : shape.isClosed) (narrow : shape.isNarrow)
    {payload : Bytes} {datum : Datum} (read : readPayload shape payload = .ok datum) :
    Suits shape datum := by
  obtain ⟨⟨found, rest⟩, isRead, read⟩ := bind_eq_ok.1 read
  cases read
  exact returns_readShape regular defaults closed narrow maximalDepth _ _ _ isRead

end Switchboard.MessagePack
