import Switchboard.Mismatch
import Switchboard.Proofs.Datum

/-
This file says which shapes tell their fields apart, and what the data of a shape have in common.
-/

namespace Switchboard

mutual

/-- A shape is regular when no record in it names two fields alike. -/
def Shape.isRegular : Shape → Bool
  | .optional content => content.isRegular
  | .list item => item.isRegular
  | .dictionary value => value.isRegular
  | .pair first second => first.isRegular && second.isRegular
  | .record _ fields => decide fields.names.Nodup && fields.areRegular
  | _ => true

def Fields.areRegular : Fields → Bool
  | .nil => true
  | .cons _ _ shape rest => shape.isRegular && rest.areRegular

end

mutual

/-- A shape is closed when it says what is held at every depth. -/
def Shape.isClosed : Shape → Bool
  | .optional content => content.isClosed
  | .list item => item.isClosed
  | .dictionary value => value.isClosed
  | .pair first second => first.isClosed && second.isClosed
  | .record _ fields => fields.areClosed
  | .any => false
  | _ => true

def Fields.areClosed : Fields → Bool
  | .nil => true
  | .cons _ _ shape rest => shape.isClosed && rest.areClosed

end

mutual

/-- The data of a closed shape nest no deeper than the shape does. -/
def Shape.depth : Shape → Nat
  | .optional content => content.depth
  | .list item => item.depth + 1
  | .dictionary value => value.depth + 1
  | .pair first second => max first.depth second.depth + 1
  | .pairTable => 2
  | .record _ fields => fields.depth + 1
  | _ => 0

def Fields.depth : Fields → Nat
  | .nil => 0
  | .cons _ _ shape rest => max shape.depth rest.depth

end

mutual

/-- A shape has null defaults when every field that may be missing may be null. -/
def Shape.hasNullDefaults : Shape → Bool
  | .optional content => content.hasNullDefaults
  | .list item => item.hasNullDefaults
  | .dictionary value => value.hasNullDefaults
  | .pair first second => first.hasNullDefaults && second.hasNullDefaults
  | .record _ fields => fields.haveNullDefaults
  | _ => true

def Fields.haveNullDefaults : Fields → Bool
  | .nil => true
  | .cons _ defaulted shape rest =>
    (!defaulted || shape.isOptional) && shape.hasNullDefaults && rest.haveNullDefaults

end

mutual

/-- A shape is narrow when the names of its fields are short, and no record has too many of them. -/
def Shape.isNarrow : Shape → Bool
  | .optional content => content.isNarrow
  | .list item => item.isNarrow
  | .dictionary value => value.isNarrow
  | .pair first second => first.isNarrow && second.isNarrow
  | .record _ fields => Datum.isShortLength fields.names.length && fields.areNarrow
  | _ => true

def Fields.areNarrow : Fields → Bool
  | .nil => true
  | .cons name _ shape rest => Datum.isShortText name && shape.isNarrow && rest.areNarrow

end

attribute [simp] Shape.holds Fields.hold

/-- Integers of every type fit into 64 bits. -/
theorem IntegerType.isPlainInteger_of_holds {type : IntegerType} {value : Int}
    (held : type.holds value) : Datum.isPlainInteger value := by
  simp only [holds, Bool.and_eq_true, decide_eq_true_eq] at held
  simp only [Datum.isPlainInteger, Bool.and_eq_true, decide_eq_true_eq]
  cases type <;> simp only [minimum, maximum] at held <;> omega

namespace Shape

variable {datum : Datum}

theorem holds_unit : unit.holds datum ↔ datum = .null := by
  cases datum <;> simp

theorem holds_bool : bool.holds datum ↔ ∃ value, datum = .bool value := by
  cases datum <;> simp

theorem holds_integer {type : IntegerType} :
    (integer type).holds datum ↔ ∃ value, datum = .int value ∧ type.holds value := by
  cases datum <;> simp

theorem holds_text : text.holds datum ↔ ∃ value, datum = .text value := by
  cases datum <;> simp

theorem holds_optional {content : Shape} :
    (optional content).holds datum ↔ datum = .null ∨ content.holds datum := by
  cases datum <;> simp

theorem holds_null_of_isOptional {shape : Shape} (optional : shape.isOptional) :
    shape.holds .null := by
  cases shape with
  | optional content => exact holds_optional.2 (.inl rfl)
  | unit | bool | integer _ | text | list _ | dictionary _ | pair _ _ | pairTable | record _ _
  | any => cases optional

theorem holds_list {item : Shape} :
    (list item).holds datum ↔ ∃ items, datum = .list items ∧ ∀ held ∈ items, item.holds held := by
  cases datum <;> simp

theorem holds_dictionary {value : Shape} :
    (dictionary value).holds datum ↔ ∃ entries, datum = .object entries ∧
      Ascending.IsAscending (entries.map Prod.fst) ∧ ∀ entry ∈ entries, value.holds entry.2 := by
  cases datum <;> simp

theorem holds_pair {first second : Shape} :
    (pair first second).holds datum ↔
      ∃ one two, datum = .list [one, two] ∧ first.holds one ∧ second.holds two := by
  constructor
  · intro held
    match datum with
    | .list [one, two] =>
        simp only [holds, Bool.and_eq_true] at held
        exact ⟨one, two, rfl, held.1, held.2⟩
    | .list [] | .list [_] | .list (_ :: _ :: _ :: _) => simp at held
    | .null | .bool _ | .int _ | .float _ | .text _ | .object _ | .pairs _ => simp at held
  · rintro ⟨one, two, rfl, firstHeld, secondHeld⟩
    simp [firstHeld, secondHeld]

theorem holds_pairTable :
    pairTable.holds datum ↔ ∃ entries, datum = .pairs entries ∧
      Ascending.IsAscending (entries.map Prod.fst) ∧ ∀ entry ∈ entries,
        IntegerType.i32.holds entry.1.1 ∧ IntegerType.i32.holds entry.1.2 ∧
          IntegerType.i32.holds entry.2 := by
  cases datum <;> simp [and_assoc]

theorem holds_record {name : String} {fields : Fields} :
    (record name fields).holds datum ↔
      ∃ entries, datum = .object entries ∧ fields.hold entries := by
  cases datum <;> simp

theorem holds_any : any.holds datum ↔ datum.isPlain := by
  cases datum <;> simp

/-- A depth that has room for a container has room for its content below it. -/
theorem exists_depth_of_le {content depth : Nat} (within : content + 1 ≤ depth) :
    ∃ inner, depth = inner + 1 ∧ content ≤ inner := by
  obtain ⟨more, same⟩ := Nat.exists_eq_add_of_le within
  exact ⟨content + more, by omega, Nat.le_add_right _ _⟩

end Shape

namespace Fields

/-- The entries of a record are its fields, one by one. -/
theorem hold_cons {name : String} {defaulted : Bool} {shape : Shape} {rest : Fields}
    {entries : List (String × Datum)} :
    (cons name defaulted shape rest).hold entries ↔
      ∃ value later, entries = (name, value) :: later ∧ shape.holds value ∧ rest.hold later := by
  match entries with
  | [] => simp
  | (key, value) :: later =>
      simp only [hold, Bool.and_eq_true, decide_eq_true_eq, List.cons.injEq, Prod.mk.injEq]
      constructor
      · rintro ⟨⟨same, held⟩, laterHeld⟩
        exact ⟨value, later, ⟨⟨same, rfl⟩, rfl⟩, held, laterHeld⟩
      · rintro ⟨_, _, ⟨⟨same, rfl⟩, rfl⟩, held, laterHeld⟩
        exact ⟨⟨same, held⟩, laterHeld⟩

theorem hold_nil {entries : List (String × Datum)} : nil.hold entries ↔ entries = [] := by
  cases entries <;> simp

/-- The entries of a record are named like its fields. -/
theorem names_of_hold {fields : Fields} {entries : List (String × Datum)}
    (held : fields.hold entries) : entries.map Prod.fst = fields.names := by
  match fields with
  | .nil =>
      rw [hold_nil.1 held]
      rfl
  | .cons name _ shape rest =>
      obtain ⟨value, later, rfl, _, laterHeld⟩ := hold_cons.1 held
      rw [List.map_cons, names_of_hold laterHeld]
      rfl

theorem isShortText_of_mem {fields : Fields} (narrow : fields.areNarrow) :
    ∀ name ∈ fields.names, Datum.isShortText name := by
  match fields with
  | .nil => exact fun _ absent => absurd absent List.not_mem_nil
  | .cons name _ shape rest =>
      rw [areNarrow, Bool.and_eq_true, Bool.and_eq_true] at narrow
      exact List.forall_mem_cons.2 ⟨narrow.1.1, isShortText_of_mem narrow.2⟩

/-- Entries that can be looked up are all there. -/
theorem assemble_of_lookup {fields : Fields} {entries found : List (String × Datum)}
    (held : fields.hold entries)
    (present : ∀ entry ∈ entries, found.lookup entry.1 = some entry.2) :
    fields.assemble found = .ok entries := by
  match fields with
  | .nil =>
      rw [hold_nil.1 held]
      rfl
  | .cons name _ shape rest =>
      obtain ⟨value, later, rfl, _, laterHeld⟩ := hold_cons.1 held
      obtain ⟨here, others⟩ := List.forall_mem_cons.1 present
      rw [assemble, here]
      simp only [assemble_of_lookup laterHeld others]
      rfl

end Fields

theorem lookup_eq_none_of_not_mem {found : List (String × Datum)} {key : String}
    (new : key ∉ found.map Prod.fst) : found.lookup key = none := by
  rw [List.lookup_eq_none_iff]
  intro entry member
  rw [bne_iff_ne]
  intro same
  exact new (List.mem_map.2 ⟨entry, member, same.symm⟩)

/-- Where no two keys are alike, every entry is found under its key. -/
theorem lookup_of_mem {entries : List (String × Datum)} (distinct : (entries.map Prod.fst).Nodup)
    {entry : String × Datum} (member : entry ∈ entries) :
    entries.lookup entry.1 = some entry.2 := by
  induction entries with
  | nil => exact absurd member List.not_mem_nil
  | cons first entries inductionHypothesis =>
      obtain ⟨key, value⟩ := first
      rw [List.map_cons, List.nodup_cons] at distinct
      rcases List.mem_cons.1 member with same | later
      · rw [same, List.lookup_cons_self]
      · have different : (entry.1 == key) = false := by
          rw [beq_eq_false_iff_ne]
          intro same
          exact distinct.1 (List.mem_map.2 ⟨entry, later, same⟩)
        rw [List.lookup_cons, different]
        exact inductionHypothesis distinct.2 later

mutual

/-- A closed shape has no place for a floating-point number. -/
theorem Shape.isFloatFree_of_isClosed {shape : Shape} {datum : Datum} (closed : shape.isClosed)
    (held : shape.holds datum) : datum.isFloatFree := by
  match shape with
  | .unit =>
      rw [Shape.holds_unit.1 held]
      rfl
  | .bool =>
      obtain ⟨value, rfl⟩ := Shape.holds_bool.1 held
      rfl
  | .integer type =>
      obtain ⟨value, rfl, _⟩ := Shape.holds_integer.1 held
      rfl
  | .text =>
      obtain ⟨value, rfl⟩ := Shape.holds_text.1 held
      rfl
  | .optional content =>
      rcases Shape.holds_optional.1 held with rfl | inside
      · rfl
      · rw [Shape.isClosed] at closed
        exact Shape.isFloatFree_of_isClosed closed inside
  | .list item =>
      obtain ⟨items, rfl, inside⟩ := Shape.holds_list.1 held
      rw [Shape.isClosed] at closed
      exact (Datum.areFloatFree_iff items).2 fun each member =>
        Shape.isFloatFree_of_isClosed closed (inside each member)
  | .dictionary value =>
      obtain ⟨entries, rfl, _, inside⟩ := Shape.holds_dictionary.1 held
      rw [Shape.isClosed] at closed
      exact (Datum.entriesFloatFree_iff entries).2 fun each member =>
        Shape.isFloatFree_of_isClosed closed (inside each member)
  | .pair first second =>
      obtain ⟨one, two, rfl, inFirst, inSecond⟩ := Shape.holds_pair.1 held
      rw [Shape.isClosed, Bool.and_eq_true] at closed
      have firstFree := Shape.isFloatFree_of_isClosed closed.1 inFirst
      have secondFree := Shape.isFloatFree_of_isClosed closed.2 inSecond
      simp only [Datum.isFloatFree, Datum.areFloatFree, firstFree, secondFree, Bool.and_true]
  | .pairTable =>
      obtain ⟨entries, rfl, _⟩ := Shape.holds_pairTable.1 held
      rfl
  | .record name fields =>
      obtain ⟨entries, rfl, inside⟩ := Shape.holds_record.1 held
      exact (Datum.entriesFloatFree_iff entries).2 fun each member =>
        Fields.isFloatFree_of_areClosed closed inside each member
  | .any => simp [Shape.isClosed] at closed

theorem Fields.isFloatFree_of_areClosed {fields : Fields} {entries : List (String × Datum)}
    (closed : fields.areClosed) (held : fields.hold entries) :
    ∀ entry ∈ entries, entry.2.isFloatFree := by
  match fields with
  | .nil =>
      rw [Fields.hold_nil.1 held]
      exact fun _ member => absurd member List.not_mem_nil
  | .cons name _ shape rest =>
      obtain ⟨value, later, rfl, inShape, inRest⟩ := Fields.hold_cons.1 held
      rw [Fields.areClosed, Bool.and_eq_true] at closed
      exact List.forall_mem_cons.2 ⟨Shape.isFloatFree_of_isClosed closed.1 inShape,
        Fields.isFloatFree_of_areClosed closed.2 inRest⟩

end

mutual

/-- A datum nests no deeper than its shape, if that is closed. -/
theorem Shape.depth_le_of_isClosed {shape : Shape} {datum : Datum} (closed : shape.isClosed)
    (held : shape.holds datum) : datum.depth ≤ shape.depth := by
  match shape with
  | .unit =>
      rw [Shape.holds_unit.1 held]
      exact Nat.le_refl _
  | .bool =>
      obtain ⟨value, rfl⟩ := Shape.holds_bool.1 held
      exact Nat.le_refl _
  | .integer type =>
      obtain ⟨value, rfl, _⟩ := Shape.holds_integer.1 held
      exact Nat.le_refl _
  | .text =>
      obtain ⟨value, rfl⟩ := Shape.holds_text.1 held
      exact Nat.le_refl _
  | .optional content =>
      rcases Shape.holds_optional.1 held with rfl | inside
      · exact Nat.zero_le _
      · rw [Shape.isClosed] at closed
        rw [Shape.depth]
        exact Shape.depth_le_of_isClosed closed inside
  | .list item =>
      obtain ⟨items, rfl, inside⟩ := Shape.holds_list.1 held
      rw [Shape.isClosed] at closed
      exact Nat.succ_le_succ ((Datum.listDepth_le_iff items _).2 fun each member =>
        Shape.depth_le_of_isClosed closed (inside each member))
  | .dictionary value =>
      obtain ⟨entries, rfl, _, inside⟩ := Shape.holds_dictionary.1 held
      rw [Shape.isClosed] at closed
      exact Nat.succ_le_succ ((Datum.entriesDepth_le_iff entries _).2 fun each member =>
        Shape.depth_le_of_isClosed closed (inside each member))
  | .pair first second =>
      obtain ⟨one, two, rfl, inFirst, inSecond⟩ := Shape.holds_pair.1 held
      rw [Shape.isClosed, Bool.and_eq_true] at closed
      have firstDepth := Shape.depth_le_of_isClosed closed.1 inFirst
      have secondDepth := Shape.depth_le_of_isClosed closed.2 inSecond
      simp only [Datum.depth, Datum.listDepth, Shape.depth]
      omega
  | .pairTable =>
      obtain ⟨entries, rfl, _⟩ := Shape.holds_pairTable.1 held
      exact Nat.le_refl _
  | .record name fields =>
      obtain ⟨entries, rfl, inside⟩ := Shape.holds_record.1 held
      exact Nat.succ_le_succ ((Datum.entriesDepth_le_iff entries _).2 fun each member =>
        Fields.depth_le_of_areClosed closed inside each member)
  | .any => simp [Shape.isClosed] at closed

theorem Fields.depth_le_of_areClosed {fields : Fields} {entries : List (String × Datum)}
    (closed : fields.areClosed) (held : fields.hold entries) :
    ∀ entry ∈ entries, entry.2.depth ≤ fields.depth := by
  match fields with
  | .nil =>
      rw [Fields.hold_nil.1 held]
      exact fun _ member => absurd member List.not_mem_nil
  | .cons name _ shape rest =>
      obtain ⟨value, later, rfl, inShape, inRest⟩ := Fields.hold_cons.1 held
      rw [Fields.areClosed, Bool.and_eq_true] at closed
      have here := Shape.depth_le_of_isClosed closed.1 inShape
      have others := Fields.depth_le_of_areClosed closed.2 inRest
      rw [Fields.depth]
      refine List.forall_mem_cons.2 ⟨Nat.le_trans here (Nat.le_max_left _ _), ?_⟩
      intro entry member
      exact Nat.le_trans (others entry member) (Nat.le_max_right _ _)

end

mutual

/-- Every integer of a datum of a shape fits into 64 bits. -/
theorem Shape.hasPlainIntegers_of_holds {shape : Shape} {datum : Datum}
    (held : shape.holds datum) : datum.hasPlainIntegers := by
  match shape with
  | .unit =>
      rw [Shape.holds_unit.1 held]
      rfl
  | .bool =>
      obtain ⟨value, rfl⟩ := Shape.holds_bool.1 held
      rfl
  | .integer type =>
      obtain ⟨value, rfl, inRange⟩ := Shape.holds_integer.1 held
      exact IntegerType.isPlainInteger_of_holds inRange
  | .text =>
      obtain ⟨value, rfl⟩ := Shape.holds_text.1 held
      rfl
  | .optional content =>
      rcases Shape.holds_optional.1 held with rfl | inside
      · rfl
      · exact Shape.hasPlainIntegers_of_holds inside
  | .list item =>
      obtain ⟨items, rfl, inside⟩ := Shape.holds_list.1 held
      exact (Datum.havePlainIntegers_iff items).2 fun each member =>
        Shape.hasPlainIntegers_of_holds (inside each member)
  | .dictionary value =>
      obtain ⟨entries, rfl, _, inside⟩ := Shape.holds_dictionary.1 held
      exact (Datum.entriesPlainIntegers_iff entries).2 fun each member =>
        Shape.hasPlainIntegers_of_holds (inside each member)
  | .pair first second =>
      obtain ⟨one, two, rfl, inFirst, inSecond⟩ := Shape.holds_pair.1 held
      have firstPlain := Shape.hasPlainIntegers_of_holds inFirst
      have secondPlain := Shape.hasPlainIntegers_of_holds inSecond
      simp only [Datum.hasPlainIntegers, Datum.havePlainIntegers, firstPlain, secondPlain,
        Bool.and_true]
  | .pairTable =>
      obtain ⟨entries, rfl, _, inside⟩ := Shape.holds_pairTable.1 held
      rw [Datum.hasPlainIntegers, List.all_eq_true]
      intro entry member
      obtain ⟨first, second, value⟩ := inside entry member
      rw [IntegerType.isPlainInteger_of_holds first, IntegerType.isPlainInteger_of_holds second,
        IntegerType.isPlainInteger_of_holds value]
      rfl
  | .record name fields =>
      obtain ⟨entries, rfl, inside⟩ := Shape.holds_record.1 held
      exact (Datum.entriesPlainIntegers_iff entries).2 fun each member =>
        Fields.hasPlainIntegers_of_hold inside each member
  | .any => exact Datum.hasPlainIntegers_of_isPlain (Shape.holds_any.1 held)

theorem Fields.hasPlainIntegers_of_hold {fields : Fields} {entries : List (String × Datum)}
    (held : fields.hold entries) : ∀ entry ∈ entries, entry.2.hasPlainIntegers := by
  match fields with
  | .nil =>
      rw [Fields.hold_nil.1 held]
      exact fun _ member => absurd member List.not_mem_nil
  | .cons name _ shape rest =>
      obtain ⟨value, later, rfl, inShape, inRest⟩ := Fields.hold_cons.1 held
      exact List.forall_mem_cons.2
        ⟨Shape.hasPlainIntegers_of_holds inShape, Fields.hasPlainIntegers_of_hold inRest⟩

end

/-- A complete record whose fields have different names is assembled from itself. -/
theorem Fields.assemble_of_hold {fields : Fields} {entries : List (String × Datum)}
    (held : fields.hold entries) (distinct : fields.names.Nodup) :
    fields.assemble entries = .ok entries := by
  rw [← names_of_hold held] at distinct
  exact assemble_of_lookup held fun entry member => lookup_of_mem distinct member

end Switchboard
