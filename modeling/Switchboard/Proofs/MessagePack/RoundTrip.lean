import Switchboard.Proofs.MessagePack.Container

/-
This file shows what a reader of a MessagePack payload makes of a datum that was written, whatever
shape it was written for. A datum of the expected shape is read back, whatever follows it.
-/

namespace Switchboard.MessagePack

section Any

theorem readAny_of_readHead (depth : Nat) {bytes rest : Bytes} {head : Head} {datum : Datum}
    (read : readHead bytes = .ok (head, rest)) (scalar : head.scalar? = some datum) :
    readAny depth bytes = .ok (datum, rest) := by
  cases head with
  | null | bool _ | unsigned _ | signed _ | float _ =>
      rw [Head.scalar?, Option.some.injEq] at scalar
      rw [← scalar]
      cases depth <;> rw [readAny, read] <;> rfl
  | text _ | bytes _ | list _ | map _ | extension _ => simp [Head.scalar?] at scalar

theorem readAny_writeText (depth : Nat) {text : String} (short : Datum.isShortText text)
    (rest : Bytes) : readAny depth (writeText text ++ rest) = .ok (.text text, rest) := by
  cases depth with
  | zero =>
      rw [readAny, readHead_writeText short]
      simp only [ok_bind, readText_encode, pure_eq_ok]
  | succ depth =>
      rw [readAny, readHead_writeText short]
      simp only [ok_bind, readText_encode, pure_eq_ok]

/-- A reader without expectations settles what was written. -/
theorem readAny_write (depth : Nat) {datum : Datum} (readable : Readable depth datum) :
    Yields (readAny depth) datum datum.settle := by
  intro rest
  have head := readHead_write readable.toIsWritable rest
  match datum with
  | .null | .bool _ | .float _ => exact readAny_of_readHead depth head rfl
  | .int value => exact readAny_of_readHead depth head (scalar?_integerHead value)
  | .text value => exact readAny_writeText depth readable.short rest
  | .list items =>
      obtain ⟨inner, rfl, inside⟩ := readable.list
      have yields (item : Datum) (member : item ∈ items) : Yields (readAny inner) item item.settle :=
        readAny_write inner (inside item member)
      rw [readAny, head, Datum.settle, Datum.settleItems_eq_mapM]
      exact (readItems_writeItems yields rest).map
  | .object entries =>
      obtain ⟨inner, rfl, inside⟩ := readable.object
      have yields (entry : String × Datum) (member : entry ∈ entries) :
          Yields (readAny inner) entry.2 entry.2.settle :=
        readAny_write inner (inside entry member).2
      have keys (entry : String × Datum) (member : entry ∈ entries) := (inside entry member).1
      rw [readAny, head, Datum.settle, Datum.settleEntries_eq_mapM]
      exact (readAnyEntries_writeEntries inner keys yields rest).map
  | .pairs [] =>
      obtain ⟨inner, rfl, _⟩ := readable.pairs
      rw [readAny, head]
      exact rfl
  | .pairs (entry :: entries) =>
      obtain ⟨inner, rfl, _⟩ := readable.pairs
      obtain ⟨_, ⟨fault, stopped⟩, _⟩ := exists_fault_of_writePairEntry (inner + 1) entry
        (entries.flatMap writePairEntry ++ rest)
      rw [readAny, head, content, List.flatMap_cons, List.append_assoc]
      simp only [Head.ofDatum, List.length_cons, readAnyEntries, stopped, ok_bind, error_bind]
      exact ⟨fault, rfl⟩

end Any

section Kinds

/-- Heads of one kind start data of one kind. -/
inductive Kind where
  | null
  | bool
  | integer
  | float
  | text
  | bytes
  | list
  | map
  | extension

def Head.kind : Head → Kind
  | .null => .null
  | .bool _ => .bool
  | .unsigned _ => .integer
  | .signed _ => .integer
  | .float _ => .float
  | .text _ => .text
  | .bytes _ => .bytes
  | .list _ => .list
  | .map _ => .map
  | .extension _ => .extension

def Kind.ofDatum : Datum → Kind
  | .null => .null
  | .bool _ => .bool
  | .int _ => .integer
  | .float _ => .float
  | .text _ => .text
  | .list _ => .list
  | .object _ => .map
  | .pairs _ => .map

theorem kind_ofDatum (datum : Datum) : (Head.ofDatum datum).kind = Kind.ofDatum datum := by
  cases datum with
  | int value =>
      rw [Head.ofDatum, integerHead]
      split <;> rfl
  | null | bool _ | float _ | text _ | list _ | object _ | pairs _ => rfl

/-- The readers of most shapes look further only behind heads of some kinds. -/
def takes : Shape → Kind → Bool
  | .unit, .null => true
  | .bool, .bool => true
  | .integer _, .integer => true
  | .text, .text => true
  | .text, .bytes => true
  | .optional _, _ => true
  | .list _, .list => true
  | .list _, .bytes => true
  | .dictionary _, .map => true
  | .pair _ _, .list => true
  | .pair _ _, .bytes => true
  | .pairTable, .map => true
  | .record _ _, .list => true
  | .record _ _, .bytes => true
  | .record _ _, .map => true
  | .any, _ => true
  | _, _ => false

theorem exists_fault_of_not_takes {shape : Shape} {head : Head} (other : takes shape head.kind = false)
    (depth : Nat) {bytes rest : Bytes} (read : readHead bytes = .ok (head, rest)) :
    ∃ fault, readShape shape depth bytes = .error fault := by
  match shape with
  | .unit =>
      rw [readShape, read]
      cases head with
      | null => exact Bool.noConfusion other
      | bool _ | unsigned _ | signed _ | float _ | text _ | bytes _ | list _ | map _ | extension _ =>
          simp only [ok_bind]
          exact exists_fault_of_refuse ..
  | .bool =>
      rw [readShape]
      obtain same | ⟨fault, stopped⟩ := readSimpleHead_cases bytes
      · rw [same, read]
        cases head with
        | bool _ => exact Bool.noConfusion other
        | null | unsigned _ | signed _ | float _ | text _ | bytes _ | list _ | map _ | extension _ =>
            simp only [ok_bind]
            exact exists_fault_of_refuse ..
      · rw [stopped]
        exact ⟨fault, rfl⟩
  | .integer type =>
      rw [readShape, readInteger]
      refine exists_error_bind ?_ _
      obtain same | ⟨fault, stopped⟩ := readSimpleHead_cases bytes
      · rw [same, read]
        cases head with
        | unsigned _ | signed _ => exact Bool.noConfusion other
        | null | bool _ | float _ | text _ | bytes _ | list _ | map _ | extension _ =>
            simp only [ok_bind]
            exact exists_fault_of_refuse ..
      · rw [stopped]
        exact ⟨fault, rfl⟩
  | .text =>
      rw [readShape, readTextValue, read]
      refine exists_error_bind ?_ _
      cases head with
      | text _ | bytes _ => exact Bool.noConfusion other
      | null | bool _ | unsigned _ | signed _ | float _ | list _ | map _ | extension _ =>
          simp only [ok_bind]
          exact exists_fault_of_refuse ..
  | .list item =>
      rw [readShape, read]
      cases head with
      | list _ | bytes _ => exact Bool.noConfusion other
      | null | bool _ | unsigned _ | signed _ | float _ | text _ | map _ | extension _ =>
          simp only [ok_bind]
          exact exists_fault_of_refuse ..
  | .dictionary value =>
      rw [readShape, read]
      cases head with
      | map _ => exact Bool.noConfusion other
      | null | bool _ | unsigned _ | signed _ | float _ | text _ | bytes _ | list _ | extension _ =>
          simp only [ok_bind]
          exact exists_fault_of_refuse ..
  | .pair first second =>
      rw [readShape, read]
      cases head with
      | list _ | bytes _ => exact Bool.noConfusion other
      | null | bool _ | unsigned _ | signed _ | float _ | text _ | map _ | extension _ =>
          simp only [ok_bind]
          exact exists_fault_of_refuse ..
  | .pairTable =>
      rw [readShape, read]
      cases head with
      | map _ => exact Bool.noConfusion other
      | null | bool _ | unsigned _ | signed _ | float _ | text _ | bytes _ | list _ | extension _ =>
          simp only [ok_bind]
          exact exists_fault_of_refuse ..
  | .record name fields =>
      rw [readShape, read]
      cases head with
      | list _ | bytes _ | map _ => exact Bool.noConfusion other
      | null | bool _ | unsigned _ | signed _ | float _ | text _ | extension _ =>
          simp only [ok_bind]
          exact exists_fault_of_refuse ..
  | .optional _ | .any => exact Bool.noConfusion other

end Kinds

mutual

/-- A reader follows the shape that it expects, whatever shape the datum was written for. -/
theorem readShape_write (shape : Shape) (depth : Nat) {datum : Datum}
    (readable : Readable depth datum) :
    Yields (readShape shape depth) datum (shape.interpret datum) := by
  intro rest
  have head := readHead_write readable.toIsWritable rest
  have refused (other : takes shape (Kind.ofDatum datum) = false) :
      ∃ fault, readShape shape depth (write datum ++ rest) = .error fault := by
    rw [← kind_ofDatum] at other
    exact exists_fault_of_not_takes other depth head
  match shape with
  | .unit =>
      cases datum with
      | null => exact rfl
      | bool _ | int _ | float _ | text _ | list _ | object _ | pairs _ => exact refused rfl
  | .bool =>
      cases datum with
      | bool value => cases value <;> exact rfl
      | null | int _ | float _ | text _ | list _ | object _ | pairs _ => exact refused rfl
  | .integer type =>
      cases datum with
      | int value =>
          rw [readShape, write, Shape.interpret, Refusal.ofMismatch_map]
          exact (readInteger_writeInt rest type readable.plain).map
      | null | bool _ | float _ | text _ | list _ | object _ | pairs _ => exact refused rfl
  | .text =>
      cases datum with
      | text value =>
          rw [readShape, write, readTextValue_writeText rest readable.short, Shape.interpret]
          exact rfl
      | null | bool _ | int _ | float _ | list _ | object _ | pairs _ => exact refused rfl
  | .optional content =>
      by_cases absent : datum = .null
      · subst absent
        rw [readShape, Shape.interpret]
        exact rfl
      · rw [readShape, startsWithNull_write readable.toIsWritable absent,
          if_neg Bool.false_ne_true, Shape.interpret_optional absent]
        exact readShape_write content depth readable rest
  | .list item =>
      cases datum with
      | list items =>
          obtain ⟨inner, rfl, inside⟩ := readable.list
          have yields (each : Datum) (member : each ∈ items) :
              Yields (readShape item inner) each (item.interpret each) :=
            readShape_write item inner (inside each member)
          rw [readShape, head, Shape.interpret]
          exact (readItems_writeItems yields rest).map
      | null | bool _ | int _ | float _ | text _ | object _ | pairs _ => exact refused rfl
  | .dictionary value =>
      cases datum with
      | object entries =>
          obtain ⟨inner, rfl, inside⟩ := readable.object
          have yields (entry : String × Datum) (member : entry ∈ entries) :
              Yields (readShape value inner) entry.2 (value.interpret entry.2) :=
            readShape_write value inner (inside entry member).2
          have keys (entry : String × Datum) (member : entry ∈ entries) := (inside entry member).1
          rw [readShape, head, Shape.interpret]
          exact (readEntries_writeEntries inner Shape.text.expected keys yields rest).map
      | pairs entries =>
          obtain ⟨inner, rfl, _⟩ := readable.pairs
          rw [readShape, head]
          cases entries with
          | nil => exact rfl
          | cons entry entries =>
              obtain ⟨stops, _⟩ := exists_fault_of_writePairEntry (inner + 1) entry
                (entries.flatMap writePairEntry ++ rest)
              obtain ⟨fault, stopped⟩ := stops Shape.text.expected
              rw [content, List.flatMap_cons, List.append_assoc]
              simp only [Head.ofDatum, List.length_cons, ok_bind, enter, readEntries, stopped,
                error_bind]
              exact ⟨fault, rfl⟩
      | null | bool _ | int _ | float _ | text _ | list _ => exact refused rfl
  | .pair first second =>
      cases datum with
      | list items =>
          obtain ⟨inner, rfl, inside⟩ := readable.list
          have renders : List.Forall₂ (Renders (Written inner))
              (pairFields first second (readShape first inner) (readShape second inner))
              [⟨"first", false, first.interpret⟩, ⟨"second", false, second.interpret⟩] :=
            .cons (renders_readShape (readShape_write first inner))
              (.cons (renders_readShape (readShape_write second inner)) .nil)
          rw [readShape, head, Shape.interpret]
          exact (readFieldItems_writeItems renders (Shape.pair first second).expected inside
            rest).map
      | null | bool _ | int _ | float _ | text _ | object _ | pairs _ => exact refused rfl
  | .pairTable =>
      cases datum with
      | object entries =>
          obtain ⟨inner, rfl, inside⟩ := readable.object
          rw [readShape, head]
          cases entries with
          | nil => exact rfl
          | cons entry entries =>
              obtain ⟨short, _⟩ := inside entry List.mem_cons_self
              obtain ⟨fault, stopped⟩ := exists_fault_of_readPairKey inner short
                (Shape.pair .unit .unit).expected (write entry.2 ++ writeEntries entries ++ rest)
              rw [content, writeEntries, List.append_assoc, List.append_assoc,
                ← List.append_assoc (write entry.2)]
              simp only [Head.ofDatum, List.length_cons, ok_bind, enter, readEntries, stopped,
                error_bind]
              exact ⟨fault, rfl⟩
      | pairs entries =>
          obtain ⟨inner, rfl, inside⟩ := readable.pairs
          rw [readShape, head, Shape.interpret]
          exact (readEntries_flatMap (fun entry member =>
            readEntry_writePairEntry inner (Shape.pair .unit .unit).expected
              (inside entry member)) rest).map
      | null | bool _ | int _ | float _ | text _ | list _ => exact refused rfl
  | .record name fields =>
      cases datum with
      | list items =>
          obtain ⟨inner, rfl, inside⟩ := readable.list
          rw [readShape, head, Shape.interpret]
          exact (readFieldItems_writeItems (readFields_render fields inner)
            (Shape.record name fields).expectedLength inside rest).map
      | object entries =>
          obtain ⟨inner, rfl, inside⟩ := readable.object
          rw [readShape, head, Shape.interpret]
          refine (readNamed_writeEntries (readFields_render fields inner) inside [] rest).bind
            fun found _ => ?_
          exact follows_liftMismatch (fields.assemble found) Datum.object rest
      | pairs entries =>
          obtain ⟨inner, rfl, _⟩ := readable.pairs
          rw [readShape, head]
          cases entries with
          | nil => exact follows_liftMismatch (fields.assemble []) Datum.object rest
          | cons entry entries =>
              obtain ⟨_, _, ⟨fault, stopped⟩⟩ := exists_fault_of_writePairEntry (inner + 1) entry
                (entries.flatMap writePairEntry ++ rest)
              rw [content, List.flatMap_cons, List.append_assoc]
              simp only [Head.ofDatum, List.length_cons, ok_bind, enter, readNamed, stopped,
                error_bind]
              exact ⟨fault, rfl⟩
      | null | bool _ | int _ | float _ | text _ => exact refused rfl
  | .any =>
      rw [readShape, Shape.interpret]
      exact readAny_write depth readable rest

/-- Every field of a record is read like its view. -/
theorem readFields_render (fields : Fields) (depth : Nat) :
    List.Forall₂ (Renders (Written depth)) (readFields fields depth) fields.views := by
  match fields with
  | .nil => exact .nil
  | .cons name defaulted shape rest =>
      exact .cons (renders_readShape (readShape_write shape depth)) (readFields_render rest depth)

end

/-- A whole payload is read back, and what follows it is ignored. -/
theorem readPayload_write {shape : Shape} {datum : Datum} (regular : shape.isRegular)
    (held : shape.holds datum) (short : datum.isShort) (shallow : datum.depth ≤ maximalDepth)
    (rest : Bytes) : readPayload shape (write datum ++ rest) = .ok datum := by
  have readable : Readable maximalDepth datum :=
    ⟨⟨Shape.hasPlainIntegers_of_holds held, short⟩, shallow⟩
  have follows := readShape_write shape maximalDepth readable rest
  rw [Shape.interpret_of_holds regular held] at follows
  rw [readPayload, follows]
  rfl

end Switchboard.MessagePack
