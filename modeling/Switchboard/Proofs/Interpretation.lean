import Switchboard.Proofs.Ascending
import Switchboard.Proofs.Except
import Switchboard.Proofs.Shape

/-
This file says what a reader that expects a shape makes of a datum, whatever the payload format.
The readers of both formats are compared with it.
-/

namespace Switchboard

/-- Every format refuses the same data, but the formats word only some of the causes alike. -/
inductive Refusal where
  | unspecified
  | mismatch (cause : Mismatch)
  deriving DecidableEq, Repr

def Refusal.ofMismatch {α : Type} : Except Mismatch α → Except Refusal α
  | .ok value => .ok value
  | .error cause => .error (.mismatch cause)

theorem Refusal.ofMismatch_map {α β : Type} (accepted : Except Mismatch α) (change : α → β) :
    ofMismatch (accepted.map change) =
      ofMismatch accepted >>= fun value => .ok (change value) := by
  cases accepted <;> rfl

section Following

variable {φ α β : Type}

/--
A reader follows an outcome when it gets the same value and leaves the given rest, or when it stops
for the same cause, so far as the outcome has one.
-/
def Follows (gives : Mismatch → φ → Prop) (result : Except φ (α × Bytes)) (rest : Bytes) :
    Except Refusal α → Prop
  | .ok value => result = .ok (value, rest)
  | .error .unspecified => ∃ fault, result = .error fault
  | .error (.mismatch cause) => ∃ fault, gives cause fault ∧ result = .error fault

namespace Follows

variable {gives : Mismatch → φ → Prop} {result : Except φ (α × Bytes)} {between rest : Bytes}

/-- A chain of readers follows a chain of outcomes when each step follows its own. -/
theorem bind {outcome : Except Refusal α} {next : α × Bytes → Except φ (β × Bytes)}
    {later : α → Except Refusal β} (first : Follows gives result between outcome)
    (second : ∀ value, outcome = .ok value → Follows gives (next (value, between)) rest (later value)) :
    Follows gives (result >>= next) rest (outcome >>= later) := by
  match outcome with
  | .ok value =>
      have ran : result = .ok (value, between) := first
      rw [ran]
      exact second value rfl
  | .error .unspecified =>
      obtain ⟨fault, stopped⟩ := first
      exact ⟨fault, by rw [stopped]; rfl⟩
  | .error (.mismatch cause) =>
      obtain ⟨fault, given, stopped⟩ := first
      exact ⟨fault, given, by rw [stopped]; rfl⟩

/-- A value that is only changed afterwards leaves the same rest. -/
theorem map {outcome : Except Refusal α} {change : α → β} (first : Follows gives result rest outcome) :
    Follows gives (result >>= fun read => .ok (change read.1, read.2)) rest
      (outcome >>= fun value => .ok (change value)) :=
  first.bind fun _ _ => rfl

/-- A reader that returns a value leaves what it has to. -/
theorem left_eq {outcome : Except Refusal α} {value : α}
    (follows : Follows gives (.ok (value, between)) rest outcome) : between = rest := by
  match outcome with
  | .ok _ =>
      cases follows
      rfl
  | .error .unspecified =>
      obtain ⟨_, stopped⟩ := follows
      cases stopped
  | .error (.mismatch _) =>
      obtain ⟨_, _, stopped⟩ := follows
      cases stopped

end Follows

end Following

/-- A part of a payload is known by its bytes and by what they mean. -/
structure Part where
  bytes : Bytes
  meaning : Datum

/-- The meaning of a part stands under the same key. -/
def Part.entry (entry : String × Part) : String × Datum := (entry.1, entry.2.meaning)

/-- In a list the parts stand without their keys. -/
def Part.items (entries : List (String × Part)) : List Bytes :=
  (entries.map Prod.snd).map Part.bytes

theorem Part.length_items (entries : List (String × Part)) :
    (Part.items entries).length = entries.length := by
  rw [items, List.length_map, List.length_map]

/-- A part that stands at the place of a key is an entry under that key. -/
theorem Part.mem_of_mem_zip {entries : List (String × Part)} {parts : List Part}
    (leads : parts <+: entries.map Prod.snd) {pair : String × Part}
    (member : pair ∈ (entries.map Prod.fst).zip parts) : pair ∈ entries := by
  induction entries generalizing parts with
  | nil => exact absurd member List.not_mem_nil
  | cons entry entries inductionHypothesis =>
      cases parts with
      | nil => exact absurd member List.not_mem_nil
      | cons part parts =>
          rw [List.map_cons, List.cons_prefix_cons] at leads
          obtain ⟨rfl, more⟩ := leads
          rw [List.map_cons, List.zip_cons_cons] at member
          obtain here | later := List.mem_cons.1 member
          · exact List.mem_cons.2 (.inl here)
          · exact List.mem_cons_of_mem _ (inductionHypothesis more later)

/-- A field says by itself what it makes of a datum. -/
structure FieldView where
  name : String
  defaulted : Bool
  interpret : Datum → Except Refusal Datum

namespace FieldView

/-- The fields take the items of a list one by one, and surplus items stay. -/
def align (expected : String) :
    Nat → List FieldView → List Datum → Except Refusal (List (String × Datum))
  | _, [], _ => .ok []
  | index, field :: fields, item :: items => do
    let value ← field.interpret item
    let more ← align expected (index + 1) fields items
    return (field.name, value) :: more
  | index, field :: fields, [] =>
    if field.defaulted then do
      let more ← align expected (index + 1) fields []
      return (field.name, .null) :: more
    else .error (.mismatch (.invalidLength index expected))

/-- A list that is longer than its fields is refused. -/
def alignWhole (expected : String) (fields : List FieldView) (items : List Datum) :
    Except Refusal (List (String × Datum)) := do
  let entries ← align expected 0 fields items
  if fields.length < items.length then .error .unspecified else return entries

/-- Entries that name a field are collected, each field at most once; all others are left out. -/
def collect (fields : List FieldView) (found : List (String × Datum)) :
    List (String × Datum) → Except Refusal (List (String × Datum))
  | [] => .ok found
  | (key, datum) :: entries =>
    match fields.find? fun field => field.name = key with
    | none => collect fields found entries
    | some field =>
      if (found.lookup key).isSome then .error (.mismatch (.duplicateField key))
      else do
        let value ← field.interpret datum
        collect fields (found ++ [(key, value)]) entries

end FieldView

mutual

/--
Without expectations every datum is taken as it is, but the entries of an object are put in order.
No object has pairs as keys.
-/
def Datum.settle : Datum → Except Refusal Datum
  | .list items => do
    let settled ← settleItems items
    return .list settled
  | .object entries => do
    let settled ← settleEntries entries
    return .object (Ascending.ofList settled)
  | .pairs [] => .ok (.object [])
  | .pairs (_ :: _) => .error .unspecified
  | .float value => .ok (if value.isFinite then .float value else .null)
  | datum => .ok datum

def Datum.settleItems : List Datum → Except Refusal (List Datum)
  | [] => .ok []
  | item :: items => do
    let value ← item.settle
    let more ← settleItems items
    return value :: more

def Datum.settleEntries : List (String × Datum) → Except Refusal (List (String × Datum))
  | [] => .ok []
  | (key, datum) :: entries => do
    let value ← datum.settle
    let more ← settleEntries entries
    return (key, value) :: more

end

/-- The value of an entry is interpreted and its key stays. -/
def interpretEntry (interpret : Datum → Except Refusal Datum) (entry : String × Datum) :
    Except Refusal (String × Datum) := do
  let value ← interpret entry.2
  return (entry.1, value)

namespace Datum

theorem settleItems_eq_mapM (items : List Datum) : settleItems items = items.mapM settle := by
  induction items with
  | nil => rfl
  | cons item items inductionHypothesis =>
      rw [settleItems, inductionHypothesis, List.mapM_cons]

theorem settleEntries_eq_mapM (entries : List (String × Datum)) :
    settleEntries entries = entries.mapM (interpretEntry settle) := by
  induction entries with
  | nil => rfl
  | cons entry entries inductionHypothesis =>
      rw [settleEntries, inductionHypothesis, List.mapM_cons, interpretEntry, bind_assoc]
      rfl

end Datum

/-- Two integers of 32 bits make a key of a pair table, and a third one is its value. -/
def interpretPairEntry (entry : (Int × Int) × Int) : Except Refusal ((Int × Int) × Int) := do
  let first ← Refusal.ofMismatch (IntegerType.i32.accept entry.1.1)
  let second ← Refusal.ofMismatch (IntegerType.i32.accept entry.1.2)
  let value ← Refusal.ofMismatch (IntegerType.i32.accept entry.2)
  return ((first, second), value)

mutual

/-- A shape makes the same of a datum in every format, or every format refuses the datum. -/
def Shape.interpret : Shape → Datum → Except Refusal Datum
  | .unit, datum =>
    match datum with
    | .null => .ok .null
    | _ => .error .unspecified
  | .bool, datum =>
    match datum with
    | .bool value => .ok (.bool value)
    | _ => .error .unspecified
  | .integer type, datum =>
    match datum with
    | .int value => Refusal.ofMismatch ((type.accept value).map .int)
    | _ => .error .unspecified
  | .text, datum =>
    match datum with
    | .text value => .ok (.text value)
    | _ => .error .unspecified
  | .optional content, datum =>
    match datum with
    | .null => .ok .null
    | datum => content.interpret datum
  | .list item, datum =>
    match datum with
    | .list items => do
      let values ← items.mapM item.interpret
      return .list values
    | _ => .error .unspecified
  | .dictionary value, datum =>
    match datum with
    | .object entries => do
      let values ← entries.mapM (interpretEntry value.interpret)
      return .object (Ascending.ofList values)
    | .pairs [] => .ok (.object [])
    | _ => .error .unspecified
  | .pair first second, datum =>
    match datum with
    | .list items => do
      let found ← FieldView.alignWhole (Shape.pair first second).expected
        [⟨"first", false, first.interpret⟩, ⟨"second", false, second.interpret⟩] items
      return .list (found.map Prod.snd)
    | _ => .error .unspecified
  | .pairTable, datum =>
    match datum with
    | .pairs entries => do
      let values ← entries.mapM interpretPairEntry
      return .pairs (Ascending.ofList values)
    | .object [] => .ok (.pairs [])
    | _ => .error .unspecified
  | .record name fields, datum =>
    match datum with
    | .list items => do
      let entries ← FieldView.alignWhole (Shape.record name fields).expectedLength fields.views items
      return .object entries
    | .object entries => do
      let found ← FieldView.collect fields.views [] entries
      let entries ← Refusal.ofMismatch (fields.assemble found)
      return .object entries
    | .pairs [] => do
      let entries ← Refusal.ofMismatch (fields.assemble [])
      return .object entries
    | _ => .error .unspecified
  | .any, datum => datum.settle

def Fields.views : Fields → List FieldView
  | .nil => []
  | .cons name defaulted shape rest => ⟨name, defaulted, shape.interpret⟩ :: rest.views

end

/-- Where a value is present, it is interpreted as if it had to be. -/
theorem Shape.interpret_optional {content : Shape} {datum : Datum} (present : datum ≠ .null) :
    (Shape.optional content).interpret datum = content.interpret datum := by
  rw [Shape.interpret.eq_def]
  cases datum with
  | null => exact absurd rfl present
  | bool _ | int _ | float _ | text _ | list _ | object _ | pairs _ => rfl

namespace FieldView

variable {fields : List FieldView}

/-- An entry is named when one of the fields has its name. -/
def isNamed (fields : List FieldView) (entry : String × Datum) : Bool :=
  (fields.find? fun field => field.name = entry.1).isSome

theorem collect_append (found before after : List (String × Datum)) :
    collect fields found (before ++ after) =
      collect fields found before >>= fun found => collect fields found after := by
  induction before generalizing found with
  | nil => rfl
  | cons entry before inductionHypothesis =>
      obtain ⟨key, datum⟩ := entry
      rw [List.cons_append, collect, collect]
      cases fields.find? fun field => field.name = key with
      | none => exact inductionHypothesis found
      | some field =>
          simp only
          split
          · rfl
          · rw [bind_assoc]
            exact bind_congr fun value => inductionHypothesis _

/-- Named entries that are taken as they are come back in their order, if no two are alike. -/
theorem collect_of_keeps {found entries : List (String × Datum)}
    (keeps : ∀ entry ∈ entries, ∀ field, (fields.find? fun field => field.name = entry.1) = some field →
      field.interpret entry.2 = .ok entry.2)
    (distinct : ((found ++ entries.filter (isNamed fields)).map Prod.fst).Nodup) :
    collect fields found entries = .ok (found ++ entries.filter (isNamed fields)) := by
  induction entries generalizing found with
  | nil => rw [List.filter_nil, List.append_nil, collect]
  | cons entry entries inductionHypothesis =>
      obtain ⟨key, datum⟩ := entry
      obtain ⟨headKeeps, tailKeeps⟩ := List.forall_mem_cons.1 keeps
      cases named : fields.find? fun field => field.name = key with
      | none =>
          have left : isNamed fields (key, datum) = false := by rw [isNamed, named]; rfl
          rw [List.filter_cons, left, if_neg Bool.false_ne_true] at distinct ⊢
          rw [collect, named]
          exact inductionHypothesis tailKeeps distinct
      | some field =>
          have taken : isNamed fields (key, datum) = true := by rw [isNamed, named]; rfl
          rw [List.filter_cons, taken, if_pos rfl] at distinct ⊢
          have new : found.lookup key = none := by
            apply lookup_eq_none_of_not_mem
            intro old
            rw [List.map_append, List.nodup_append] at distinct
            exact distinct.2.2 key old key List.mem_cons_self rfl
          rw [List.append_cons] at distinct ⊢
          rw [collect, named]
          simp only [new, Option.isSome_none, Bool.false_eq_true, if_false, headKeeps field named,
            ok_bind]
          exact inductionHypothesis tailKeeps distinct

/-- A field that was found already is refused by its name, whatever the entry holds. -/
theorem collect_of_repeat {found : List (String × Datum)} {key : String} (datum : Datum)
    (later : List (String × Datum)) (named : isNamed fields (key, datum))
    (old : key ∈ found.map Prod.fst) :
    collect fields found ((key, datum) :: later) = .error (.mismatch (.duplicateField key)) := by
  obtain ⟨field, same⟩ := Option.isSome_iff_exists.1 named
  obtain ⟨entry, member, isKey⟩ := List.mem_map.1 old
  have present : (found.lookup key).isSome := by
    rw [List.lookup_isSome_iff]
    exact ⟨entry, member, beq_iff_eq.2 isKey.symm⟩
  rw [collect, same]
  simp only [present, if_true]

end FieldView

namespace Fields

/-- The shape of a field is found by its name. -/
def find? (key : String) : Fields → Option Shape
  | .nil => none
  | .cons name _ shape rest => if name = key then some shape else rest.find? key

/-- A field without a shape of its own name has no view of that name either. -/
theorem views_find?_none {fields : Fields} {key : String} (absent : fields.find? key = none) :
    (fields.views.find? fun field => field.name = key) = none := by
  match fields with
  | .nil => rfl
  | .cons name defaulted shape rest =>
      rw [find?] at absent
      by_cases same : name = key
      · rw [if_pos same] at absent
        cases absent
      · rw [if_neg same] at absent
        rw [views, List.find?_cons, decide_eq_false same]
        exact views_find?_none absent

theorem views_find?_some {fields : Fields} {key : String} {shape : Shape}
    (present : fields.find? key = some shape) :
    ∃ view, (fields.views.find? fun field => field.name = key) = some view ∧
      view.interpret = shape.interpret := by
  match fields with
  | .nil => cases present
  | .cons name defaulted first rest =>
      rw [find?] at present
      by_cases same : name = key
      · rw [if_pos same, Option.some.injEq] at present
        rw [views, List.find?_cons, decide_eq_true same]
        exact ⟨_, rfl, congrArg Shape.interpret present⟩
      · rw [if_neg same] at present
        rw [views, List.find?_cons, decide_eq_false same]
        exact views_find?_some present

end Fields

namespace Datum

mutual

/-- A plain datum is taken as it is. -/
theorem settle_of_isPlain {datum : Datum} (plain : datum.isPlain) : datum.settle = .ok datum := by
  match datum with
  | .null | .bool _ | .int _ | .text _ => rfl
  | .float value =>
      rw [isPlain] at plain
      rw [settle, if_pos plain]
  | .list items =>
      rw [settle, settleItems_of_isPlain ((arePlain_iff items).1 plain)]
      rfl
  | .object entries =>
      rw [isPlain, Bool.and_eq_true, decide_eq_true_eq] at plain
      rw [settle, settleEntries_of_isPlain ((entriesPlain_iff entries).1 plain.2)]
      rw [ok_bind, Ascending.ofList_of_isAscending _ plain.1]
      rfl
  | .pairs _ => simp [isPlain] at plain

theorem settleItems_of_isPlain {items : List Datum} (plain : ∀ item ∈ items, item.isPlain) :
    settleItems items = .ok items := by
  match items with
  | [] => rfl
  | item :: items =>
      obtain ⟨head, tail⟩ := List.forall_mem_cons.1 plain
      rw [settleItems, settle_of_isPlain head, settleItems_of_isPlain tail]
      rfl

theorem settleEntries_of_isPlain {entries : List (String × Datum)}
    (plain : ∀ entry ∈ entries, entry.2.isPlain) : settleEntries entries = .ok entries := by
  match entries with
  | [] => rfl
  | (key, datum) :: entries =>
      obtain ⟨head, tail⟩ := List.forall_mem_cons.1 plain
      rw [settleEntries, settle_of_isPlain head, settleEntries_of_isPlain tail]
      rfl

end

end Datum

/-- Where every item is kept, so is the list of them. -/
theorem mapM_of_keeps {ε α : Type} {keep : α → Except ε α} {items : List α}
    (keeps : ∀ item ∈ items, keep item = .ok item) : items.mapM keep = .ok items := by
  induction items with
  | nil => rfl
  | cons item items inductionHypothesis =>
      obtain ⟨head, tail⟩ := List.forall_mem_cons.1 keeps
      rw [List.mapM_cons, head, inductionHypothesis tail]
      rfl

mutual

/-- A shape keeps the data that it holds. -/
theorem Shape.interpret_of_holds {shape : Shape} {datum : Datum} (regular : shape.isRegular)
    (held : shape.holds datum) : shape.interpret datum = .ok datum := by
  match shape with
  | .unit =>
      rw [Shape.holds_unit.1 held, Shape.interpret]
  | .bool =>
      obtain ⟨value, rfl⟩ := Shape.holds_bool.1 held
      rw [Shape.interpret]
  | .integer type =>
      obtain ⟨value, rfl, inRange⟩ := Shape.holds_integer.1 held
      rw [Shape.interpret, IntegerType.accept, if_pos inRange]
      rfl
  | .text =>
      obtain ⟨value, rfl⟩ := Shape.holds_text.1 held
      rw [Shape.interpret]
  | .optional content =>
      rw [Shape.isRegular] at regular
      by_cases absent : datum = .null
      · rw [absent, Shape.interpret]
      · rw [Shape.interpret_optional absent]
        exact Shape.interpret_of_holds regular ((Shape.holds_optional.1 held).resolve_left absent)
  | .list item =>
      obtain ⟨items, rfl, inside⟩ := Shape.holds_list.1 held
      rw [Shape.isRegular] at regular
      have keeps (each : Datum) (member : each ∈ items) : item.interpret each = .ok each :=
        Shape.interpret_of_holds regular (inside each member)
      rw [Shape.interpret, mapM_of_keeps keeps]
      rfl
  | .dictionary value =>
      obtain ⟨entries, rfl, ascending, inside⟩ := Shape.holds_dictionary.1 held
      rw [Shape.isRegular] at regular
      have keeps (entry : String × Datum) (member : entry ∈ entries) :
          interpretEntry value.interpret entry = .ok entry := by
        rw [interpretEntry, Shape.interpret_of_holds regular (inside entry member)]
        rfl
      rw [Shape.interpret, mapM_of_keeps keeps, ok_bind,
        Ascending.ofList_of_isAscending _ ascending]
      rfl
  | .pair first second =>
      obtain ⟨one, two, rfl, inFirst, inSecond⟩ := Shape.holds_pair.1 held
      rw [Shape.isRegular, Bool.and_eq_true] at regular
      have keepsFirst := Shape.interpret_of_holds regular.1 inFirst
      have keepsSecond := Shape.interpret_of_holds regular.2 inSecond
      rw [Shape.interpret, FieldView.alignWhole]
      simp only [FieldView.align, keepsFirst, keepsSecond, ok_bind]
      rfl
  | .pairTable =>
      obtain ⟨entries, rfl, ascending, inside⟩ := Shape.holds_pairTable.1 held
      have keeps (entry : (Int × Int) × Int) (member : entry ∈ entries) :
          interpretPairEntry entry = .ok entry := by
        obtain ⟨first, second, value⟩ := inside entry member
        rw [interpretPairEntry, IntegerType.accept, if_pos first, IntegerType.accept,
          if_pos second, IntegerType.accept, if_pos value]
        rfl
      rw [Shape.interpret, mapM_of_keeps keeps, ok_bind,
        Ascending.ofList_of_isAscending _ ascending]
      rfl
  | .record name fields =>
      obtain ⟨entries, rfl, inside⟩ := Shape.holds_record.1 held
      rw [Shape.isRegular, Bool.and_eq_true, decide_eq_true_eq] at regular
      have views := Fields.views_of_hold regular.2 regular.1 inside
      have all : entries.filter (FieldView.isNamed fields.views) = entries := by
        rw [List.filter_eq_self]
        intro entry member
        obtain ⟨field, named, _⟩ := views entry member
        rw [FieldView.isNamed, named]
        rfl
      have collected : FieldView.collect fields.views [] entries = .ok entries := by
        have keeps (entry : String × Datum) (member : entry ∈ entries) (field : FieldView)
            (named : (fields.views.find? fun field => field.name = entry.1) = some field) :
            field.interpret entry.2 = .ok entry.2 := by
          obtain ⟨other, sameName, kept⟩ := views entry member
          rw [named, Option.some.injEq] at sameName
          rw [sameName]
          exact kept
        have distinct : (([] ++ entries.filter (FieldView.isNamed fields.views)).map
            Prod.fst).Nodup := by
          rw [List.nil_append, all, Fields.names_of_hold inside]
          exact regular.1
        rw [FieldView.collect_of_keeps keeps distinct, List.nil_append, all]
      rw [Shape.interpret, collected, ok_bind, Fields.assemble_of_hold inside regular.1]
      rfl
  | .any => exact Datum.settle_of_isPlain (Shape.holds_any.1 held)

theorem Fields.views_of_hold {fields : Fields} {entries : List (String × Datum)}
    (regular : fields.areRegular) (distinct : fields.names.Nodup) (held : fields.hold entries) :
    ∀ entry ∈ entries, ∃ field, (fields.views.find? fun field => field.name = entry.1) = some field ∧
      field.interpret entry.2 = .ok entry.2 := by
  match fields with
  | .nil =>
      rw [Fields.hold_nil.1 held]
      exact fun _ member => absurd member List.not_mem_nil
  | .cons name defaulted shape rest =>
      obtain ⟨value, later, rfl, inShape, inRest⟩ := Fields.hold_cons.1 held
      rw [Fields.areRegular, Bool.and_eq_true] at regular
      rw [Fields.names, List.nodup_cons] at distinct
      refine List.forall_mem_cons.2 ⟨?_, fun entry member => ?_⟩
      · refine ⟨⟨name, defaulted, shape.interpret⟩, ?_, Shape.interpret_of_holds regular.1 inShape⟩
        rw [Fields.views, List.find?_cons, decide_eq_true rfl]
      · have other : name ≠ entry.1 := by
          intro same
          apply distinct.1
          rw [← Fields.names_of_hold inRest]
          exact List.mem_map.2 ⟨entry, member, same.symm⟩
        rw [Fields.views, List.find?_cons, decide_eq_false other]
        exact Fields.views_of_hold regular.2 distinct.2 inRest entry member

end

end Switchboard
