import Switchboard.Datum
import Switchboard.Text.Utf8

/-
This file bounds data by what payload formats can carry, and takes containers apart into their
items.
-/

namespace Switchboard.Datum

def isInteger : Datum → Bool
  | .int _ => true
  | _ => false

/-- A number of either kind ends where its digits end. -/
def isNumber : Datum → Bool
  | .int _ => true
  | .float _ => true
  | _ => false

mutual

/-- No floating-point number occurs in the datum. -/
def isFloatFree : Datum → Bool
  | .float _ => false
  | .list items => areFloatFree items
  | .object entries => entriesFloatFree entries
  | _ => true

def areFloatFree : List Datum → Bool
  | [] => true
  | item :: rest => isFloatFree item && areFloatFree rest

def entriesFloatFree : List (String × Datum) → Bool
  | [] => true
  | (_, value) :: rest => isFloatFree value && entriesFloatFree rest

end

mutual

/-- Every integer in the datum fits into 64 bits. -/
def hasPlainIntegers : Datum → Bool
  | .int value => isPlainInteger value
  | .list items => havePlainIntegers items
  | .object entries => entriesPlainIntegers entries
  | .pairs entries => entries.all fun entry =>
    isPlainInteger entry.1.1 && isPlainInteger entry.1.2 && isPlainInteger entry.2
  | _ => true

def havePlainIntegers : List Datum → Bool
  | [] => true
  | item :: rest => hasPlainIntegers item && havePlainIntegers rest

def entriesPlainIntegers : List (String × Datum) → Bool
  | [] => true
  | (_, value) :: rest => hasPlainIntegers value && entriesPlainIntegers rest

end

/-- A length is short when 32 bits hold it. -/
def isShortLength (length : Nat) : Bool := length < 4294967296

def isShortText (text : String) : Bool := isShortLength (Text.Utf8.encode text).length

mutual

/-- All texts and containers in the datum are short. -/
def isShort : Datum → Bool
  | .text value => isShortText value
  | .list items => isShortLength items.length && areShort items
  | .object entries => isShortLength entries.length && entriesShort entries
  | .pairs entries => isShortLength entries.length
  | _ => true

def areShort : List Datum → Bool
  | [] => true
  | item :: rest => isShort item && areShort rest

def entriesShort : List (String × Datum) → Bool
  | [] => true
  | (key, value) :: rest => isShortText key && isShort value && entriesShort rest

end

theorem arePlain_iff (items : List Datum) : arePlain items ↔ ∀ item ∈ items, item.isPlain := by
  induction items with
  | nil => simp [arePlain]
  | cons item items inductionHypothesis => simp [arePlain, inductionHypothesis]

theorem entriesPlain_iff (entries : List (String × Datum)) :
    entriesPlain entries ↔ ∀ entry ∈ entries, entry.2.isPlain := by
  induction entries with
  | nil => simp [entriesPlain]
  | cons entry entries inductionHypothesis => simp [entriesPlain, inductionHypothesis]

theorem areFloatFree_iff (items : List Datum) :
    areFloatFree items ↔ ∀ item ∈ items, item.isFloatFree := by
  induction items with
  | nil => simp [areFloatFree]
  | cons item items inductionHypothesis => simp [areFloatFree, inductionHypothesis]

theorem entriesFloatFree_iff (entries : List (String × Datum)) :
    entriesFloatFree entries ↔ ∀ entry ∈ entries, entry.2.isFloatFree := by
  induction entries with
  | nil => simp [entriesFloatFree]
  | cons entry entries inductionHypothesis => simp [entriesFloatFree, inductionHypothesis]

theorem havePlainIntegers_iff (items : List Datum) :
    havePlainIntegers items ↔ ∀ item ∈ items, item.hasPlainIntegers := by
  induction items with
  | nil => simp [havePlainIntegers]
  | cons item items inductionHypothesis => simp [havePlainIntegers, inductionHypothesis]

theorem entriesPlainIntegers_iff (entries : List (String × Datum)) :
    entriesPlainIntegers entries ↔ ∀ entry ∈ entries, entry.2.hasPlainIntegers := by
  induction entries with
  | nil => simp [entriesPlainIntegers]
  | cons entry entries inductionHypothesis => simp [entriesPlainIntegers, inductionHypothesis]

theorem areShort_iff (items : List Datum) : areShort items ↔ ∀ item ∈ items, item.isShort := by
  induction items with
  | nil => simp [areShort]
  | cons item items inductionHypothesis => simp [areShort, inductionHypothesis]

theorem entriesShort_iff (entries : List (String × Datum)) :
    entriesShort entries ↔ ∀ entry ∈ entries, isShortText entry.1 ∧ entry.2.isShort := by
  induction entries with
  | nil => simp [entriesShort]
  | cons entry entries inductionHypothesis => simp [entriesShort, inductionHypothesis]

mutual

/-- A reader without expectations returns integers of 64 bits only. -/
theorem hasPlainIntegers_of_isPlain {datum : Datum} (plain : datum.isPlain) :
    datum.hasPlainIntegers := by
  match datum with
  | .null | .bool _ | .float _ | .text _ => rfl
  | .int value => exact plain
  | .list items => exact havePlainIntegers_of_arePlain plain
  | .object entries =>
      rw [isPlain, Bool.and_eq_true] at plain
      exact entriesPlainIntegers_of_entriesPlain plain.2
  | .pairs _ => exact Bool.noConfusion plain

theorem havePlainIntegers_of_arePlain {items : List Datum} (plain : arePlain items) :
    havePlainIntegers items := by
  match items with
  | [] => rfl
  | item :: items =>
      rw [arePlain, Bool.and_eq_true] at plain
      rw [havePlainIntegers, hasPlainIntegers_of_isPlain plain.1,
        havePlainIntegers_of_arePlain plain.2]
      rfl

theorem entriesPlainIntegers_of_entriesPlain {entries : List (String × Datum)}
    (plain : entriesPlain entries) : entriesPlainIntegers entries := by
  match entries with
  | [] => rfl
  | (key, datum) :: entries =>
      rw [entriesPlain, Bool.and_eq_true] at plain
      rw [entriesPlainIntegers, hasPlainIntegers_of_isPlain plain.1,
        entriesPlainIntegers_of_entriesPlain plain.2]
      rfl

end

theorem listDepth_le_iff (items : List Datum) (bound : Nat) :
    listDepth items ≤ bound ↔ ∀ item ∈ items, item.depth ≤ bound := by
  induction items with
  | nil => simp [listDepth]
  | cons item items inductionHypothesis =>
      rw [listDepth, Nat.max_le, inductionHypothesis, List.forall_mem_cons]

theorem entriesDepth_le_iff (entries : List (String × Datum)) (bound : Nat) :
    entriesDepth entries ≤ bound ↔ ∀ entry ∈ entries, entry.2.depth ≤ bound := by
  induction entries with
  | nil => simp [entriesDepth]
  | cons entry entries inductionHypothesis =>
      rw [entriesDepth, Nat.max_le, inductionHypothesis, List.forall_mem_cons]

end Switchboard.Datum
