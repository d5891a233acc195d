import Mathlib.Data.List.TakeWhile
import Switchboard.Json.Head
import Switchboard.Proofs.Json.Number
import Switchboard.Proofs.Json.Text

/-
This file shows that a written JSON value is recognized by its first bytes.
-/

namespace Switchboard.Json

/-- A list of blanks holds nothing else. -/
def AreBlanks (bytes : Bytes) : Prop := ∀ byte ∈ bytes, isBlank byte = true

instance instDecidableAreBlanks (bytes : Bytes) : Decidable (AreBlanks bytes) :=
  List.decidableBAll (fun byte => isBlank byte = true) bytes

theorem areBlanks_nil : AreBlanks [] := fun _ member => absurd member List.not_mem_nil

theorem skipBlanks_append {blanks : Bytes} (all : AreBlanks blanks) (bytes : Bytes) :
    skipBlanks (blanks ++ bytes) = skipBlanks bytes :=
  List.dropWhile_append_of_pos all

theorem skipBlanks_of_areBlanks {blanks : Bytes} (all : AreBlanks blanks) :
    skipBlanks blanks = [] := by
  have whole := skipBlanks_append all []
  rwa [List.append_nil] at whole

/-- What is left after the blanks starts with another byte. -/
theorem skipBlanks_ne_nil {bytes : Bytes} {byte : UInt8} (member : byte ∈ bytes)
    (solid : isBlank byte = false) : skipBlanks bytes ≠ [] := by
  intro nothing
  have blank : isBlank byte = true := by
    have all := List.dropWhile_eq_nil_iff.1 nothing
    exact all byte member
  rw [blank] at solid
  exact Bool.noConfusion solid

theorem skipBlanks_cons {byte : UInt8} (solid : isBlank byte = false) (rest : Bytes) :
    skipBlanks (byte :: rest) = byte :: rest := by
  rw [skipBlanks, List.dropWhile_cons, solid, if_neg Bool.false_ne_true]

/-- Blanks in front of a value do not count. -/
theorem readHead_append {blanks : Bytes} (all : AreBlanks blanks) (bytes : Bytes) :
    readHead (blanks ++ bytes) = readHead bytes := by
  rw [readHead, skipBlanks_append all, readHead]

section Kinds

variable (rest : Bytes)

theorem readHead_openList : readHead (openList :: rest) = .ok (.openList, openList :: rest) := rfl

theorem readHead_openObject :
    readHead (openObject :: rest) = .ok (.openObject, openObject :: rest) := rfl

theorem readHead_null : readHead (nullLiteral ++ rest) = .ok (.null, rest) := rfl

theorem readHead_true : readHead (trueLiteral ++ rest) = .ok (.bool true, rest) := rfl

theorem readHead_false : readHead (falseLiteral ++ rest) = .ok (.bool false, rest) := rfl

theorem readHead_writeText (text : String) :
    readHead (writeText text ++ rest) = .ok (.text text, rest) := by
  rw [writeText_append, readHead, skipBlanks_cons (by decide)]
  simp only [if_true, readText_flatMap_writeChar text rest, bind, Except.bind]
  rfl

end Kinds

/-- A digit starts no other kind of value. -/
theorem not_special_of_isDigit {byte : UInt8} (digit : isDigit byte = true) :
    isBlank byte = false ∧ byte ≠ quote ∧ byte ≠ openObject ∧ byte ≠ openList := by
  simp only [isDigit, UInt8.le_iff_toNat_le, UInt8.reduceToNat, Bool.and_eq_true,
    decide_eq_true_eq] at digit
  simp only [isBlank, quote, openObject, openList, ne_eq, ← UInt8.toNat_inj, UInt8.reduceToNat,
    Bool.or_eq_false_iff, decide_eq_false_iff_not]
  omega

/-- A whole number is spelled with or without a sign. -/
def spellWhole (negative : Bool) (magnitude : Nat) : Bytes :=
  if negative then minus :: writeNat magnitude else writeNat magnitude

theorem writeInt_eq_spellWhole (value : Int) :
    writeInt value = spellWhole (value < 0) value.natAbs := by
  rw [writeInt, spellWhole]
  simp only [decide_eq_true_eq]

/-- Its first byte tells a whole number from all other values. -/
theorem readHead_spellWhole (negative : Bool) (magnitude : Nat) (rest : Bytes) :
    readHead (spellWhole negative magnitude ++ rest) =
      (do
        let (number, rest) ← readNumber negative (writeNat magnitude ++ rest)
        return (.number number, rest)) := by
  rw [spellWhole]
  cases negative with
  | true =>
      rw [if_pos rfl, List.cons_append, readHead, skipBlanks_cons (by decide)]
      simp only [if_neg (show ¬ minus = quote by decide),
        if_neg (show ¬ minus = openObject by decide), if_neg (show ¬ minus = openList by decide),
        if_neg (show ¬ isDigit minus = true by decide), if_true]
  | false =>
      obtain ⟨first, more, written, _⟩ := writeNat_eq_cons magnitude
      have digit : isDigit first = true :=
        isDigit_of_mem_writeNat magnitude (by rw [written]; exact List.mem_cons_self)
      obtain ⟨solid, notQuote, notObject, notList⟩ := not_special_of_isDigit digit
      rw [if_neg Bool.false_ne_true, written, List.cons_append, readHead, skipBlanks_cons solid]
      simp only [if_neg notQuote, if_neg notObject, if_neg notList, digit, if_true]

/-- An integer of 64 bits is read back, if no byte follows that would belong to the number. -/
theorem readHead_writeInt {value : Int} (plain : Datum.isPlainInteger value) {rest : Bytes}
    (ends : endsNumber rest) :
    readHead (writeInt value ++ rest) = .ok (.number (.integer value), rest) := by
  simp only [Datum.isPlainInteger, Bool.and_eq_true, decide_eq_true_eq] at plain
  have small : value.natAbs ≤ significandBound := by
    rw [significandBound]
    omega
  rw [writeInt_eq_spellWhole, readHead_spellWhole, readNumber_writeNat _ small ends]
  by_cases negative : value < 0
  · rw [decide_eq_true negative, evaluateWhole_negative negative plain.1]
    rfl
  · rw [decide_eq_false negative, evaluateWhole_natural (by omega)]
    rfl

end Switchboard.Json
