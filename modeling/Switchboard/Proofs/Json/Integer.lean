import Switchboard.Proofs.Json.RoundTrip
import Switchboard.Proofs.Json.Token
import Switchboard.Proofs.Strict

/-
This file shows what a reader of integers makes of a whole number with any number of digits.
-/

namespace Switchboard.Json

/-- Digits without a fraction and an exponent are a token of their own. -/
def wholeToken (magnitude : Nat) : NumberToken := ⟨writeNat magnitude, [], none⟩

/-- A whole number that denotes no integer is out of range as a number, or it becomes a float. -/
theorem exists_fault_of_spellWhole {negative : Bool} {magnitude : Nat}
    (noInteger : (wholeToken magnitude).integer? negative = none) (type : IntegerType)
    (depth : Nat) {rest : Bytes} (ends : endsNumber rest) :
    ∃ fault,
      readShape (.integer type) depth (spellWhole negative magnitude ++ rest) = .error fault := by
  rw [readShape, readHead_spellWhole, readNumber, readNumberToken_writeNat magnitude ends, ok_bind]
  simp only
  cases evaluated : (wholeToken magnitude).evaluate negative with
  | error unread =>
      rw [wholeToken] at evaluated
      simp only [evaluated]
      exact ⟨_, rfl⟩
  | ok number =>
      cases number with
      | integer value =>
          rw [evaluate_eq_integer.1 evaluated] at noInteger
          cases noInteger
      | float value =>
          rw [wholeToken] at evaluated
          simp only [evaluated]
          exact ⟨_, rfl⟩

/-- Beyond 64 bits a whole number denotes no integer. -/
theorem integer?_wholeToken_of_not_plain {value : Int} (large : ¬ Datum.isPlainInteger value) :
    (wholeToken value.natAbs).integer? (value < 0) = none := by
  simp only [Datum.isPlainInteger, Bool.and_eq_true, decide_eq_true_eq] at large
  rw [NumberToken.integer?, if_pos ⟨rfl, rfl⟩, wholeToken]
  simp only [digitsValue_writeNat, decide_eq_true_eq]
  by_cases negative : value < 0
  · rw [if_pos negative, if_neg (by omega)]
  · rw [if_neg negative, if_neg (by omega)]

/-- An integer of any size is read exactly, or refused because its type has no room for it. -/
theorem resolves_writeInt (type : IntegerType) (depth : Nat) (value : Int) :
    Resolves (readShape (.integer type) depth) (writeInt value)
      ((Shape.integer type).strict (.int value)) := by
  intro rest ends
  by_cases plain : Datum.isPlainInteger value
  · have readable : Readable depth (.int value) := ⟨plain, rfl, Nat.zero_le _⟩
    have follows := readShape_write (.integer type) depth readable (writeInt value) rest rfl
      fun _ => ends
    exact Follows.strict_of_accept follows
  · have outside : ¬ (Shape.integer type).holds (.int value) := fun held =>
      plain (IntegerType.isPlainInteger_of_holds held)
    rw [Shape.strict, if_neg outside, writeInt_eq_spellWhole]
    exact exists_fault_of_spellWhole (integer?_wholeToken_of_not_plain plain) type depth ends

/-- Zero has no sign as an integer. -/
theorem resolves_negativeZero (type : IntegerType) (depth : Nat) (value : Binary64) :
    Resolves (readShape (.integer type) depth) (spellWhole true 0)
      ((Shape.integer type).strict (.float value)) := by
  intro rest ends
  exact exists_fault_of_spellWhole rfl type depth ends

end Switchboard.Json
