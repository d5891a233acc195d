import Switchboard.Json.Number
import Switchboard.Json.Writer

/-
This file shows that the integers of a JSON payload read back as they were written.
-/

namespace Switchboard.Json

/-- The digits of a number are summed up from the first one to the last. -/
def digitsValue (held : Nat) (digits : Bytes) : Nat :=
  digits.foldl (fun total digit => total * 10 + digitValue digit) held

theorem le_digitsValue (held : Nat) (digits : Bytes) : held ≤ digitsValue held digits := by
  induction digits generalizing held with
  | nil => exact Nat.le_refl _
  | cons digit digits inductionHypothesis =>
      refine Nat.le_trans ?_ (inductionHypothesis (held * 10 + digitValue digit))
      omega

/-- Digits whose whole number is within the bound are all taken. -/
theorem accumulate_of_le {bound : Nat} (held : Nat) (digits : Bytes)
    (within : digitsValue held digits ≤ bound) :
    accumulate bound held digits = (digitsValue held digits, []) := by
  induction digits generalizing held with
  | nil => rfl
  | cons digit digits inductionHypothesis =>
      have fits : held * 10 + digitValue digit ≤ bound :=
        Nat.le_trans (le_digitsValue _ digits) within
      rw [accumulate, if_pos fits, inductionHypothesis _ within]
      rfl

/-- The digits of a natural number follow from those of its tenth. -/
theorem writeNat_step (value : Nat) :
    writeNat value =
      if value < 10 then [UInt8.ofNat (0x30 + value)]
      else writeNat (value / 10) ++ [UInt8.ofNat (0x30 + value % 10)] := by
  rw [writeNat, Nat.toDigits_eq_if (by decide)]
  split
  · next small =>
      rw [List.map_singleton, Nat.toNat_digitChar_of_lt_ten small]
  · rw [List.map_append, List.map_singleton,
      Nat.toNat_digitChar_of_lt_ten (Nat.mod_lt value (by decide)), writeNat]

theorem digitValue_digit {digit : Nat} (small : digit < 10) :
    digitValue (UInt8.ofNat (0x30 + digit)) = digit := by
  rw [digitValue, UInt8.toNat_ofNat']
  omega

theorem isDigit_digit {digit : Nat} (small : digit < 10) :
    isDigit (UInt8.ofNat (0x30 + digit)) := by
  simp only [isDigit, UInt8.le_iff_toNat_le, UInt8.toNat_ofNat', UInt8.reduceToNat,
    Bool.and_eq_true, decide_eq_true_eq]
  omega

theorem digitsValue_writeNat (value : Nat) : digitsValue 0 (writeNat value) = value := by
  induction value using Nat.strongRecOn with
  | ind value inductionHypothesis =>
      rw [writeNat_step]
      split
      · next small =>
          simp only [digitsValue, List.foldl_cons, List.foldl_nil, digitValue_digit small,
            Nat.zero_mul, Nat.zero_add]
      · have tenth := inductionHypothesis (value / 10) (by omega)
        rw [digitsValue] at tenth ⊢
        rw [List.foldl_append, tenth, List.foldl_cons, List.foldl_nil,
          digitValue_digit (Nat.mod_lt value (by decide))]
        omega

theorem isDigit_of_mem_writeNat (value : Nat) {byte : UInt8} (member : byte ∈ writeNat value) :
    isDigit byte := by
  induction value using Nat.strongRecOn with
  | ind value inductionHypothesis =>
      rw [writeNat_step] at member
      split at member
      · next small =>
          rw [List.mem_singleton.1 member]
          exact isDigit_digit small
      · rcases List.mem_append.1 member with before | last
        · exact inductionHypothesis (value / 10) (by omega) before
        · rw [List.mem_singleton.1 last]
          exact isDigit_digit (Nat.mod_lt value (by decide))

/-- A number starts with a zero only if it is one. -/
theorem writeNat_eq_cons (value : Nat) :
    ∃ first rest, writeNat value = first :: rest ∧ (first = zero → rest = []) := by
  induction value using Nat.strongRecOn with
  | ind value inductionHypothesis =>
      rw [writeNat_step]
      split
      · exact ⟨_, [], rfl, fun _ => rfl⟩
      · next large =>
          obtain ⟨first, rest, written, leading⟩ := inductionHypothesis (value / 10) (by omega)
          refine ⟨first, rest ++ [UInt8.ofNat (0x30 + value % 10)], by rw [written]; rfl, ?_⟩
          intro isZero
          have single : writeNat (value / 10) = [zero] := by rw [written, isZero, leading isZero]
          have whole := digitsValue_writeNat (value / 10)
          rw [single] at whole
          have nothing : digitsValue 0 [zero] = 0 := rfl
          omega

/-- A number that is followed by one of these bytes, or by nothing, is complete. -/
def endsNumber : Bytes → Bool
  | [] => true
  | byte :: _ => !(isDigit byte || byte = point || byte = letterE || byte = 0x45)

section Ending

variable {rest : Bytes} (ends : endsNumber rest = true)
include ends

theorem not_startsWithDigit : startsWithDigit rest = false := by
  cases rest with
  | nil => rfl
  | cons byte rest =>
      simp only [endsNumber, Bool.not_eq_true', Bool.or_eq_false_iff] at ends
      exact ends.1.1.1

theorem readFraction_of_endsNumber : readFraction rest = .ok ([], rest) := by
  cases rest with
  | nil => rfl
  | cons byte rest =>
      simp only [endsNumber, Bool.not_eq_true', Bool.or_eq_false_iff, decide_eq_false_iff_not]
        at ends
      rw [readFraction.eq_def]
      exact if_pos ends.1.1.2

theorem readExponent_of_endsNumber : readExponent rest = .ok (none, rest) := by
  cases rest with
  | nil => rfl
  | cons byte rest =>
      simp only [endsNumber, Bool.not_eq_true', Bool.or_eq_false_iff] at ends
      rw [readExponent, ends.1.2, ends.2]
      rfl

end Ending

section Digits

variable {digits rest : Bytes} (all : ∀ byte ∈ digits, isDigit byte = true)
  (stops : startsWithDigit rest = false)
include all stops

/-- Digits end where no digit follows. -/
theorem takeWhile_isDigit_append : (digits ++ rest).takeWhile isDigit = digits := by
  rw [List.takeWhile_append_of_pos all]
  cases rest with
  | nil => rw [List.takeWhile_nil, List.append_nil]
  | cons byte rest =>
      have notDigit : isDigit byte = false := stops
      rw [List.takeWhile_cons, notDigit, if_neg Bool.false_ne_true, List.append_nil]

theorem dropWhile_isDigit_append : (digits ++ rest).dropWhile isDigit = rest := by
  rw [List.dropWhile_append_of_pos all]
  cases rest with
  | nil => rfl
  | cons byte rest =>
      have notDigit : isDigit byte = false := stops
      rw [List.dropWhile_cons, notDigit, if_neg Bool.false_ne_true]

end Digits

theorem readWhole_writeNat (value : Nat) {rest : Bytes} (ends : endsNumber rest) :
    readWhole (writeNat value ++ rest) = .ok (writeNat value, rest) := by
  have all (byte : UInt8) (member : byte ∈ writeNat value) : isDigit byte = true :=
    isDigit_of_mem_writeNat value member
  obtain ⟨first, more, written, leading⟩ := writeNat_eq_cons value
  rw [written] at all ⊢
  have digit : isDigit first = true := all first List.mem_cons_self
  have others (byte : UInt8) (member : byte ∈ more) : isDigit byte = true :=
    all byte (List.mem_cons_of_mem _ member)
  have stops := not_startsWithDigit ends
  have single : (first = zero && startsWithDigit (more ++ rest)) = false := by
    by_cases isZero : first = zero
    · rw [leading isZero, List.nil_append, stops, Bool.and_false]
    · simp only [isZero, decide_false, Bool.false_and]
  rw [List.cons_append, readWhole, digit, single, takeWhile_isDigit_append others stops,
    dropWhile_isDigit_append others stops]
  rfl

theorem readNumberToken_writeNat (value : Nat) {rest : Bytes} (ends : endsNumber rest) :
    readNumberToken (writeNat value ++ rest) = .ok (⟨writeNat value, [], none⟩, rest) := by
  simp only [readNumberToken, readWhole_writeNat value ends, readFraction_of_endsNumber ends,
    readExponent_of_endsNumber ends, bind, Except.bind]
  rfl

/-- A token without fraction and exponent is its whole number, if 64 bits hold it. -/
theorem evaluate_writeNat (negative : Bool) {value : Nat} (small : value ≤ significandBound) :
    (NumberToken.mk (writeNat value) [] none).evaluate negative =
      .ok (evaluateWhole negative value) := by
  have within : digitsValue 0 (writeNat value) ≤ significandBound := by
    rw [digitsValue_writeNat]
    exact small
  have whole := accumulate_of_le 0 (writeNat value) within
  rw [digitsValue_writeNat] at whole
  simp only [NumberToken.evaluate, whole, accumulate]
  rfl

theorem readNumber_writeNat (negative : Bool) {value : Nat} (small : value ≤ significandBound)
    {rest : Bytes} (ends : endsNumber rest) :
    readNumber negative (writeNat value ++ rest) = .ok (evaluateWhole negative value, rest) := by
  simp only [readNumber, readNumberToken_writeNat value ends, bind, Except.bind,
    evaluate_writeNat negative small]
  rfl

/-- A written negative number has a significand that is not zero and fits into 64 bits. -/
theorem evaluateWhole_negative {value : Int} (negative : value < 0)
    (least : -9223372036854775808 ≤ value) :
    evaluateWhole true value.natAbs = .integer value := by
  have notFloat : (decide (value.natAbs = 0) || decide (9223372036854775808 < value.natAbs)) =
      false := by
    simp only [Bool.or_eq_false_iff, decide_eq_false_iff_not]
    omega
  have same : -(value.natAbs : Int) = value := by omega
  rw [evaluateWhole, if_neg (by decide), notFloat, if_neg Bool.false_ne_true, same]

theorem evaluateWhole_natural {value : Int} (natural : 0 ≤ value) :
    evaluateWhole false value.natAbs = .integer value := by
  have same : (value.natAbs : Int) = value := by omega
  rw [evaluateWhole, if_pos rfl, same]

end Switchboard.Json
