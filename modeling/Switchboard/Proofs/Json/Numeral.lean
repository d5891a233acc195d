import Switchboard.Proofs.Json.Number

/-
This file shows that every written number is a numeral, integers and floating-point numbers alike.
-/

namespace Switchboard

namespace Decimal

/-- No power of ten is written behind the digit zero. -/
def Digits.IsReduced (value : Digits) : Prop := value.digits = 0 → value.exponent ≤ 0

theorem Digits.isReduced_strip {value : Digits} (reduced : value.IsReduced) (fuel : Nat) :
    (value.strip fuel).IsReduced := by
  induction fuel generalizing value with
  | zero => exact reduced
  | succ fuel inductionHypothesis =>
      rw [strip]
      split
      · next divisible =>
          simp only [Bool.and_eq_true, decide_eq_true_eq] at divisible
          apply inductionHypothesis
          intro isZero
          simp only at isZero
          omega
      · exact reduced

theorem Interval.digits_ne_zero_of_onGrid? {tie : Tie} {interval : Interval} {exponent : Int}
    {value : Digits} (hit : interval.onGrid? tie exponent = some value) : value.digits ≠ 0 := by
  rw [onGrid?] at hit
  simp only at hit
  split at hit
  · next below =>
      simp only [Bool.and_eq_true, decide_eq_true_eq] at below
      rw [Option.some.injEq] at hit
      rw [← hit]
      exact below.1.1
  · split at hit
    · rw [Option.some.injEq] at hit
      rw [← hit]
      exact Nat.succ_ne_zero _
    · cases hit

/-- A search that ends without a hit has gone below the point if the value is below one. -/
theorem Interval.isReduced_search (tie : Tie) (interval : Interval) (fuel : Nat) (exponent : Int)
    (low : interval.value / interval.denominator = 0 → exponent ≤ fuel) :
    (interval.search tie fuel exponent).IsReduced := by
  induction fuel generalizing exponent with
  | zero =>
      intro isZero
      exact low isZero
  | succ fuel inductionHypothesis =>
      rw [search]
      split
      · next value hit => exact fun isZero => absurd isZero (digits_ne_zero_of_onGrid? hit)
      · apply inductionHypothesis
        intro isZero
        have bound := low isZero
        omega

theorem isReduced_shortest (tie : Tie) (number : Binary64) : (shortest tie number).IsReduced := by
  rw [shortest]
  split
  · exact fun _ => Int.le_refl 0
  · apply Digits.isReduced_strip
    apply Interval.isReduced_search
    intro isZero
    rw [Interval.places, if_pos isZero]
    omega

/-- A finite number is written positionally or scientifically, behind its sign. -/
theorem Layout.text_of_isFinite (layout : Layout) {number : Binary64} (finite : number.isFinite) :
    ∃ unsigned, (unsigned = positionalText (shortest layout.tie number) ∨
        unsigned = scientificText layout (shortest layout.tie number)) ∧
      layout.text number = (if number.isNegative then "-" else "") ++ unsigned := by
  have isNumber : number.isNaN = false := by
    simp only [Binary64.isFinite, ne_eq, decide_eq_true_eq] at finite
    rw [Binary64.isNaN, decide_eq_false finite, Bool.false_and]
  rw [text, isNumber, finite]
  simp only [Bool.false_eq_true, if_false, Bool.true_eq_false]
  by_cases positional : layout.positional (shortest layout.tie number).magnitude
  · exact ⟨_, .inl rfl, by rw [if_pos positional]⟩
  · exact ⟨_, .inr rfl, by rw [if_neg positional]⟩

end Decimal

namespace Json

/-- Digits are a list of at least one digit. -/
structure AreDigits (bytes : Bytes) : Prop where
  nonempty : bytes ≠ []
  all : ∀ byte ∈ bytes, isDigit byte = true

/-- A whole part starts with a zero only if nothing follows it. -/
structure IsWhole (bytes : Bytes) : Prop extends AreDigits bytes where
  leading : ∀ rest, bytes = zero :: rest → rest = []

/-- The fraction of a numeral may be left out. -/
inductive IsFraction : Bytes → Prop where
  | absent : IsFraction []
  | digits {digits : Bytes} (all : AreDigits digits) : IsFraction (point :: digits)

/-- The exponent of a numeral may be left out, and it is written with its sign. -/
inductive IsExponent : Bytes → Prop where
  | absent : IsExponent []
  | digits {sign : UInt8} {digits : Bytes} (signed : sign = plus ∨ sign = minus)
    (all : AreDigits digits) : IsExponent (letterE :: sign :: digits)

/-- A numeral is what a number is written as, apart from its sign. -/
inductive IsNumeral : Bytes → Prop where
  | parts {whole fraction exponent : Bytes} (isWhole : IsWhole whole)
    (isFraction : IsFraction fraction) (isExponent : IsExponent exponent) :
    IsNumeral (whole ++ fraction ++ exponent)

theorem isWhole_writeNat (value : Nat) : IsWhole (writeNat value) := by
  obtain ⟨first, rest, written, leading⟩ := writeNat_eq_cons value
  refine ⟨⟨?_, fun byte member => isDigit_of_mem_writeNat value member⟩, ?_⟩
  · rw [written]
    exact List.cons_ne_nil _ _
  · intro after same
    rw [written, List.cons.injEq] at same
    rw [← same.2]
    exact leading same.1

theorem isNumeral_writeNat (value : Nat) : IsNumeral (writeNat value) := by
  have numeral := IsNumeral.parts (isWhole_writeNat value) .absent .absent
  rwa [List.append_nil, List.append_nil] at numeral

section Float

def byteOf (character : Char) : UInt8 := UInt8.ofNat character.toNat

theorem map_byteOf_characters (value : Decimal.Digits) :
    value.characters.map byteOf = writeNat value.digits := rfl

theorem map_byteOf_replicate (count : Nat) :
    (List.replicate count '0').map byteOf = List.replicate count zero := by
  rw [List.map_replicate]
  rfl

theorem isDigit_of_mem_replicate {count : Nat} {byte : UInt8}
    (member : byte ∈ List.replicate count zero) : isDigit byte = true := by
  rw [List.eq_of_mem_replicate member]
  rfl

/-- Of a whole part at least one digit may be kept. -/
theorem isWhole_take {bytes : Bytes} (isWhole : IsWhole bytes) {count : Nat} (positive : 0 < count) :
    IsWhole (bytes.take count) := by
  refine ⟨⟨?_, fun byte member => isWhole.all byte (List.mem_of_mem_take member)⟩, ?_⟩
  · rw [Ne, List.take_eq_nil_iff]
    exact not_or.2 ⟨by omega, isWhole.nonempty⟩
  · intro rest same
    obtain ⟨before, rfl⟩ : ∃ before, count = before + 1 := ⟨count - 1, by omega⟩
    cases bytes with
    | nil => simp at same
    | cons first more =>
        rw [List.take_succ_cons, List.cons.injEq] at same
        rw [← same.2, isWhole.leading more (by rw [same.1]), List.take_nil]

/-- Zeros behind a whole part keep it one, unless it is a zero itself. -/
theorem isWhole_append_zeros {value : Decimal.Digits} (reduced : value.IsReduced) :
    IsWhole (writeNat value.digits ++ List.replicate value.exponent.toNat zero) := by
  have isWhole := isWhole_writeNat value.digits
  refine ⟨⟨List.append_ne_nil_of_left_ne_nil isWhole.nonempty _, fun byte member => ?_⟩, ?_⟩
  · rcases List.mem_append.1 member with digit | isZero
    · exact isWhole.all byte digit
    · exact isDigit_of_mem_replicate isZero
  · intro rest same
    obtain ⟨first, more, written⟩ := List.exists_cons_of_ne_nil isWhole.nonempty
    rw [written, List.cons_append, List.cons.injEq] at same
    rw [same.1] at written
    have single := isWhole.leading more written
    have number := digitsValue_writeNat value.digits
    rw [written, single] at number
    have none : value.exponent.toNat = 0 := Int.toNat_of_nonpos (reduced number.symm)
    rw [← same.2, single, none]
    rfl

/-- A positional text with a negative exponent has zeros in front, if it has too few digits. -/
theorem isNumeral_padded (digits places : Nat) (positive : 0 < places) :
    let padded := List.replicate (places + 1 - (writeNat digits).length) zero ++ writeNat digits
    IsNumeral (padded.take (padded.length - places) ++
      point :: padded.drop (padded.length - places)) := by
  intro padded
  have isWhole := isWhole_writeNat digits
  have long : places + 1 ≤ padded.length := by
    rw [List.length_append, List.length_replicate]
    omega
  have all (byte : UInt8) (member : byte ∈ padded) : isDigit byte = true := by
    rcases List.mem_append.1 member with isZero | digit
    · exact isDigit_of_mem_replicate isZero
    · exact isWhole.all byte digit
  have fraction : AreDigits (padded.drop (padded.length - places)) := by
    refine ⟨?_, fun byte member => all byte (List.mem_of_mem_drop member)⟩
    rw [Ne, List.drop_eq_nil_iff]
    omega
  have whole : IsWhole (padded.take (padded.length - places)) := by
    by_cases short : (writeNat digits).length ≤ places
    · have one : padded.length - places = 1 := by
        rw [List.length_append, List.length_replicate]
        omega
      obtain ⟨count, more⟩ : ∃ count, places + 1 - (writeNat digits).length = count + 1 :=
        ⟨places - (writeNat digits).length, by omega⟩
      have single : padded.take 1 = writeNat 0 := by
        rw [show padded = List.replicate (count + 1) zero ++ writeNat digits by rw [← more]]
        rfl
      rw [one, single]
      exact isWhole_writeNat 0
    · have same : padded = writeNat digits := by
        have none : places + 1 - (writeNat digits).length = 0 := by omega
        rw [show padded = List.replicate 0 zero ++ writeNat digits by rw [← none]]
        rfl
      rw [same] at long ⊢
      exact isWhole_take isWhole (by omega)
  have numeral := IsNumeral.parts whole (.digits fraction) .absent
  rwa [List.append_nil] at numeral

theorem isNumeral_positionalText {value : Decimal.Digits} (reduced : value.IsReduced) :
    IsNumeral ((Decimal.positionalText value).toList.map byteOf) := by
  rw [Decimal.positionalText]
  simp only
  split
  · have digit : AreDigits [zero] := ⟨List.cons_ne_nil _ _, List.forall_mem_singleton.2 rfl⟩
    have fraction : IsFraction (['.', '0'].map byteOf) := .digits digit
    have numeral := IsNumeral.parts (isWhole_append_zeros reduced) fraction .absent
    rw [List.append_nil] at numeral
    rw [String.toList_ofList, List.map_append, List.map_append, map_byteOf_characters,
      map_byteOf_replicate]
    exact numeral
  · next negative =>
      have numeral := isNumeral_padded value.digits (-value.exponent).toNat (by omega)
      simp only [← map_byteOf_characters, ← map_byteOf_replicate, ← List.map_append,
        List.length_map, ← List.map_take, ← List.map_drop] at numeral
      rw [String.toList_ofList, List.map_append, List.map_cons]
      exact numeral

/-- The exponent of a scientific text has a sign and at least one digit. -/
theorem isExponent_scientific (sign : String) (magnitude : Nat) (signed : sign = "+" ∨ sign = "-") :
    IsExponent (("e" ++ sign ++ toString magnitude).toList.map byteOf) := by
  have digits : AreDigits (writeNat magnitude) := (isWhole_writeNat magnitude).toAreDigits
  have number : (toString magnitude).toList = Nat.toDigits 10 magnitude := Nat.toList_repr
  rw [String.toList_append, String.toList_append, number, List.map_append]
  rcases signed with rfl | rfl
  · exact .digits (.inl rfl) digits
  · exact .digits (.inr rfl) digits

/-- A scientific text has one digit before its point. -/
theorem isNumeral_scientificText (value : Decimal.Digits) :
    IsNumeral ((Decimal.scientificText .payload value).toList.map byteOf) := by
  have isWhole := isWhole_writeNat value.digits
  rw [← map_byteOf_characters] at isWhole
  have exponent := isExponent_scientific (if 0 ≤ value.magnitude then "+" else "-")
    value.magnitude.natAbs (by split <;> simp)
  rw [Decimal.scientificText]
  simp only [String.append_assoc, Decimal.Layout.payload] at exponent ⊢
  rw [String.toList_append, String.toList_ofList, List.map_append]
  generalize value.characters = characters at isWhole ⊢
  match characters with
  | [] => exact absurd rfl isWhole.nonempty
  | [single] =>
      have numeral := IsNumeral.parts isWhole .absent exponent
      rwa [List.append_nil] at numeral
  | first :: second :: rest =>
      have fraction : AreDigits ((second :: rest).map byteOf) :=
        ⟨List.cons_ne_nil _ _, fun byte member => isWhole.all byte (List.mem_cons_of_mem _ member)⟩
      exact IsNumeral.parts (isWhole_take isWhole Nat.one_pos) (.digits fraction) exponent

/-- A number is written as a numeral, with or without a sign, or it has no written form. -/
theorem writeFloat_cases (value : Binary64) :
    writeFloat value = nullLiteral ∨ ∃ numeral, IsNumeral numeral ∧
      (writeFloat value = numeral ∨ writeFloat value = minus :: numeral) := by
  rw [writeFloat]
  split
  · next finite =>
      right
      have reduced := Decimal.isReduced_shortest Decimal.Layout.payload.tie value
      obtain ⟨unsigned, kind, written⟩ := Decimal.Layout.payload.text_of_isFinite finite
      have numeral : IsNumeral (unsigned.toList.map byteOf) := by
        rcases kind with same | same
        · rw [same]
          exact isNumeral_positionalText reduced
        · rw [same]
          exact isNumeral_scientificText _
      refine ⟨_, numeral, ?_⟩
      rw [written, String.toList_append, List.map_append]
      split
      · exact .inr rfl
      · exact .inl rfl
  · exact .inl rfl

end Float

theorem IsNumeral.exists_cons {numeral : Bytes} (isNumeral : IsNumeral numeral) :
    ∃ first rest, numeral = first :: rest ∧ isDigit first = true := by
  obtain @⟨whole, fraction, exponent, isWhole, _, _⟩ := isNumeral
  obtain ⟨first, rest, same⟩ := List.exists_cons_of_ne_nil isWhole.nonempty
  refine ⟨first, rest ++ fraction ++ exponent, by rw [same]; rfl, ?_⟩
  exact isWhole.all first (by rw [same]; exact List.mem_cons_self)

end Json

end Switchboard
