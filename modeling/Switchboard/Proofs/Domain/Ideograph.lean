import Switchboard.Proofs.Domain.Name

/-
This file shows that a name of ideographs that stand far apart is written in more characters than
are read back.
-/

namespace Switchboard.Domain

namespace Punycode

section Length

/-- A number from here on has three digits or more at every bias. -/
theorem three_le_length_writeNumber {number : Nat} (large : 911 ≤ number) (bias place : Nat) :
    3 ≤ (writeNumber bias place number).length := by
  have first := one_le_threshold bias place
  have second := threshold_le bias place
  have third := threshold_le bias (place + 36)
  have rest : 26 ≤ (number - threshold bias place) / (36 - threshold bias place) := by
    rw [Nat.le_div_iff_mul_le (by omega)]
    omega
  rw [writeNumber, if_neg (by omega), writeNumber, if_neg (by omega), writeNumber]
  split <;> simp only [List.length_cons] <;> omega

/-- Behind the other characters of a text its greatest character is inserted last. -/
theorem lastGreatest_concat {text : List Char} {character : Char}
    (greatest : ∀ other ∈ text, other.toNat ≤ character.toNat) :
    lastGreatest (text ++ [character]) = some ⟨character, text.length⟩ := by
  induction text with
  | nil => rfl
  | cons first text inductionHypothesis =>
      obtain ⟨less, later⟩ := List.forall_mem_cons.1 greatest
      rw [List.cons_append, lastGreatest, inductionHypothesis later]
      exact if_pos less

theorem insertions_concat {text : List Char} {character : Char}
    (greatest : ∀ other ∈ text, other.toNat ≤ character.toNat)
    (notBasic : isBasic character = false) :
    insertions (text ++ [character]) = insertions text ++ [⟨character, text.length⟩] := by
  have isFound := lastGreatest_concat greatest
  rw [insertions]
  split
  · next none =>
      rw [none] at isFound
      cases isFound
  · next found isLast =>
      rw [isFound, Option.some.injEq] at isLast
      rw [← isLast]
      dsimp only
      rw [notBasic, if_neg Bool.false_ne_true, List.eraseIdx_append_of_length_le (Nat.le_refl _),
        Nat.sub_self, List.eraseIdx_cons_zero, List.append_nil]

/-- Nothing is inserted into an ASCII text. -/
theorem insertions_of_isBasic {text : List Char} (basic : ∀ character ∈ text, isBasic character) :
    insertions text = [] := by
  have whole := length_insertions text
  rw [List.filter_eq_self.2 basic] at whole
  exact List.eq_nil_of_length_eq_zero (by omega)

end Length

end Punycode

/-- Ideographs that stand twenty codes apart. -/
def ideograph (number : Nat) : Char := Char.ofNat (0x4E00 + 20 * number)

/-- A label of ASCII letters and then ideographs. -/
def spaced (count : Nat) : List Char := List.replicate 50 'a' ++ (List.range count).map ideograph

section Spaced

open Punycode

theorem toNat_ideograph {number : Nat} (small : number < 1000) :
    (ideograph number).toNat = 0x4E00 + 20 * number := by
  refine toNat_ofNat ?_
  rw [Nat.isValidChar]
  omega

theorem isBasic_ideograph {number : Nat} (small : number < 1000) :
    isBasic (ideograph number) = false := by
  rw [isBasic, toNat_ideograph small, decide_eq_false_iff_not]
  omega

theorem length_spaced (count : Nat) : (spaced count).length = 50 + count := by
  rw [spaced, List.length_append, List.length_replicate, List.length_map, List.length_range]

theorem spaced_succ (count : Nat) : spaced (count + 1) = spaced count ++ [ideograph count] := by
  rw [spaced, spaced, List.range_succ, List.map_append, List.map_singleton, List.append_assoc]

theorem mem_spaced {count : Nat} {character : Char} (member : character ∈ spaced count) :
    character = 'a' ∨ ∃ number < count, character = ideograph number := by
  rcases List.mem_append.1 member with isLetter | isIdeograph
  · exact .inl (List.eq_of_mem_replicate isLetter)
  · obtain ⟨number, inRange, rfl⟩ := List.mem_map.1 isIdeograph
    exact .inr ⟨number, List.mem_range.1 inRange, rfl⟩

theorem insertions_spaced {count : Nat} (bound : count ≤ 1000) :
    insertions (spaced count) = (List.range count).map fun number =>
      ⟨ideograph number, 50 + number⟩ := by
  induction count with
  | zero =>
      refine insertions_of_isBasic fun character member => ?_
      rcases mem_spaced member with isLetter | ⟨number, absurdly, _⟩
      · rw [isLetter]
        decide
      · exact absurd absurdly (Nat.not_lt_zero number)
  | succ count inductionHypothesis =>
      have greatest : ∀ other ∈ spaced count, other.toNat ≤ (ideograph count).toNat := by
        intro other member
        rw [toNat_ideograph bound]
        rcases mem_spaced member with isLetter | ⟨number, less, isIdeograph⟩
        · rw [isLetter]
          exact Nat.le_add_right_of_le (by decide)
        · rw [isIdeograph, toNat_ideograph (by omega)]
          omega
      rw [spaced_succ, insertions_concat greatest (isBasic_ideograph bound),
        inductionHypothesis (by omega), length_spaced, List.range_succ, List.map_append,
        List.map_singleton]

/-- Behind fifty characters each ideograph takes three digits or more. -/
theorem le_length_writeInsertions {start count : Nat} {position : Position}
    (code : position.code + 20 ≤ 0x4E00 + 20 * start) (index : position.index ≤ 50 + start)
    (length : position.length = 50 + start) (bound : start + count ≤ 1000) :
    3 * count ≤ (writeInsertions position ((List.range' start count).map fun number =>
      ⟨ideograph number, 50 + number⟩)).length := by
  induction count generalizing start position with
  | zero => exact Nat.zero_le _
  | succ count inductionHypothesis =>
      -- The codes that are left out count once for every place of the text so far.
      have isCode : (ideograph start).toNat = 0x4E00 + 20 * start := toNat_ideograph (by omega)
      have far : 20 * 51 ≤ ((ideograph start).toNat - position.code) * (position.length + 1) :=
        Nat.mul_le_mul (by omega) (by omega)
      rw [List.range'_succ, List.map_cons, writeInsertions, List.length_append]
      dsimp only
      generalize isDistance : ((ideograph start).toNat - position.code) * (position.length + 1) +
        (50 + start) - position.index = distance
      have first := three_le_length_writeNumber (show 911 ≤ distance by omega) position.bias 36
      have isAfter : (position.after distance (ideograph start).toNat (50 + start)).code + 20 ≤
          0x4E00 + 20 * (start + 1) := by
        rw [Position.after]
        dsimp only
        omega
      have later := inductionHypothesis isAfter (Nat.le_refl _) (congrArg (· + 1) length) (by omega)
      omega

theorem le_length_encode {count : Nat} (bound : count ≤ 1000) :
    51 + 3 * count ≤ (encode (spaced count)).length := by
  have basic : (spaced count).filter isBasic = List.replicate 50 'a' := by
    have front : (List.replicate 50 'a').filter isBasic = List.replicate 50 'a' := by decide
    have behind : ((List.range count).map ideograph).filter isBasic = [] := by
      rw [List.filter_eq_nil_iff]
      intro character member
      obtain ⟨number, inRange, rfl⟩ := List.mem_map.1 member
      rw [isBasic_ideograph (Nat.lt_of_lt_of_le (List.mem_range.1 inRange) bound)]
      decide
    rw [spaced, List.filter_append, front, behind, List.append_nil]
  have notEmpty : List.replicate 50 'a' ≠ [] := by decide
  have code : (Position.start 50).code + 20 ≤ 0x4E00 + 20 * 0 := by decide
  have long := le_length_writeInsertions code (by decide) rfl (by omega : 0 + count ≤ 1000)
  rw [← List.range_eq_range', ← insertions_spaced bound] at long
  rw [encode, basic, if_neg notEmpty, List.length_append, List.length_cons,
    List.length_replicate]
  omega

end Spaced

section Tables

variable {character : Char}

def isIdeograph (code : Nat) : Bool := 0x4E00 ≤ code && code ≤ 0x9FFF

theorem isIdeograph_ideograph {number : Nat} (small : number < 1000) :
    isIdeograph (ideograph number).toNat := by
  rw [isIdeograph, toNat_ideograph small, Bool.and_eq_true, decide_eq_true_eq, decide_eq_true_eq]
  omega

/-- No row of a table is about an ideograph. -/
def areOutside {α : Type} (rows : List (Nat × Nat × α)) : Bool :=
  rows.all fun row => row.2.1 < 0x4E00 || 0x9FFF < row.1

theorem find?_of_areOutside {α : Type} {rows : List (Nat × Nat × α)} (outside : areOutside rows)
    (ideograph : isIdeograph character.toNat) :
    rows.find? (fun row => row.1 ≤ character.toNat && character.toNat ≤ row.2.1) = none := by
  simp only [isIdeograph, Bool.and_eq_true, decide_eq_true_eq] at ideograph
  rw [List.find?_eq_none]
  intro row member inside
  have apart := List.all_eq_true.1 outside row member
  simp only [Bool.or_eq_true, Bool.and_eq_true, decide_eq_true_eq] at apart inside
  omega

theorem isForward_of_isIdeograph (ideograph : isIdeograph character.toNat) :
    IsForward character := by
  have outside : areOutside directionRows = true := by decide +kernel
  rw [IsForward, direction, find?_of_areOutside outside ideograph]
  exact ⟨by decide, by decide⟩

theorem isForbidden_of_isIdeograph (ideograph : isIdeograph character.toNat) :
    isForbidden character = false := by
  have special : ['#', '%', '/', ':', '<', '>', '?', '@', '[', '\\', ']', '^', '|'].all
      fun other => !isIdeograph other.toNat := by decide
  have absent : ['#', '%', '/', ':', '<', '>', '?', '@', '[', '\\', ']', '^', '|'].contains
      character = false := by
    rw [List.contains_eq_mem, decide_eq_false_iff_not]
    intro member
    have noIdeograph := List.all_eq_true.1 special character member
    rw [ideograph] at noIdeograph
    cases noIdeograph
  simp only [isIdeograph, Bool.and_eq_true, decide_eq_true_eq] at ideograph
  rw [isForbidden, absent, decide_eq_false (by omega), decide_eq_false (by omega)]
  rfl

theorem isKept_of_isIdeograph (ideograph : isIdeograph character.toNat) : IsKept character := by
  have covers : keptTree.covers 0x4E00 0x9FFF = true := by decide +kernel
  simp only [isIdeograph, Bool.and_eq_true, decide_eq_true_eq] at ideograph
  exact isKept_of_covers covers ideograph.1 ideograph.2

/-- Neither marks nor composites are ideographs. -/
def areNoIdeographs (rows : List (Char × Char × Char)) : Bool :=
  rows.all fun row => !isIdeograph row.2.1.toNat && !isIdeograph row.2.2.toNat

set_option maxRecDepth 4000 in
theorem areNoIdeographs_composites : areNoIdeographs composites = true := by
  apply check_composites
  · repeat' first | exact List.map_nil | apply map_spell_cons
  · decide +kernel

theorem isInert_of_isIdeograph (ideograph : isIdeograph character.toNat) : IsInert character := by
  have rows := List.all_eq_true.1 areNoIdeographs_composites
  have range := ideograph
  simp only [isIdeograph, Bool.and_eq_true, decide_eq_true_eq] at range
  refine ⟨decomposePair_eq_none ?_ fun again => ?_, ?_, fun letter => ?_⟩
  · rw [isSyllable, Bool.and_eq_false_iff, decide_eq_false_iff_not]
    omega
  · obtain ⟨row, member, same⟩ := List.mem_map.1 again
    have noIdeograph := rows row member
    rw [same, ideograph, Bool.not_true, Bool.and_false] at noIdeograph
    cases noIdeograph
  · have outside : areOutside combiningClasses = true := by decide +kernel
    rw [combiningClass, find?_of_areOutside outside ideograph]
    rfl
  · have noSyllable : composeHangul letter.toNat character.toNat = none := by
      rw [composeHangul, if_neg (by omega), if_neg (by omega)]
    have absent : composites.find? (fun row => row.1 = letter ∧ row.2.1 = character) = none := by
      rw [List.find?_eq_none]
      intro row member found
      have noIdeograph := rows row member
      rw [(of_decide_eq_true found).2, ideograph] at noIdeograph
      cases noIdeograph
    rw [composePair, noSyllable, absent]
    exact ite_self _

end Tables

section Name

variable {count : Nat} {character : Char}

theorem isForbidden_of_isDigitChar (digit : Punycode.isDigitChar character) :
    isForbidden character = false := by
  have all : ∀ code < 0x7B, Punycode.isDigitChar (Char.ofNat code) →
      isForbidden (Char.ofNat code) = false := by decide
  have bound : character.toNat < 0x7B := by
    simp only [Punycode.isDigitChar, Bool.or_eq_true, Bool.and_eq_true, decide_eq_true_eq] at digit
    omega
  have found := all character.toNat bound
  rw [Char.ofNat_toNat] at found
  exact found digit

/-- Without joiners all of them are in place. -/
theorem areJoinersInPlace_of_ne {before text : List Char}
    (none : ∀ character ∈ text, character ≠ joiner ∧ character ≠ nonJoiner) :
    areJoinersInPlace before text := by
  induction text generalizing before with
  | nil => rfl
  | cons character text inductionHypothesis =>
      obtain ⟨⟨noJoiner, noNonJoiner⟩, later⟩ := List.forall_mem_cons.1 none
      have inPlace : isJoinerInPlace before character text :=
        if_neg (not_or.2 ⟨noJoiner, noNonJoiner⟩)
      rw [areJoinersInPlace, inPlace, inductionHypothesis later]
      rfl

/-- A plain letter stands for itself, runs forward and has no meaning in addresses. -/
structure IsPlainLetter (character : Char) : Prop where
  kept : IsKept character
  inert : IsInert character
  forward : IsForward character
  allowed : isForbidden character = false
  noJoiner : character ≠ joiner ∧ character ≠ nonJoiner
  noDot : character ≠ '.'

theorem isPlainLetter_of_mem_spaced (bound : count ≤ 1000) (member : character ∈ spaced count) :
    IsPlainLetter character := by
  rcases mem_spaced member with rfl | ⟨number, less, rfl⟩
  · exact ⟨isKept_of_ascii (by decide), isInert_of_isBasic (by decide),
      ⟨by decide +kernel, by decide +kernel⟩, by decide, by decide, by decide⟩
  · have code := toNat_ideograph (Nat.lt_of_lt_of_le less bound)
    have isIdeograph := isIdeograph_ideograph (Nat.lt_of_lt_of_le less bound)
    have ne {other : Char} (small : other.toNat < 0x4E00) : ideograph number ≠ other := by
      intro same
      rw [same] at code
      omega
    exact ⟨isKept_of_isIdeograph isIdeograph, isInert_of_isIdeograph isIdeograph,
      isForward_of_isIdeograph isIdeograph, isForbidden_of_isIdeograph isIdeograph,
      ⟨ne (by decide), ne (by decide)⟩, ne (by decide)⟩

theorem isLabel_spaced (bound : count ≤ 950) : isLabel (spaced count) := by
  have short : (spaced count).length ≤ maximalLabelLength := by
    rw [length_spaced, maximalLabelLength]
    omega
  have first : (spaced count).head?.any isMark = false := by
    rw [show (spaced count).head? = some 'a' from rfl]
    decide +kernel
  have joiners : areJoinersInPlace [] (spaced count) := areJoinersInPlace_of_ne fun _ member =>
    (isPlainLetter_of_mem_spaced (by omega : count ≤ 1000) member).noJoiner
  rw [isLabel, decide_eq_true short, first, joiners]
  rfl

theorem isForbidden_of_mem_encode (bound : count ≤ 1000)
    (member : character ∈ Punycode.encode (spaced count)) : isForbidden character = false := by
  rcases Punycode.isDigitChar_or_of_mem_encode member with digit | rfl | ⟨inLabel, _⟩
  · exact isForbidden_of_isDigitChar digit
  · decide
  · exact (isPlainLetter_of_mem_spaced bound inLabel).allowed

/-- The name is written as one label behind the four characters that announce it. -/
theorem toAscii_spaced (some : 0 < count) (bound : count ≤ 950) :
    toAscii (spaced count) =
      .some ('x' :: 'n' :: '-' :: '-' :: Punycode.encode (spaced count)) := by
  have plainLetter {character : Char} (member : character ∈ spaced count) :
      IsPlainLetter character := isPlainLetter_of_mem_spaced (by omega) member
  have normal : normalize (spaced count) = .some (spaced count) := by
    rw [normalize_of_isKept fun character member => (plainLetter member).kept,
      compose_of_isInert fun character member => (plainLetter member).inert]
  have isSplit : splitAt '.' (spaced count) = [spaced count] :=
    splitAt_of_not_mem fun member => (plainLetter member).noDot rfl
  have plain : ∀ extension, spaced count ≠ 'x' :: 'n' :: '-' :: '-' :: extension :=
    fun extension same => absurd (List.cons.inj same).1 (by decide)
  have isRead : label? (spaced count) = .some (spaced count) := by
    rw [label?_of_plain plain, isLabel_spaced bound, Bool.or_true]
    rfl
  have notBasic : (spaced count).all Punycode.isBasic = false := by
    have first : ideograph 0 ∈ spaced count :=
      List.mem_append_right _ (List.mem_map.2 ⟨0, List.mem_range.2 some, rfl⟩)
    rw [List.all_eq_false]
    refine ⟨ideograph 0, first, ?_⟩
    rw [isBasic_ideograph (by decide)]
    decide
  have written : writeLabel (spaced count) =
      'x' :: 'n' :: '-' :: '-' :: Punycode.encode (spaced count) := by
    rw [writeLabel, notBasic]
    rfl
  refine toAscii_eq_some_iff.2 ⟨spaced count, [spaced count], normal, ?_, ?_, ?_, ?_⟩
  · rw [isSplit, List.mapM_cons, isRead]
    rfl
  · rw [List.map_singleton, List.intercalate_singleton, written]
  · exact areOrdered_of_isForward (List.forall_mem_singleton.2 fun _ member =>
      (plainLetter member).forward)
  · simp only [List.any_cons, Bool.or_eq_false_iff, List.any_eq_false, Bool.not_eq_true]
    exact ⟨by decide, by decide, by decide, by decide,
      fun character member => isForbidden_of_mem_encode (by omega) member⟩

theorem dot_not_mem_writeLabel (bound : count ≤ 1000) :
    '.' ∉ 'x' :: 'n' :: '-' :: '-' :: Punycode.encode (spaced count) := by
  intro member
  have inEncoded : '.' ∈ Punycode.encode (spaced count) := by simpa using member
  rcases Punycode.isDigitChar_or_of_mem_encode inEncoded with digit | isHyphen | ⟨inLabel, _⟩
  · exact absurd digit (by decide)
  · exact absurd isHyphen (by decide)
  · exact (isPlainLetter_of_mem_spaced bound inLabel).noDot rfl

/-- The ASCII form of the label is too long to be read back. -/
theorem areShort_spaced (many : 650 ≤ count) (bound : count ≤ 950) :
    areShort ('x' :: 'n' :: '-' :: '-' :: Punycode.encode (spaced count)) = false := by
  have long : maximalExtensionLength < (Punycode.encode (spaced count)).length := by
    have length := le_length_encode (by omega : count ≤ 1000)
    rw [maximalExtensionLength]
    omega
  rw [areShort, splitAt_of_not_mem (dot_not_mem_writeLabel (by omega)), List.all_cons,
    List.all_nil, Bool.and_true, isShort, decide_eq_false (Nat.not_le.2 long)]

end Name

end Switchboard.Domain
