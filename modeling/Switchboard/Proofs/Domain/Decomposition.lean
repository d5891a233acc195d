import Mathlib.Data.List.Nodup
import Switchboard.Domain.Composition

/-
This file shows that a composite is taken apart into the letter and the mark that compose it, and
that three levels are enough to take every character apart.
-/

namespace Switchboard.Domain

section Codes

/-- A set of codes is held in the bits of one number. -/
def bits : List Nat → Nat
  | [] => 0
  | code :: codes => bits codes ||| 1 <<< code

theorem testBit_bits {codes : List Nat} {code : Nat} :
    (bits codes).testBit code = true ↔ code ∈ codes := by
  induction codes with
  | nil => simp [bits]
  | cons first codes inductionHypothesis =>
      rw [bits, Nat.testBit_or, Bool.or_eq_true, inductionHypothesis, List.mem_cons,
        Nat.one_shiftLeft, Nat.testBit_two_pow, decide_eq_true_eq, or_comm]
      exact or_congr_left eq_comm

/-- No code occurs twice when every code is new to the ones before it. -/
def areNew (seen : Nat) : List Nat → Bool
  | [] => true
  | code :: codes => !seen.testBit code && areNew (seen ||| 1 <<< code) codes

theorem nodup_of_areNew {seen : Nat} {codes : List Nat} (new : areNew seen codes) :
    codes.Nodup ∧ ∀ code ∈ codes, seen.testBit code = false := by
  induction codes generalizing seen with
  | nil => exact ⟨List.nodup_nil, fun _ absent => absurd absent List.not_mem_nil⟩
  | cons first codes inductionHypothesis =>
      rw [areNew, Bool.and_eq_true, Bool.not_eq_true'] at new
      obtain ⟨distinct, unseen⟩ := inductionHypothesis new.2
      have apart (code : Nat) (member : code ∈ codes) :
          seen.testBit code = false ∧ code ≠ first := by
        have neither := unseen code member
        rw [Nat.testBit_or, Bool.or_eq_false_iff, Nat.one_shiftLeft, Nat.testBit_two_pow,
          decide_eq_false_iff_not] at neither
        exact ⟨neither.1, Ne.symm neither.2⟩
      refine ⟨List.nodup_cons.2 ⟨fun again => (apart first again).2 rfl, distinct⟩, ?_⟩
      exact List.forall_mem_cons.2 ⟨new.1, fun code member => (apart code member).1⟩

end Codes

section Table

/-- These codes belong to syllables, which no table names. -/
def isSyllable (code : Nat) : Bool := 0xAC00 ≤ code && code < 0xD7A4

/-- These codes belong to the leading, the middle and the trailing parts of syllables. -/
def isSyllablePart (code : Nat) : Bool :=
  (0x1100 ≤ code && code ≤ 0x1112) || (0x1161 ≤ code && code ≤ 0x1175) ||
    (0x11A8 ≤ code && code ≤ 0x11C2)

theorem isSyllable_iff {code : Nat} : isSyllable code ↔ 0xAC00 ≤ code ∧ code < 0xD7A4 := by
  rw [isSyllable, Bool.and_eq_true, decide_eq_true_eq, decide_eq_true_eq]

theorem isSyllablePart_iff {code : Nat} :
    isSyllablePart code ↔
      ((0x1100 ≤ code ∧ code ≤ 0x1112) ∨ (0x1161 ≤ code ∧ code ≤ 0x1175)) ∨
        (0x11A8 ≤ code ∧ code ≤ 0x11C2) := by
  simp only [isSyllablePart, Bool.or_eq_true, Bool.and_eq_true, decide_eq_true_eq]

def compositeCodes (rows : List (Char × Char × Char)) : List Nat :=
  rows.map fun row => row.2.2.toNat

/-- These rows name letters that some of the given rows compose. -/
def above (rows some : List (Char × Char × Char)) : List (Char × Char × Char) :=
  rows.filter fun row => (bits (compositeCodes some)).testBit row.1.toNat

/-- A mark is taken apart no further, and a dot takes part in nothing. -/
def isPlainRow (composed : Nat) (row : Char × Char × Char) : Bool :=
  !isSyllable row.1.toNat && row.1.toNat ≠ 0x2E &&
    (!composed.testBit row.2.1.toNat && !isSyllable row.2.1.toNat && 0x300 ≤ row.2.1.toNat) &&
    (!isSyllable row.2.2.toNat && !isSyllablePart row.2.2.toNat && 0xC0 ≤ row.2.2.toNat)

/-- No composite is named twice, and no letter is composed of more than three marks. -/
def isTable (rows : List (Char × Char × Char)) : Bool :=
  areNew 0 (compositeCodes rows) && rows.all (isPlainRow (bits (compositeCodes rows))) &&
    above rows (above rows (above rows rows)) = []

def spell (row : Nat × String) : Nat × List Char := (row.1, row.2.toList)

def spelledComposites (rows : List (Nat × List Char)) : List (Char × Char × Char) :=
  rows.flatMap fun row => (pairUp row.2).map fun pair => (pair.1, Char.ofNat row.1, pair.2)

theorem composites_eq_spelled :
    composites = spelledComposites (compositeRows.map spell) := by
  rw [composites, spelledComposites, List.flatMap_map]
  rfl

/-- The letters of a row are named one by one. -/
theorem map_spell_cons {mark : Nat} {letters : List Char} {rows : List (Nat × String)}
    {spelled : List (Nat × List Char)} (same : rows.map spell = spelled) :
    ((mark, String.ofList letters) :: rows).map spell = (mark, letters) :: spelled := by
  rw [List.map_cons, same, spell, String.toList_ofList]

theorem check_composites {check : List (Char × Char × Char) → Bool}
    {spelled : List (Nat × List Char)} (same : compositeRows.map spell = spelled)
    (checked : check (spelledComposites spelled) = true) : check composites = true := by
  rw [composites_eq_spelled, same, checked]

set_option maxRecDepth 4000 in
theorem isTable_composites : isTable composites = true := by
  -- The letters are listed first, because the kernel is slow to read them from a text.
  apply check_composites
  · repeat' first | exact List.map_nil | apply map_spell_cons
  · decide +kernel

end Table

section Syllables

theorem toNat_ofNat {code : Nat} (valid : code.isValidChar) : (Char.ofNat code).toNat = code := by
  rw [Char.ofNat, dif_pos valid]
  rfl

theorem decomposeHangul_of_composeHangul {first second code : Nat}
    (composed : composeHangul first second = some code) :
    decomposeHangul code = some (first, second) := by
  rw [composeHangul] at composed
  split at composed
  · next parts =>
      rw [← Option.some.inj composed]
      rw [decomposeHangul, if_pos (by omega), if_pos (by omega), Option.some.injEq, Prod.mk.injEq]
      omega
  · split at composed
    · next parts =>
        rw [← Option.some.inj composed]
        rw [decomposeHangul, if_pos (by omega), if_neg (by omega), Option.some.injEq,
          Prod.mk.injEq]
        omega
    · cases composed

theorem decomposeHangul_eq_none {code : Nat} (noSyllable : isSyllable code = false) :
    decomposeHangul code = none := by
  rw [isSyllable, Bool.and_eq_false_iff, decide_eq_false_iff_not, decide_eq_false_iff_not]
    at noSyllable
  exact if_neg (by omega)

theorem isSyllable_of_decomposeHangul {code first second : Nat}
    (taken : decomposeHangul code = some (first, second)) : isSyllable code := by
  cases syllable : isSyllable code with
  | true => rfl
  | false =>
      rw [decomposeHangul_eq_none syllable] at taken
      cases taken

/-- A syllable has two parts, or three of which the first two are a syllable again. -/
theorem parts_of_decomposeHangul {code first second : Nat}
    (taken : decomposeHangul code = some (first, second)) :
    isSyllablePart second ∧
      (isSyllablePart first ∨
        (isSyllable first ∧ ∃ leading vowel, decomposeHangul first = some (leading, vowel) ∧
          isSyllablePart leading ∧ isSyllablePart vowel)) := by
  rw [decomposeHangul] at taken
  split at taken
  · next syllable =>
      dsimp only at taken
      split at taken
      · next two =>
          rw [Option.some.injEq, Prod.mk.injEq] at taken
          rw [← taken.1, ← taken.2]
          exact ⟨isSyllablePart_iff.2 (by omega), .inl (isSyllablePart_iff.2 (by omega))⟩
      · next three =>
          rw [Option.some.injEq, Prod.mk.injEq] at taken
          rw [← taken.1, ← taken.2]
          refine ⟨?_, .inr ⟨?_, 0x1100 + (code - (code - 0xAC00) % 28 - 0xAC00) / 588,
            0x1161 + (code - (code - 0xAC00) % 28 - 0xAC00) % 588 / 28, ?_, ?_, ?_⟩⟩
          · rw [isSyllablePart_iff]
            omega
          · rw [isSyllable_iff]
            omega
          · rw [decomposeHangul, if_pos (by omega), if_pos (by omega)]
          · rw [isSyllablePart_iff]
            omega
          · rw [isSyllablePart_iff]
            omega
  · cases taken

theorem isValidChar_of_isSyllable {code : Nat} (syllable : isSyllable code) : code.isValidChar := by
  rw [isSyllable_iff] at syllable
  exact .inl (by omega)

theorem isValidChar_of_isSyllablePart {code : Nat} (part : isSyllablePart code) :
    code.isValidChar := by
  rw [isSyllablePart_iff] at part
  exact .inl (by omega)

end Syllables

section Pairs

variable {letter mark composite character : Char}

/-- What the rows say about the parts of every composite. -/
structure IsPlain (letter mark composite : Char) : Prop where
  letterNoSyllable : isSyllable letter.toNat = false
  letterNoDot : letter.toNat ≠ 0x2E
  markNew : mark.toNat ∉ compositeCodes composites
  markNoSyllable : isSyllable mark.toNat = false
  markLarge : 0x300 ≤ mark.toNat
  noSyllable : isSyllable composite.toNat = false
  noPart : isSyllablePart composite.toNat = false
  large : 0xC0 ≤ composite.toNat

theorem isPlain_of_mem (member : (letter, mark, composite) ∈ composites) :
    IsPlain letter mark composite := by
  have table := isTable_composites
  rw [isTable, Bool.and_eq_true, Bool.and_eq_true] at table
  have plain := List.all_eq_true.1 table.1.2 _ member
  simp only [isPlainRow, Bool.and_eq_true, Bool.not_eq_true', decide_eq_true_eq] at plain
  obtain ⟨⟨⟨letterNone, letterNoDot⟩, ⟨markNew, markNone⟩, markLarge⟩, ⟨none, noPart⟩, large⟩ :=
    plain
  refine ⟨letterNone, letterNoDot, fun again => ?_, markNone, markLarge, none, noPart, large⟩
  rw [testBit_bits.2 again] at markNew
  cases markNew

theorem decomposePair_eq_none (noSyllable : isSyllable character.toNat = false)
    (new : character.toNat ∉ compositeCodes composites) : decomposePair character = none := by
  have absent : composites.find? (fun row => row.2.2 = character) = none := by
    rw [List.find?_eq_none]
    intro row member found
    rw [decide_eq_true_eq] at found
    exact new (List.mem_map.2 ⟨row, member, congrArg Char.toNat found⟩)
  rw [decomposePair, decomposeHangul_eq_none noSyllable, absent]
  exact ite_self _

theorem decomposePair_of_isSyllablePart (part : isSyllablePart character.toNat) :
    decomposePair character = none := by
  refine decomposePair_eq_none ?_ fun again => ?_
  · rw [isSyllablePart_iff] at part
    simp only [isSyllable, Bool.and_eq_false_iff, decide_eq_false_iff_not]
    omega
  · obtain ⟨⟨first, second, third⟩, member, same⟩ := List.mem_map.1 again
    have noPart := (isPlain_of_mem member).noPart
    rw [same, part] at noPart
    cases noPart

/-- No composite is named by two rows. -/
theorem find?_composites (member : (letter, mark, composite) ∈ composites) :
    composites.find? (fun row => row.2.2 = composite) = some (letter, mark, composite) := by
  have table := isTable_composites
  rw [isTable, Bool.and_eq_true, Bool.and_eq_true] at table
  have distinct := (nodup_of_areNew table.1.1).1
  have found : (composites.find? (fun row => row.2.2 = composite)).isSome :=
    List.find?_isSome.2 ⟨_, member, decide_eq_true rfl⟩
  obtain ⟨row, isRow⟩ := Option.isSome_iff_exists.1 found
  have named := List.find?_some isRow
  rw [decide_eq_true_eq] at named
  have same : row.2.2.toNat = composite.toNat := congrArg Char.toNat named
  rw [isRow, List.inj_on_of_nodup_map distinct (List.mem_of_find?_eq_some isRow) member same]

theorem decomposePair_of_mem (member : (letter, mark, composite) ∈ composites) :
    decomposePair composite = some (letter, mark) := by
  have plain := isPlain_of_mem member
  rw [decomposePair, decomposeHangul_eq_none plain.noSyllable]
  dsimp only
  rw [if_neg (Nat.not_lt.2 plain.large), find?_composites member]
  rfl

/-- A composite is taken apart into the two characters that compose it. -/
theorem decomposePair_of_composePair (composed : composePair letter mark = some composite) :
    decomposePair composite = some (letter, mark) := by
  rw [composePair] at composed
  split at composed
  · next code isCode =>
      cases composed
      have taken := decomposeHangul_of_composeHangul isCode
      have valid := isValidChar_of_isSyllable (isSyllable_of_decomposeHangul taken)
      rw [decomposePair, toNat_ofNat valid, taken]
      dsimp only
      rw [Char.ofNat_toNat, Char.ofNat_toNat]
  · split at composed
    · cases composed
    · obtain ⟨⟨first, second, third⟩, isRow, isComposite⟩ := Option.map_eq_some_iff.1 composed
      have parts := List.find?_some isRow
      have member := List.mem_of_find?_eq_some isRow
      rw [decide_eq_true_eq] at parts
      dsimp only at parts isComposite
      rw [parts.1, parts.2, isComposite] at member
      exact decomposePair_of_mem member

/-- A character is taken apart as a syllable or as a row says. -/
theorem decomposePair_eq_some (taken : decomposePair character = some (letter, mark)) :
    (∃ first second, decomposeHangul character.toNat = some (first, second) ∧
        letter = Char.ofNat first ∧ mark = Char.ofNat second) ∨
      (letter, mark, character) ∈ composites := by
  rw [decomposePair] at taken
  split at taken
  · next first second syllable =>
      cases taken
      exact .inl ⟨first, second, syllable, rfl, rfl⟩
  · split at taken
    · cases taken
    · obtain ⟨⟨first, second, third⟩, isRow, parts⟩ := Option.map_eq_some_iff.1 taken
      have same := List.find?_some isRow
      have member := List.mem_of_find?_eq_some isRow
      rw [decide_eq_true_eq] at same
      cases parts
      dsimp only at same
      rw [same] at member
      exact .inr member

/-- The mark that is taken off is not taken apart. -/
theorem decomposePair_mark (taken : decomposePair character = some (letter, mark)) :
    decomposePair mark = none := by
  rcases decomposePair_eq_some taken with ⟨first, second, syllable, _, isMark⟩ | member
  · have part := (parts_of_decomposeHangul syllable).1
    rw [isMark]
    refine decomposePair_of_isSyllablePart ?_
    rwa [toNat_ofNat (isValidChar_of_isSyllablePart part)]
  · have plain := isPlain_of_mem member
    exact decomposePair_eq_none plain.markNoSyllable plain.markNew

end Pairs

section Levels

variable {letter mark character : Char} {levels : Nat}

/-- After this many levels nothing of a character is left to take apart. -/
def Settles (levels : Nat) (character : Char) : Prop :=
  ∀ part ∈ decomposeChar levels character, decomposePair part = none

theorem decomposeChar_of_none (none : decomposePair character = .none) (levels : Nat) :
    decomposeChar levels character = [character] := by
  cases levels with
  | zero => rfl
  | succ levels => rw [decomposeChar, none]

theorem settles_of_none (none : decomposePair character = .none) (levels : Nat) :
    Settles levels character := by
  rw [Settles, decomposeChar_of_none none]
  exact List.forall_mem_singleton.2 none

theorem settles_succ (taken : decomposePair character = some (letter, mark))
    (settled : Settles levels letter) : Settles (levels + 1) character := by
  rw [Settles, decomposeChar, taken]
  refine List.forall_mem_append.2 ⟨settled, ?_⟩
  exact List.forall_mem_singleton.2 (decomposePair_mark taken)

/-- More levels change nothing any more. -/
theorem decomposeChar_succ (settled : Settles levels character) :
    decomposeChar (levels + 1) character = decomposeChar levels character := by
  induction levels generalizing character with
  | zero => exact decomposeChar_of_none (settled character List.mem_cons_self) 1
  | succ levels inductionHypothesis =>
      cases taken : decomposePair character with
      | none => rw [decomposeChar_of_none taken, decomposeChar_of_none taken]
      | some parts =>
          rw [Settles, decomposeChar, taken] at settled
          rw [decomposeChar, taken, decomposeChar, taken]
          dsimp only
          rw [inductionHypothesis fun part member =>
            settled part (List.mem_append_left _ member)]

theorem Settles.succ (settled : Settles levels character) : Settles (levels + 1) character := by
  rw [Settles, decomposeChar_succ settled]
  exact settled

/-- The rows whose letters are that many levels above the lowest ones. -/
def rowsAbove : Nat → List (Char × Char × Char)
  | 0 => composites
  | levels + 1 => above composites (rowsAbove levels)

/-- Characters that no row composes on these levels settle within them. -/
theorem settles_of_not_mem (noSyllable : isSyllable character.toNat = false)
    (absent : character.toNat ∉ compositeCodes (rowsAbove levels)) : Settles levels character := by
  induction levels generalizing character with
  | zero => exact settles_of_none (decomposePair_eq_none noSyllable absent) 0
  | succ levels inductionHypothesis =>
      cases taken : decomposePair character with
      | none => exact settles_of_none taken _
      | some parts =>
          obtain ⟨letter, mark⟩ := parts
          rcases decomposePair_eq_some taken with ⟨_, _, syllable, _, _⟩ | member
          · rw [decomposeHangul_eq_none noSyllable] at syllable
            cases syllable
          · refine settles_succ taken (inductionHypothesis ?_ fun again => absent ?_)
            · exact (isPlain_of_mem member).letterNoSyllable
            · exact List.mem_map.2 ⟨_, List.mem_filter.2 ⟨member, testBit_bits.2 again⟩, rfl⟩

theorem rowsAbove_three : rowsAbove 3 = [] := by
  have table := isTable_composites
  rw [isTable, Bool.and_eq_true, Bool.and_eq_true, decide_eq_true_eq] at table
  exact table.2

/-- A part of a syllable is taken apart no further. -/
theorem decomposePair_ofNat {code : Nat} (part : isSyllablePart code) :
    decomposePair (Char.ofNat code) = none := by
  refine decomposePair_of_isSyllablePart ?_
  rwa [toNat_ofNat (isValidChar_of_isSyllablePart part)]

theorem decomposePair_of_decomposeHangul {first second : Nat}
    (taken : decomposeHangul character.toNat = some (first, second)) :
    decomposePair character = some (Char.ofNat first, Char.ofNat second) := by
  rw [decomposePair, taken]

/-- Three levels take every character apart. -/
theorem settles_three (character : Char) : Settles 3 character := by
  cases taken : decomposeHangul character.toNat with
  | some parts =>
      obtain ⟨first, second⟩ := parts
      refine settles_succ (decomposePair_of_decomposeHangul taken) ?_
      rcases (parts_of_decomposeHangul taken).2 with
        part | ⟨syllable, leading, vowel, again, part, _⟩
      · exact settles_of_none (decomposePair_ofNat part) 2
      · rw [← toNat_ofNat (isValidChar_of_isSyllable syllable)] at again
        refine settles_succ (decomposePair_of_decomposeHangul again) ?_
        exact settles_of_none (decomposePair_ofNat part) 1
  | none =>
      cases syllable : isSyllable character.toNat with
      | true =>
          rw [isSyllable_iff] at syllable
          rw [decomposeHangul, if_pos syllable] at taken
          dsimp only at taken
          split at taken <;> cases taken
      | false =>
          refine settles_of_not_mem syllable ?_
          rw [rowsAbove_three]
          exact List.not_mem_nil

/-- A composite has the parts of its letter, and its mark behind them. -/
theorem decomposeChar_of_composePair {composite : Char}
    (composed : composePair letter mark = some composite) :
    decomposeChar 3 composite = decomposeChar 3 letter ++ [mark] := by
  have taken := decomposePair_of_composePair composed
  have settled : Settles 2 letter := by
    have whole := settles_three composite
    rw [Settles, decomposeChar, taken] at whole
    exact fun part member => whole part (List.mem_append_left _ member)
  rw [decomposeChar, taken]
  dsimp only
  rw [decomposeChar_succ settled]

end Levels

end Switchboard.Domain
