import Switchboard.Proofs.Domain.Mapping
import Switchboard.Proofs.Domain.Parts
import Switchboard.Proofs.Domain.Punycode

/-
This file shows that the ASCII form of a domain name is its own ASCII form, unless one of its
labels is too long to be read back.
-/

namespace Switchboard.Domain

section Inert

/-- An inert character is not taken apart, has no class and is not joined with the one before it. -/
structure IsInert (character : Char) : Prop where
  whole : decomposePair character = none
  isLetter : combiningClass character = 0
  alone (letter : Char) : composePair letter character = none

theorem composeAfter_of_isInert {letter : Char} {text : List Char}
    (inert : ∀ character ∈ text, IsInert character) :
    composeAfter letter [] text = letter :: text := by
  induction text generalizing letter with
  | nil => rfl
  | cons character text inductionHypothesis =>
      obtain ⟨first, later⟩ := List.forall_mem_cons.1 inert
      rw [composeAfter_cons, first.alone, ite_self]
      dsimp only
      rw [if_pos first.isLetter, inductionHypothesis later]
      rfl

/-- A text of inert characters is its own composed form. -/
theorem compose_of_isInert {text : List Char}
    (inert : ∀ character ∈ text, IsInert character) : compose text = text := by
  have apart : takeApart text = text :=
    takeApart_of_none fun character member => (inert character member).whole
  have ordered : text.IsChain InOrder :=
    (List.pairwise_of_forall_mem_list fun _ _ character member =>
      .inr (inert character member).isLetter).isChain
  have sorted : sortMarks [] text = [] ++ text := sortMarks_of_isChain .nil ordered
  calc compose text
      = composeAll (sortMarks [] (takeApart text)) := rfl
    _ = composeAll text := by rw [apart, sorted, List.nil_append]
    _ = text := by
      cases text with
      | nil => rfl
      | cons character text =>
          obtain ⟨first, later⟩ := List.forall_mem_cons.1 inert
          rw [composeAll, if_pos first.isLetter, composeAfter_of_isInert later]

theorem combiningClasses_large : combiningClasses.all (fun row => 0x300 ≤ row.1) = true := by
  decide +kernel

/-- ASCII characters are inert. -/
theorem isInert_of_isBasic {character : Char} (basic : Punycode.isBasic character) :
    IsInert character := by
  rw [Punycode.isBasic, decide_eq_true_eq] at basic
  refine ⟨?_, ?_, fun letter => ?_⟩
  · have noSyllable : isSyllable character.toNat = false := by
      rw [isSyllable, Bool.and_eq_false_iff, decide_eq_false_iff_not]
      omega
    rw [decomposePair, decomposeHangul_eq_none noSyllable]
    exact if_pos (by omega)
  · have none : combiningClasses.find? (fun row =>
        row.1 ≤ character.toNat && character.toNat ≤ row.2.1) = .none := by
      rw [List.find?_eq_none]
      intro row member inside
      have large := of_decide_eq_true (List.all_eq_true.1 combiningClasses_large row member)
      simp only [Bool.and_eq_true, decide_eq_true_eq] at inside
      omega
    rw [combiningClass, none]
    rfl
  · have noSyllable : composeHangul letter.toNat character.toNat = none := by
      rw [composeHangul, if_neg (by omega), if_neg (by omega)]
    rw [composePair, noSyllable]
    exact if_pos (by omega)

/-- An ASCII text is its own composed form. -/
theorem compose_of_isBasic {text : List Char}
    (basic : ∀ character ∈ text, Punycode.isBasic character) : compose text = text :=
  compose_of_isInert fun character member => isInert_of_isBasic (basic character member)

end Inert

section Normal

theorem normalize_of_isKept {text : List Char} (kept : ∀ character ∈ text, IsKept character) :
    normalize text = some (compose text) := by
  rw [normalize, mapChars_of_isKept kept]
  rfl

/-- A normal text consists of kept characters in composed form. -/
theorem isKept_of_normalize {text normal : List Char} (isNormal : normalize text = some normal) :
    (∀ character ∈ normal, IsKept character) ∧ compose normal = normal := by
  obtain ⟨mapped, isMapped, rfl⟩ := Option.map_eq_some_iff.1 isNormal
  exact ⟨isClosed_isKept.compose (isKept_of_mem_mapChars isMapped), compose_compose mapped⟩

/-- Parts without dots are composed on their own. -/
theorem compose_intercalate {parts : List (List Char)} (some : parts ≠ []) :
    compose (['.'].intercalate parts) = ['.'].intercalate (parts.map compose) := by
  induction parts with
  | nil => exact absurd rfl some
  | cons part parts inductionHypothesis =>
      cases parts with
      | nil => rw [List.intercalate_singleton, List.map_singleton, List.intercalate_singleton]
      | cons second parts =>
          rw [List.intercalate_cons_cons, List.append_assoc, List.singleton_append, compose_dot,
            inductionHypothesis (List.cons_ne_nil _ _)]
          simp only [List.map_cons, List.intercalate_cons_cons, List.append_assoc,
            List.singleton_append]

/-- The labels of a normal name are normal. -/
theorem normalize_of_mem_splitAt {text normal label : List Char}
    (isNormal : normalize text = some normal) (member : label ∈ splitAt '.' normal) :
    normalize label = some label := by
  obtain ⟨kept, composed⟩ := isKept_of_normalize isNormal
  have keptLabel : ∀ character ∈ label, IsKept character := by
    intro character inLabel
    refine kept character ?_
    rw [← intercalate_splitAt '.' normal]
    exact mem_intercalate_of_mem member inLabel
  have same : (splitAt '.' normal).map compose = splitAt '.' normal := by
    have noDots : ∀ part ∈ (splitAt '.' normal).map compose, '.' ∉ part := by
      intro part isPart isDot
      obtain ⟨source, isSource, rfl⟩ := List.mem_map.1 isPart
      refine isClosed_ne_dot.compose (fun character inSource => ?_) '.' isDot rfl
      exact fun same => not_mem_of_mem_splitAt isSource (same ▸ inSource)
    have notEmpty : (splitAt '.' normal).map compose ≠ [] := by
      rw [Ne, List.map_eq_nil_iff]
      exact splitAt_ne_nil '.' normal
    calc (splitAt '.' normal).map compose
        = splitAt '.' (['.'].intercalate ((splitAt '.' normal).map compose)) :=
          (splitAt_intercalate notEmpty noDots).symm
      _ = splitAt '.' (compose (['.'].intercalate (splitAt '.' normal))) := by
          rw [compose_intercalate (splitAt_ne_nil '.' normal)]
      _ = splitAt '.' normal := by rw [intercalate_splitAt, composed]
  have composedLabel : compose label = label :=
    List.map_inj_left.1 (same.trans (List.map_id _).symm) label member
  rw [normalize_of_isKept keptLabel, composedLabel]

end Normal

section Label

/-- A label that starts like an ASCII form is read back up to a length. -/
def isShort (label : List Char) : Bool :=
  match label with
  | 'x' :: 'n' :: '-' :: '-' :: extension => extension.length ≤ maximalExtensionLength
  | _ => true

/-- No label of a name is too long to be read back. -/
def areShort (name : List Char) : Bool := (splitAt '.' name).all isShort

theorem label?_of_plain {label : List Char}
    (plain : ∀ extension, label ≠ 'x' :: 'n' :: '-' :: '-' :: extension) :
    label? label = if label.all Punycode.isBasic || isLabel label then some label else none := by
  rw [label?.eq_def]
  split
  · next extension => exact absurd rfl (plain extension)
  · rfl

theorem isShort_of_plain {label : List Char}
    (plain : ∀ extension, label ≠ 'x' :: 'n' :: '-' :: '-' :: extension) : isShort label := by
  rw [isShort.eq_def]
  split
  · next extension => exact absurd rfl (plain extension)
  · rfl

/-- A label is read back when its ASCII form is short, and this is the form of a normal label. -/
theorem readExtension_eq_some {extension label : List Char}
    (read : readExtension extension = some label) :
    extension.length ≤ maximalExtensionLength ∧ Punycode.decode extension = some label ∧
      label.all Punycode.isBasic = false ∧ normalize label = some label ∧ isLabel label := by
  unfold readExtension at read
  split at read
  · next short =>
      split at read
      · cases read
      · next decoded isDecoded =>
          split at read
          · next right =>
              cases read
              simp only [Bool.and_eq_true, Bool.not_eq_true', decide_eq_true_eq] at right short
              exact ⟨short.2, isDecoded, right.1.1, right.1.2, right.2⟩
          · cases read
  · cases read

/-- A label that was read is normal, and it is plain ASCII or stands in its place. -/
structure IsRead (label : List Char) : Prop where
  normal : normalize label = some label
  noDot : '.' ∉ label
  plain : label.all Punycode.isBasic →
    ∀ extension, label ≠ 'x' :: 'n' :: '-' :: '-' :: extension
  inPlace : label.all Punycode.isBasic = false → isLabel label

theorem isRead_of_label? {piece label : List Char} (normal : normalize piece = some piece)
    (noDot : '.' ∉ piece) (read : label? piece = some label) : IsRead label := by
  by_cases announced : ∃ extension, piece = 'x' :: 'n' :: '-' :: '-' :: extension
  · obtain ⟨extension, rfl⟩ := announced
    obtain ⟨_, decoded, notBasic, labelNormal, inPlace⟩ := readExtension_eq_some read
    refine ⟨labelNormal, fun isDot => ?_, fun basic => ?_, fun _ => inPlace⟩
    · rcases Punycode.mem_of_decode decoded isDot with inExtension | large
      · refine noDot ?_
        exact List.mem_append_right ['x', 'n', '-', '-'] inExtension
      · exact absurd large (by decide)
    · rw [notBasic] at basic
      cases basic
  · have plain : ∀ extension, piece ≠ 'x' :: 'n' :: '-' :: '-' :: extension :=
      fun extension same => announced ⟨extension, same⟩
    rw [label?_of_plain plain] at read
    split at read
    · next right =>
        cases read
        refine ⟨normal, noDot, fun _ => plain, fun notBasic => ?_⟩
        rwa [notBasic, Bool.false_or] at right
    · cases read

theorem isBasic_of_isDigitChar {character : Char} (digit : Punycode.isDigitChar character) :
    Punycode.isBasic character := by
  simp only [Punycode.isDigitChar, Bool.or_eq_true, Bool.and_eq_true, decide_eq_true_eq] at digit
  rw [Punycode.isBasic, decide_eq_true_eq]
  omega

/-- An ASCII form is written in kept ASCII characters, and no dots are added. -/
theorem mem_writeLabel {label : List Char} (isRead : IsRead label) {character : Char}
    (member : character ∈ writeLabel label) :
    Punycode.isBasic character ∧ IsKept character ∧ character ≠ '.' := by
  have kept := (isKept_of_normalize isRead.normal).1
  have inLabel (inside : character ∈ label) : character ≠ '.' :=
    fun same => isRead.noDot (same ▸ inside)
  have ofDigit (digit : Punycode.isDigitChar character) :
      Punycode.isBasic character ∧ IsKept character ∧ character ≠ '.' := by
    refine ⟨isBasic_of_isDigitChar digit, isKept_of_ascii ?_, ?_⟩
    · simp only [Punycode.isDigitChar, Bool.or_eq_true, Bool.and_eq_true, decide_eq_true_eq]
        at digit
      omega
    · intro isDot
      rw [isDot] at digit
      exact absurd digit (by decide)
  have ofHyphen (isHyphen : character = '-') :
      Punycode.isBasic character ∧ IsKept character ∧ character ≠ '.' := by
    rw [isHyphen]
    exact ⟨by decide, isKept_of_ascii (by decide), by decide⟩
  rw [writeLabel] at member
  split at member
  · next basic =>
      exact ⟨List.all_eq_true.1 basic character member, kept character member, inLabel member⟩
  · rcases List.mem_append.1 member with inFront | inExtension
    · have front : character = 'x' ∨ character = 'n' ∨ character = '-' := by
        simpa using inFront
      rcases front with isLetter | isLetter | isHyphen
      · exact ofDigit (by rw [isLetter]; decide)
      · exact ofDigit (by rw [isLetter]; decide)
      · exact ofHyphen isHyphen
    · rcases Punycode.isDigitChar_or_of_mem_encode inExtension with digit | isHyphen | inside
      · exact ofDigit digit
      · exact ofHyphen isHyphen
      · exact ⟨inside.2, kept character inside.1, inLabel inside.1⟩

/-- The ASCII form of a label is read back unless it is too long. -/
theorem label?_writeLabel {label : List Char} (isRead : IsRead label) :
    label? (writeLabel label) = if isShort (writeLabel label) then some label else none := by
  cases basic : label.all Punycode.isBasic with
  | true =>
      rw [writeLabel, if_pos basic, if_pos (isShort_of_plain (isRead.plain basic)),
        label?_of_plain (isRead.plain basic), basic]
      rfl
  | false =>
      have written : writeLabel label = 'x' :: 'n' :: '-' :: '-' :: Punycode.encode label := by
        rw [writeLabel, basic]
        rfl
      have allBasic : (Punycode.encode label).all Punycode.isBasic := by
        rw [List.all_eq_true]
        intro character member
        have inWritten : character ∈ writeLabel label := by
          rw [written]
          exact List.mem_append_right ['x', 'n', '-', '-'] member
        exact (mem_writeLabel isRead inWritten).1
      have right : (!(label.all Punycode.isBasic) && normalize label = some label &&
          isLabel label) = true := by
        rw [basic, isRead.normal, isRead.inPlace basic]
        simp only [Bool.not_false, decide_true, Bool.and_self]
      have read : readExtension (Punycode.encode label) =
          if (Punycode.encode label).length ≤ maximalExtensionLength then some label else none := by
        rw [readExtension, allBasic, Punycode.decode_encode]
        dsimp only
        rw [if_pos right]
        simp only [Bool.true_and, decide_eq_true_eq]
      rw [written]
      refine (show label? _ = readExtension (Punycode.encode label) from rfl).trans ?_
      rw [read]
      simp only [isShort, decide_eq_true_eq]

end Label

section Whole

theorem toAscii_eq_some_iff {name ascii : List Char} :
    toAscii name = some ascii ↔
      ∃ normal labels, normalize name = some normal ∧
        (splitAt '.' normal).mapM label? = some labels ∧
        ascii = ['.'].intercalate (labels.map writeLabel) ∧
        areOrdered labels ∧ ascii.any isForbidden = false := by
  constructor
  · intro isAscii
    rw [toAscii] at isAscii
    obtain ⟨normal, isNormal, isAscii⟩ := Option.bind_eq_some_iff.1 isAscii
    obtain ⟨labels, areLabels, isAscii⟩ := Option.bind_eq_some_iff.1 isAscii
    dsimp only at isAscii
    split at isAscii
    · next right =>
        rw [Bool.and_eq_true, Bool.not_eq_true'] at right
        cases isAscii
        exact ⟨normal, labels, isNormal, areLabels, rfl, right.1, right.2⟩
    · cases isAscii
  · rintro ⟨normal, labels, isNormal, areLabels, rfl, ordered, allowed⟩
    simp only [toAscii, isNormal, areLabels, Option.bind_eq_bind, Option.bind_some, ordered,
      allowed, Bool.not_false, Bool.and_self, if_true]

/-- Such a character has no place in a label that runs from right to left. -/
def IsForward (character : Char) : Prop :=
  direction character ≠ .rightToLeft ∧ direction character ≠ .arabicNumber

theorem areOrdered_of_isForward {labels : List (List Char)}
    (forward : ∀ label ∈ labels, ∀ character ∈ label, IsForward character) :
    areOrdered labels := by
  have none : labels.any isBidirectional = false := by
    rw [List.any_eq_false]
    intro label isLabel
    rw [Bool.not_eq_true, isBidirectional, List.any_eq_false]
    intro character member
    obtain ⟨notLeft, notArabic⟩ := forward label isLabel character member
    rw [decide_eq_false notLeft, decide_eq_false notArabic]
    decide
  rw [areOrdered, none]
  rfl

/-- A plain ASCII character is kept, runs in no direction of its own and may stand in a name. -/
structure IsPlainAscii (character : Char) : Prop where
  basic : Punycode.isBasic character
  kept : IsKept character
  forward : IsForward character
  allowed : isForbidden character = false

/-- A plain ASCII name is its own ASCII form if none of its labels starts like one. -/
theorem toAscii_of_isPlainAscii {name : List Char}
    (plain : ∀ character ∈ name, IsPlainAscii character)
    (unannounced : ∀ part ∈ splitAt '.' name, ∀ extension,
      part ≠ 'x' :: 'n' :: '-' :: '-' :: extension) :
    toAscii name = some name := by
  have inside {part : List Char} (isPart : part ∈ splitAt '.' name) {character : Char}
      (member : character ∈ part) : IsPlainAscii character := by
    refine plain character ?_
    rw [← intercalate_splitAt '.' name]
    exact mem_intercalate_of_mem isPart member
  have partBasic {part : List Char} (isPart : part ∈ splitAt '.' name) :
      part.all Punycode.isBasic :=
    List.all_eq_true.2 fun _ member => (inside isPart member).basic
  have normal : normalize name = some name := by
    rw [normalize_of_isKept fun character member => (plain character member).kept,
      compose_of_isBasic fun character member => (plain character member).basic]
  have labels : ((splitAt '.' name).map id).mapM label? = some (splitAt '.' name) := by
    refine mapM_map_eq_some fun part isPart => ?_
    rw [id_eq, label?_of_plain (unannounced part isPart), partBasic isPart]
    rfl
  have written : (splitAt '.' name).map writeLabel = splitAt '.' name := by
    refine (List.map_congr_left fun part isPart => ?_).trans (List.map_id _)
    exact if_pos (partBasic isPart)
  have allowed : name.any isForbidden = false := by
    rw [List.any_eq_false]
    intro character member
    rw [(plain character member).allowed]
    decide
  rw [List.map_id] at labels
  refine toAscii_eq_some_iff.2 ⟨name, _, normal, labels, ?_,
    areOrdered_of_isForward fun _ isPart _ member => (inside isPart member).forward, allowed⟩
  rw [written, intercalate_splitAt]

/-- The labels that were read, written one after the other, are split and normal again. -/
theorem exists_labels {name ascii : List Char} (isAscii : toAscii name = some ascii) :
    ∃ labels : List (List Char), (∀ label ∈ labels, IsRead label) ∧ areOrdered labels ∧
      ascii.any isForbidden = false ∧ ascii = ['.'].intercalate (labels.map writeLabel) ∧
      splitAt '.' ascii = labels.map writeLabel := by
  obtain ⟨normal, labels, isNormal, areLabels, isJoined, ordered, allowed⟩ :=
    toAscii_eq_some_iff.1 isAscii
  have areRead : ∀ label ∈ labels, IsRead label := by
    intro label member
    obtain ⟨piece, isPiece, isLabel⟩ := exists_mem_of_mapM_eq_some areLabels member
    exact isRead_of_label? (normalize_of_mem_splitAt isNormal isPiece)
      (not_mem_of_mem_splitAt isPiece) isLabel
  refine ⟨labels, areRead, ordered, allowed, isJoined, ?_⟩
  have notEmpty : labels.map writeLabel ≠ [] := by
    have positive := List.length_pos_iff.2 (splitAt_ne_nil '.' normal)
    rw [← length_of_mapM_eq_some areLabels] at positive
    rw [Ne, List.map_eq_nil_iff]
    exact List.length_pos_iff.1 positive
  rw [isJoined]
  refine splitAt_intercalate notEmpty fun part isPart isDot => ?_
  obtain ⟨label, isLabel, rfl⟩ := List.mem_map.1 isPart
  exact (mem_writeLabel (areRead label isLabel) isDot).2.2 rfl

/-- The ASCII form of a name is normal and has ASCII characters only. -/
theorem mem_toAscii {name ascii : List Char} (isAscii : toAscii name = some ascii)
    {character : Char} (member : character ∈ ascii) :
    Punycode.isBasic character ∧ IsKept character ∧ isForbidden character = false := by
  obtain ⟨labels, areRead, _, allowed, isJoined, _⟩ := exists_labels isAscii
  have notForbidden : isForbidden character = false := by
    have none := List.any_eq_false.1 allowed character member
    exact Bool.eq_false_of_not_eq_true none
  rw [isJoined] at member
  rcases mem_intercalate member with isDot | ⟨part, isPart, inPart⟩
  · exact ⟨by rw [isDot]; decide, isKept_of_ascii (.inl (by rw [isDot]; decide)), notForbidden⟩
  · obtain ⟨label, isLabel, rfl⟩ := List.mem_map.1 isPart
    obtain ⟨basic, kept, _⟩ := mem_writeLabel (areRead label isLabel) inPart
    exact ⟨basic, kept, notForbidden⟩

/-- The ASCII form of a name is its own ASCII form unless a label is too long to be read back. -/
theorem toAscii_of_toAscii {name ascii : List Char} (isAscii : toAscii name = some ascii) :
    toAscii ascii = if areShort ascii then some ascii else none := by
  obtain ⟨labels, areRead, ordered, allowed, isJoined, isSplit⟩ := exists_labels isAscii
  have normal : normalize ascii = some ascii := by
    rw [normalize_of_isKept fun character member => (mem_toAscii isAscii member).2.1,
      compose_of_isBasic fun character member => (mem_toAscii isAscii member).1]
  split
  · next short =>
      rw [areShort, isSplit, List.all_eq_true] at short
      refine toAscii_eq_some_iff.2 ⟨ascii, labels, normal, ?_, isJoined, ordered, allowed⟩
      rw [isSplit]
      refine mapM_map_eq_some fun label member => ?_
      rw [label?_writeLabel (areRead label member),
        if_pos (short _ (List.mem_map.2 ⟨label, member, rfl⟩))]
  · next long =>
      rw [areShort, isSplit, Bool.not_eq_true, List.all_eq_false] at long
      obtain ⟨written, isWritten, tooLong⟩ := long
      obtain ⟨label, member, rfl⟩ := List.mem_map.1 isWritten
      have none : label? (writeLabel label) = .none := by
        rw [label?_writeLabel (areRead label member), if_neg tooLong]
      rw [toAscii, normal, Option.bind_eq_bind, Option.bind_some, isSplit,
        mapM_eq_none isWritten none]
      rfl

end Whole

end Switchboard.Domain
