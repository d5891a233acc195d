import Mathlib.Data.List.Chain
import Switchboard.Proofs.Domain.Decomposition

/-
This file shows that composing a composed text changes nothing, and that dots part a text into
pieces that are composed on their own.
-/

namespace Switchboard.Domain

section Marks

variable {character first second : Char} {held rest : List Char}

theorem insertMark_of_passes
    (passes : combiningClass first ≤ combiningClass character ∨ combiningClass first = 0) :
    insertMark character (first :: rest) = first :: insertMark character rest := if_pos passes

theorem insertMark_of_stays
    (stays : ¬ (combiningClass first ≤ combiningClass character ∨ combiningClass first = 0)) :
    insertMark character (first :: rest) = character :: first :: rest := if_neg stays

/-- Marks of different classes may be inserted in either order. -/
theorem insertMark_comm (less : combiningClass first < combiningClass second)
    (held : List Char) :
    insertMark second (insertMark first held) = insertMark first (insertMark second held) := by
  have firstPasses : combiningClass first ≤ combiningClass second ∨ combiningClass first = 0 :=
    .inl (Nat.le_of_lt less)
  have secondStays : ¬ (combiningClass second ≤ combiningClass first ∨
      combiningClass second = 0) := by omega
  induction held with
  | nil =>
      rw [insertMark, insertMark_of_passes firstPasses, insertMark,
        insertMark_of_stays secondStays]
  | cons character held inductionHypothesis =>
      by_cases passesFirst : combiningClass character ≤ combiningClass first ∨
          combiningClass character = 0
      · have passesSecond : combiningClass character ≤ combiningClass second ∨
            combiningClass character = 0 := by omega
        rw [insertMark_of_passes passesFirst, insertMark_of_passes passesSecond,
          insertMark_of_passes passesSecond, insertMark_of_passes passesFirst,
          inductionHypothesis]
      · rw [insertMark_of_stays passesFirst, insertMark_of_passes firstPasses]
        by_cases passesSecond : combiningClass character ≤ combiningClass second ∨
            combiningClass character = 0
        · rw [insertMark_of_passes passesSecond, insertMark_of_stays passesFirst]
        · rw [insertMark_of_stays passesSecond, insertMark_of_stays secondStays]

theorem mem_insertMark : first ∈ insertMark character held ↔ first = character ∨ first ∈ held := by
  induction held with
  | nil => rw [insertMark, List.mem_singleton, List.mem_nil_iff, or_false]
  | cons other held inductionHypothesis =>
      rw [insertMark]
      split
      · rw [List.mem_cons, inductionHypothesis, List.mem_cons]
        exact or_left_comm
      · exact List.mem_cons

/-- Ascending classes stay ascending. -/
theorem pairwise_insertMark (character : Char)
    (ascending : held.Pairwise fun first second => combiningClass first ≤ combiningClass second) :
    (insertMark character held).Pairwise
      fun first second => combiningClass first ≤ combiningClass second := by
  induction held with
  | nil => exact List.pairwise_singleton _ _
  | cons other held inductionHypothesis =>
      obtain ⟨least, later⟩ := List.pairwise_cons.1 ascending
      by_cases passes : combiningClass other ≤ combiningClass character ∨ combiningClass other = 0
      · rw [insertMark_of_passes passes]
        refine List.pairwise_cons.2 ⟨fun mark member => ?_, inductionHypothesis later⟩
        rcases mem_insertMark.1 member with isCharacter | isHeld
        · rw [isCharacter]
          omega
        · exact least mark isHeld
      · rw [insertMark_of_stays passes]
        have smaller : combiningClass character ≤ combiningClass other := by omega
        refine List.pairwise_cons.2 ⟨List.forall_mem_cons.2 ⟨smaller, fun mark member => ?_⟩,
          ascending⟩
        exact Nat.le_trans smaller (least mark member)

theorem insertMark_of_forall_le
    (greatest : ∀ mark ∈ held, combiningClass mark ≤ combiningClass character) :
    insertMark character held = held ++ [character] := by
  induction held with
  | nil => rfl
  | cons other held inductionHypothesis =>
      obtain ⟨passes, later⟩ := List.forall_mem_cons.1 greatest
      rw [insertMark_of_passes (.inl passes), inductionHypothesis later, List.cons_append]

end Marks

section Order

variable {text other : List Char}

/-- A mark does not stand behind one of a higher class. -/
def InOrder (first second : Char) : Prop :=
  combiningClass first ≤ combiningClass second ∨ combiningClass second = 0

/-- A letter stays in front of the marks that follow it. -/
theorem sortMarks_letter {letter : Char} (isLetter : combiningClass letter = 0)
    (held rest : List Char) :
    sortMarks (letter :: held) rest = letter :: sortMarks held rest := by
  induction rest generalizing held with
  | nil => rfl
  | cons character rest inductionHypothesis =>
      rw [sortMarks, sortMarks]
      split
      · rfl
      · rw [insertMark_of_passes (.inr isLetter), inductionHypothesis]

theorem mem_sortMarks {character : Char} {held rest : List Char}
    (member : character ∈ sortMarks held rest) : character ∈ held ∨ character ∈ rest := by
  induction rest generalizing held with
  | nil => exact .inl member
  | cons first rest inductionHypothesis =>
      rw [sortMarks] at member
      split at member
      · rcases List.mem_append.1 member with isHeld | later
        · exact .inl isHeld
        · rcases inductionHypothesis later with isFirst | inRest
          · exact .inr (List.mem_cons.2 (.inl (List.mem_singleton.1 isFirst)))
          · exact .inr (List.mem_cons_of_mem _ inRest)
      · rcases inductionHypothesis member with isHeld | inRest
        · rcases mem_insertMark.1 isHeld with isFirst | isHeld
          · exact .inr (List.mem_cons.2 (.inl isFirst))
          · exact .inl isHeld
        · exact .inr (List.mem_cons_of_mem _ inRest)

/-- Sorted marks are in order. -/
theorem isChain_sortMarks {held : List Char} (rest : List Char)
    (ascending : held.Pairwise fun first second => combiningClass first ≤ combiningClass second) :
    (sortMarks held rest).IsChain InOrder := by
  induction rest generalizing held with
  | nil => exact (ascending.imp fun less => .inl less).isChain
  | cons character rest inductionHypothesis =>
      rw [sortMarks]
      split
      · next isLetter =>
          have later := inductionHypothesis (List.pairwise_singleton _ character)
          refine (ascending.imp fun less => .inl less).isChain.append later ?_
          rw [sortMarks_letter isLetter]
          intro last _ first isFirst
          rw [List.head?_cons, Option.mem_some_iff] at isFirst
          rw [← isFirst]
          exact .inr isLetter
      · exact inductionHypothesis (pairwise_insertMark character ascending)

/-- Marks in order are not moved. -/
theorem sortMarks_of_isChain {held rest : List Char}
    (ascending : held.Pairwise fun first second => combiningClass first ≤ combiningClass second)
    (ordered : (held ++ rest).IsChain InOrder) : sortMarks held rest = held ++ rest := by
  induction rest generalizing held with
  | nil => rw [sortMarks, List.append_nil]
  | cons character rest inductionHypothesis =>
      rw [sortMarks]
      split
      · rw [inductionHypothesis (List.pairwise_singleton _ character) ordered.right_of_append]
        rfl
      · next isMark =>
          have greatest : ∀ mark ∈ held, combiningClass mark ≤ combiningClass character := by
            cases held using List.reverseRecOn with
            | nil => exact fun _ absent => absurd absent List.not_mem_nil
            | append_singleton held last _ =>
                obtain ⟨_, _, boundary⟩ := List.isChain_append.1 ordered
                have atEnd : InOrder last character :=
                  boundary last (List.getLast?_concat) character rfl
                have bound : combiningClass last ≤ combiningClass character :=
                  atEnd.resolve_right isMark
                rw [List.pairwise_append] at ascending
                refine List.forall_mem_append.2 ⟨fun mark member => ?_, ?_⟩
                · have before := ascending.2.2 mark member last List.mem_cons_self
                  exact Nat.le_trans before bound
                · exact List.forall_mem_singleton.2 bound
          have inserted := insertMark_of_forall_le greatest
          have stillAscending := pairwise_insertMark character ascending
          rw [inserted] at stillAscending
          rw [inserted, inductionHypothesis stillAscending (by rwa [List.append_assoc]),
            List.append_assoc]
          rfl

/-- Marks alone are in order when their classes ascend. -/
theorem pairwise_of_isChain (marks : ∀ mark ∈ text, combiningClass mark ≠ 0)
    (ordered : text.IsChain InOrder) :
    text.Pairwise fun first second => combiningClass first ≤ combiningClass second := by
  induction text with
  | nil => exact .nil
  | cons first text inductionHypothesis =>
      obtain ⟨_, laterMarks⟩ := List.forall_mem_cons.1 marks
      obtain ⟨next, laterOrdered⟩ := List.isChain_cons.1 ordered
      have ascending := inductionHypothesis laterMarks laterOrdered
      refine List.pairwise_cons.2 ⟨?_, ascending⟩
      cases text with
      | nil => exact fun _ absent => absurd absent List.not_mem_nil
      | cons second text =>
          have bound : combiningClass first ≤ combiningClass second :=
            (next second rfl).resolve_right (laterMarks second List.mem_cons_self)
          refine List.forall_mem_cons.2 ⟨bound, fun mark member => ?_⟩
          exact Nat.le_trans bound ((List.pairwise_cons.1 ascending).1 mark member)

/-- One text may stand for the other before the marks are sorted. -/
def Reorders (text other : List Char) : Prop :=
  ∀ held rest, sortMarks held (text ++ rest) = sortMarks held (other ++ rest)

theorem Reorders.refl (text : List Char) : Reorders text text := fun _ _ => rfl

theorem Reorders.trans {third : List Char} (first : Reorders text other)
    (second : Reorders other third) : Reorders text third :=
  fun held rest => (first held rest).trans (second held rest)

theorem Reorders.symm (same : Reorders text other) : Reorders other text :=
  fun held rest => (same held rest).symm

theorem Reorders.append_right (same : Reorders text other) (rest : List Char) :
    Reorders (text ++ rest) (other ++ rest) := by
  intro held more
  rw [List.append_assoc, List.append_assoc, same]

theorem Reorders.append_left (same : Reorders text other) (before : List Char) :
    Reorders (before ++ text) (before ++ other) := by
  intro held more
  induction before generalizing held with
  | nil => exact same held more
  | cons character before inductionHypothesis =>
      rw [List.cons_append, List.cons_append, List.cons_append, List.cons_append, sortMarks,
        sortMarks, inductionHypothesis, inductionHypothesis]

theorem reorders_swap {first second : Char} (less : combiningClass first < combiningClass second)
    (isMark : combiningClass first ≠ 0) : Reorders [first, second] [second, first] := by
  intro held rest
  have alsoMark : combiningClass second ≠ 0 := by omega
  simp only [List.cons_append, List.nil_append, sortMarks, if_neg isMark, if_neg alsoMark,
    insertMark_comm less]

/-- A mark may go in front of marks of lower classes. -/
theorem reorders_front {mark : Char} {marks : List Char}
    (less : ∀ other ∈ marks, combiningClass other ≠ 0 ∧
      combiningClass other < combiningClass mark) :
    Reorders (marks ++ [mark]) (mark :: marks) := by
  induction marks with
  | nil => exact .refl _
  | cons other marks inductionHypothesis =>
      obtain ⟨⟨isMark, smaller⟩, later⟩ := List.forall_mem_cons.1 less
      have moved : Reorders (other :: marks ++ [mark]) (other :: mark :: marks) :=
        (inductionHypothesis later).append_left [other]
      exact moved.trans ((reorders_swap smaller isMark).append_right marks)

end Order

section Compose

/-- Every character is taken apart on its own. -/
def takeApart (text : List Char) : List Char := text.flatMap (decomposeChar 3)

theorem takeApart_append (text other : List Char) :
    takeApart (text ++ other) = takeApart text ++ takeApart other := List.flatMap_append

theorem takeApart_of_none {text : List Char}
    (none : ∀ character ∈ text, decomposePair character = none) : takeApart text = text := by
  induction text with
  | nil => rfl
  | cons character text inductionHypothesis =>
      obtain ⟨head, tail⟩ := List.forall_mem_cons.1 none
      have rest := inductionHypothesis tail
      rw [takeApart] at rest
      rw [takeApart, List.flatMap_cons, decomposeChar_of_none head, rest]
      rfl

theorem decomposePair_of_mem_takeApart {text : List Char} {character : Char}
    (member : character ∈ takeApart text) : decomposePair character = none := by
  obtain ⟨source, _, part⟩ := List.mem_flatMap.1 member
  exact settles_three source character part

/-- Marks that are held back and not joined do not stand in the way of a mark of a higher class. -/
def isFree (held : List Char) (character : Char) : Bool :=
  match held with
  | [] => true
  | last :: _ => combiningClass last < combiningClass character

theorem composeAfter_cons (letter : Char) (held : List Char) (character : Char)
    (rest : List Char) :
    composeAfter letter held (character :: rest) =
      match if isFree held character then composePair letter character else none with
      | some composite => composeAfter composite held rest
      | none =>
        if combiningClass character = 0 then
          letter :: held.reverse ++ composeAfter character [] rest
        else composeAfter letter (character :: held) rest := rfl

section Held

variable {held rest : List Char} {character : Char}
  (marks : ∀ mark ∈ held, combiningClass mark ≠ 0)
  (ordered : (held.reverse ++ character :: rest).IsChain InOrder)
  (free : isFree held character)
include marks ordered free

/-- A mark that may be joined has a higher class than all marks that are held. -/
theorem lt_of_isFree :
    ∀ mark ∈ held.reverse, combiningClass mark ≠ 0 ∧
      combiningClass mark < combiningClass character := by
  cases held with
  | nil => exact fun _ absent => absurd absent List.not_mem_nil
  | cons last held =>
      have higher : combiningClass last < combiningClass character := of_decide_eq_true free
      have alsoMarks : ∀ mark ∈ (last :: held).reverse, combiningClass mark ≠ 0 :=
        fun mark member => marks mark (List.mem_reverse.1 member)
      have ascending := pairwise_of_isChain alsoMarks ordered.left_of_append
      rw [List.reverse_cons, List.pairwise_append] at ascending
      intro mark member
      refine ⟨alsoMarks mark member, Nat.lt_of_le_of_lt ?_ higher⟩
      rcases List.mem_cons.1 (List.mem_reverse.1 member) with isLast | isHeld
      · rw [isLast]
      · exact ascending.2.2 mark (List.mem_reverse.2 isHeld) last List.mem_cons_self

/-- The mark that is joined leaves the others in order. -/
theorem isChain_of_isFree : (held.reverse ++ rest).IsChain InOrder := by
  cases held with
  | nil => exact ordered.tail
  | cons last held =>
      have higher : combiningClass last < combiningClass character := of_decide_eq_true free
      obtain ⟨before, behind, _⟩ := List.isChain_append.1 ordered
      obtain ⟨next, later⟩ := List.isChain_cons.1 behind
      refine before.append later fun isLast end_ following isFollowing => ?_
      rw [List.reverse_cons, List.getLast?_concat, Option.mem_some_iff] at end_
      rw [← end_]
      exact (next following isFollowing).imp_left (Nat.le_trans (Nat.le_of_lt higher))

end Held

/-- A text that is composed after a letter has the parts of the text in their order. -/
theorem reorders_composeAfter (letter : Char) (held : List Char) {rest : List Char}
    (marks : ∀ mark ∈ held, combiningClass mark ≠ 0)
    (ordered : (held.reverse ++ rest).IsChain InOrder)
    (none : ∀ character ∈ held.reverse ++ rest, decomposePair character = none) :
    Reorders (takeApart (composeAfter letter held rest))
      (decomposeChar 3 letter ++ held.reverse ++ rest) := by
  -- The held marks are those that the letter was not joined with, and they stay in order.
  induction rest generalizing letter held with
  | nil =>
      rw [List.append_nil] at none
      rw [composeAfter, List.append_nil, ← List.singleton_append, takeApart_append,
        takeApart_of_none none, takeApart, List.flatMap_singleton]
      exact .refl _
  | cons character rest inductionHypothesis =>
      have headNone : decomposePair character = .none :=
        none character (List.mem_append_right _ List.mem_cons_self)
      have restNone : ∀ other ∈ rest, decomposePair other = .none := fun other member =>
        none other (List.mem_append_right _ (List.mem_cons_of_mem _ member))
      have heldNone : ∀ other ∈ held.reverse, decomposePair other = .none := fun other member =>
        none other (List.mem_append_left _ member)
      rw [composeAfter_cons]
      split
      · next composite isJoined =>
          split at isJoined
          · next free =>
              have later := inductionHypothesis composite held marks
                (isChain_of_isFree marks ordered free)
                (List.forall_mem_append.2 ⟨heldNone, restNone⟩)
              have front := reorders_front (lt_of_isFree marks ordered free)
              rw [decomposeChar_of_composePair isJoined] at later
              refine later.trans ?_
              have back := ((front.symm.append_left (decomposeChar 3 letter)).append_right rest)
              simpa only [List.append_assoc, List.singleton_append, List.cons_append,
                List.nil_append] using back
          · cases isJoined
      · split
        · next isLetter =>
            have later := inductionHypothesis character []
              (fun _ absent => absurd absent List.not_mem_nil) ordered.right_of_append.tail restNone
            rw [decomposeChar_of_none headNone] at later
            rw [← List.singleton_append, List.append_assoc, takeApart_append, takeApart_append,
              takeApart_of_none heldNone, takeApart, List.flatMap_singleton]
            have whole := (later.append_left held.reverse).append_left (decomposeChar 3 letter)
            simpa only [List.append_assoc, List.reverse_nil, List.nil_append, List.singleton_append]
              using whole
        · next isMark =>
            have later := inductionHypothesis letter (character :: held)
              (List.forall_mem_cons.2 ⟨isMark, marks⟩)
            simp only [List.reverse_cons, List.append_assoc, List.singleton_append] at later ⊢
            exact later ordered none

theorem reorders_composeAll {text : List Char} (ordered : text.IsChain InOrder)
    (none : ∀ character ∈ text, decomposePair character = none) :
    Reorders (takeApart (composeAll text)) text := by
  induction text with
  | nil => exact .refl _
  | cons character text inductionHypothesis =>
      obtain ⟨headNone, restNone⟩ := List.forall_mem_cons.1 none
      rw [composeAll]
      split
      · have after := reorders_composeAfter character []
          (fun _ absent => absurd absent List.not_mem_nil) ordered.tail restNone
        rwa [decomposeChar_of_none headNone] at after
      · have later := (inductionHypothesis ordered.tail restNone).append_left [character]
        rwa [← List.singleton_append, takeApart_append, takeApart, List.flatMap_singleton,
          decomposeChar_of_none headNone]

/-- A text in composed form is its own composed form. -/
theorem compose_compose (text : List Char) : compose (compose text) = compose text := by
  have ordered : (sortMarks [] (takeApart text)).IsChain InOrder := isChain_sortMarks _ .nil
  have none : ∀ character ∈ sortMarks [] (takeApart text), decomposePair character = none := by
    intro character member
    rcases mem_sortMarks member with absent | isPart
    · exact absurd absent List.not_mem_nil
    · exact decomposePair_of_mem_takeApart isPart
  -- The parts of the composed text are the sorted ones in another order, and sorting undoes it.
  have same := reorders_composeAll ordered none [] []
  rw [List.append_nil, List.append_nil, sortMarks_of_isChain .nil ordered] at same
  calc compose (compose text)
      = composeAll (sortMarks [] (takeApart (composeAll (sortMarks [] (takeApart text))))) := rfl
    _ = compose text := by rw [same]; rfl

end Compose

section Dots

variable {letter mark composite character : Char}

theorem combiningClass_dot : combiningClass '.' = 0 := by decide

theorem decomposePair_dot : decomposePair '.' = none := by rfl

/-- No letter is joined with a dot behind it. -/
theorem composePair_dot_right (letter : Char) : composePair letter '.' = none := by
  have noSyllable : composeHangul letter.toNat '.'.toNat = none := by
    rw [composeHangul, if_neg (by rw [show '.'.toNat = 0x2E from rfl]; omega),
      if_neg (by rw [show '.'.toNat = 0x2E from rfl]; omega)]
  rw [composePair, noSyllable]
  rfl

/-- A dot is no part of another character. -/
theorem ne_dot_of_decomposePair (taken : decomposePair character = some (letter, mark)) :
    letter ≠ '.' ∧ mark ≠ '.' := by
  have apart {code : Nat} (large : code ≠ 0x2E) (valid : code.isValidChar) :
      Char.ofNat code ≠ '.' := by
    intro same
    rw [← toNat_ofNat valid, same] at large
    exact large rfl
  rcases decomposePair_eq_some taken with ⟨first, second, syllable, isLetter, isMark⟩ | member
  · obtain ⟨part, other⟩ := parts_of_decomposeHangul syllable
    have firstPart : isSyllable first ∨ isSyllablePart first := other.symm.imp_left And.left
    rw [isLetter, isMark]
    refine ⟨apart ?_ ?_, apart ?_ (isValidChar_of_isSyllablePart part)⟩
    · rw [isSyllable_iff, isSyllablePart_iff] at firstPart
      omega
    · exact firstPart.elim isValidChar_of_isSyllable isValidChar_of_isSyllablePart
    · rw [isSyllablePart_iff] at part
      omega
  · have plain := isPlain_of_mem member
    refine ⟨fun same => plain.letterNoDot (same ▸ rfl), fun same => ?_⟩
    have large := plain.markLarge
    rw [same] at large
    exact absurd large (by decide)

/-- No mark is joined with a dot in front of it. -/
theorem composePair_dot_left (mark : Char) : composePair '.' mark = none := by
  cases composed : composePair '.' mark with
  | none => rfl
  | some composite =>
      exact absurd rfl (ne_dot_of_decomposePair (decomposePair_of_composePair composed)).1

theorem sortMarks_dot (held before after : List Char) :
    sortMarks held (before ++ '.' :: after) =
      sortMarks held before ++ '.' :: sortMarks [] after := by
  induction before generalizing held with
  | nil =>
      have atDot : sortMarks held ('.' :: after) = held ++ sortMarks ['.'] after :=
        if_pos combiningClass_dot
      rw [List.nil_append, atDot, sortMarks_letter combiningClass_dot, sortMarks]
  | cons character before inductionHypothesis =>
      rw [List.cons_append, sortMarks, sortMarks]
      split
      · rw [inductionHypothesis, List.append_assoc]
      · exact inductionHypothesis _

theorem composeAfter_dot_letter (held rest : List Char) :
    composeAfter '.' held rest = '.' :: held.reverse ++ composeAll rest := by
  induction rest generalizing held with
  | nil => rw [composeAfter, composeAll, List.append_nil]
  | cons character rest inductionHypothesis =>
      rw [composeAfter_cons, composePair_dot_left, ite_self, composeAll]
      dsimp only
      split
      · rfl
      · rw [inductionHypothesis, List.reverse_cons, List.cons_append, List.append_assoc]
        rfl

theorem composeAfter_dot (letter : Char) (held before after : List Char) :
    composeAfter letter held (before ++ '.' :: after) =
      composeAfter letter held before ++ '.' :: composeAll after := by
  induction before generalizing letter held with
  | nil =>
      rw [List.nil_append, composeAfter_cons, composePair_dot_right, ite_self]
      dsimp only
      rw [if_pos combiningClass_dot, composeAfter_dot_letter]
      rfl
  | cons character before inductionHypothesis =>
      rw [List.cons_append, composeAfter_cons, composeAfter_cons]
      split
      · exact inductionHypothesis _ _
      · split
        · rw [inductionHypothesis, List.append_assoc]
        · exact inductionHypothesis _ _

theorem composeAll_dot (before after : List Char) :
    composeAll (before ++ '.' :: after) = composeAll before ++ '.' :: composeAll after := by
  induction before with
  | nil =>
      have atDot : composeAll ('.' :: after) = composeAfter '.' [] after :=
        if_pos combiningClass_dot
      rw [List.nil_append, atDot, composeAfter_dot_letter, composeAll]
      rfl
  | cons character before inductionHypothesis =>
      rw [List.cons_append, composeAll, composeAll]
      split
      · exact composeAfter_dot _ _ _ _
      · rw [inductionHypothesis]
        rfl

/-- What stands before a dot and what stands behind it are composed on their own. -/
theorem compose_dot (before after : List Char) :
    compose (before ++ '.' :: after) = compose before ++ '.' :: compose after := by
  have apart : (before ++ '.' :: after).flatMap (decomposeChar 3) =
      before.flatMap (decomposeChar 3) ++ '.' :: after.flatMap (decomposeChar 3) := by
    rw [List.flatMap_append, List.flatMap_cons, decomposeChar_of_none decomposePair_dot]
    rfl
  rw [compose, apart, sortMarks_dot, composeAll_dot]
  rfl

end Dots

section Closed

/-- A property that passes from a composite to its parts and back holds after composing, too. -/
structure IsClosed (holds : Char → Prop) : Prop where
  parts : ∀ {letter mark composite : Char}, decomposePair composite = some (letter, mark) →
    holds composite → holds letter ∧ holds mark
  composite : ∀ {letter mark composite : Char}, composePair letter mark = some composite →
    holds letter → holds mark → holds composite

variable {holds : Char → Prop} (closed : IsClosed holds)
include closed

theorem IsClosed.decomposeChar {levels : Nat} {character : Char} (held : holds character) :
    ∀ part ∈ decomposeChar levels character, holds part := by
  induction levels generalizing character with
  | zero => exact List.forall_mem_singleton.2 held
  | succ levels inductionHypothesis =>
      rw [Domain.decomposeChar]
      split
      · next taken =>
          obtain ⟨letter, mark⟩ := closed.parts taken held
          exact List.forall_mem_append.2
            ⟨inductionHypothesis letter, List.forall_mem_singleton.2 mark⟩
      · exact List.forall_mem_singleton.2 held

theorem IsClosed.composeAfter {letter : Char} {held rest : List Char} (first : holds letter)
    (marks : ∀ mark ∈ held, holds mark) (later : ∀ character ∈ rest, holds character) :
    ∀ character ∈ composeAfter letter held rest, holds character := by
  induction rest generalizing letter held with
  | nil =>
      rw [Domain.composeAfter]
      exact List.forall_mem_cons.2
        ⟨first, fun mark member => marks mark (List.mem_reverse.1 member)⟩
  | cons character rest inductionHypothesis =>
      obtain ⟨next, others⟩ := List.forall_mem_cons.1 later
      rw [composeAfter_cons]
      split
      · next composite isJoined =>
          split at isJoined
          · exact inductionHypothesis (closed.composite isJoined first next) marks others
          · cases isJoined
      · split
        · refine List.forall_mem_append.2 ⟨List.forall_mem_cons.2 ⟨first, fun mark member => ?_⟩,
            inductionHypothesis next (fun _ absent => absurd absent List.not_mem_nil) others⟩
          exact marks mark (List.mem_reverse.1 member)
        · exact inductionHypothesis first (List.forall_mem_cons.2 ⟨next, marks⟩) others

theorem IsClosed.composeAll {text : List Char} (all : ∀ character ∈ text, holds character) :
    ∀ character ∈ composeAll text, holds character := by
  induction text with
  | nil => exact all
  | cons character text inductionHypothesis =>
      obtain ⟨first, later⟩ := List.forall_mem_cons.1 all
      rw [Domain.composeAll]
      split
      · exact closed.composeAfter first (fun _ absent => absurd absent List.not_mem_nil) later
      · exact List.forall_mem_cons.2 ⟨first, inductionHypothesis later⟩

theorem IsClosed.compose {text : List Char} (all : ∀ character ∈ text, holds character) :
    ∀ character ∈ compose text, holds character := by
  refine closed.composeAll fun character member => ?_
  rcases mem_sortMarks member with absent | isPart
  · exact absurd absent List.not_mem_nil
  · obtain ⟨source, inText, part⟩ := List.mem_flatMap.1 isPart
    exact closed.decomposeChar (all source inText) character part

omit closed in
theorem isClosed_ne_dot : IsClosed (· ≠ '.') where
  parts taken _ := ne_dot_of_decomposePair taken
  composite composed _ _ := by
    intro isDot
    have taken := decomposePair_of_composePair composed
    rw [isDot, decomposePair_dot] at taken
    cases taken

end Closed

end Switchboard.Domain
