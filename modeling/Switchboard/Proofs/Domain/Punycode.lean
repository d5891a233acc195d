import Mathlib.Data.List.Chain
import Mathlib.Data.List.InsertIdx
import Mathlib.Tactic.Ring
import Switchboard.Domain.Punycode

/-
This file shows that a label is read back from the basic letters it is written with.
-/

namespace Switchboard.Domain.Punycode

section Digits

theorem digit?_digitChar {digit : Nat} (small : digit < 36) :
    digit? (digitChar digit) = some digit := by
  have all : ∀ digit < 36, digit? (digitChar digit) = some digit := by decide
  exact all digit small

/-- A digit is a small letter or a decimal digit, so neither a hyphen nor a dot. -/
def isDigitChar (character : Char) : Bool :=
  (0x61 ≤ character.toNat && character.toNat ≤ 0x7A) ||
    (0x30 ≤ character.toNat && character.toNat ≤ 0x39)

theorem isDigitChar_digitChar {digit : Nat} (small : digit < 36) :
    isDigitChar (digitChar digit) := by
  have all : ∀ digit < 36, isDigitChar (digitChar digit) := by decide
  exact all digit small

theorem threshold_le (bias place : Nat) : threshold bias place ≤ 26 := by
  unfold threshold
  split
  · omega
  · split <;> omega

/-- A number is read from where it was written, whatever follows. -/
theorem readNumber_writeNumber (bias place weight total number : Nat) (rest : List Char) :
    readNumber bias place weight total (writeNumber bias place number ++ rest) =
      some (total + number * weight, rest) := by
  fun_induction writeNumber bias place number generalizing weight total with
  | case1 place number least small =>
      have bound : least ≤ 26 := threshold_le bias place
      rw [List.singleton_append, readNumber, digit?_digitChar (by omega)]
      exact if_pos small
  | case2 place number least large inductionHypothesis =>
      have positive : 1 ≤ least := one_le_threshold bias place
      have bound : least ≤ 26 := threshold_le bias place
      have remainder : (number - least) % (36 - least) < 36 - least := Nat.mod_lt _ (by omega)
      have digits : least + (number - least) % (36 - least) +
          (36 - least) * ((number - least) / (36 - least)) = number := by
        rw [Nat.add_assoc, Nat.mod_add_div]
        omega
      rw [List.cons_append, readNumber, digit?_digitChar (by omega)]
      refine (if_neg (show ¬ least + (number - least) % (36 - least) < least by omega)).trans ?_
      rw [inductionHypothesis]
      congr 2
      calc total + (least + (number - least) % (36 - least)) * weight +
            (number - least) / (36 - least) * (weight * (36 - least))
          = total + (least + (number - least) % (36 - least) +
              (36 - least) * ((number - least) / (36 - least))) * weight := by ring
        _ = total + number * weight := by rw [digits]

theorem isDigitChar_of_mem_writeNumber {bias place number : Nat} {character : Char}
    (member : character ∈ writeNumber bias place number) : isDigitChar character := by
  fun_induction writeNumber bias place number with
  | case1 place number least small =>
      have bound : least ≤ 26 := threshold_le bias place
      rw [List.mem_singleton.1 member]
      exact isDigitChar_digitChar (by omega)
  | case2 place number least large inductionHypothesis =>
      have positive : 1 ≤ least := one_le_threshold bias place
      have bound : least ≤ 26 := threshold_le bias place
      have remainder : (number - least) % (36 - least) < 36 - least := Nat.mod_lt _ (by omega)
      rcases List.mem_cons.1 member with isFirst | later
      · rw [isFirst]
        exact isDigitChar_digitChar (by omega)
      · exact inductionHypothesis later

theorem isDigitChar_of_mem_writeInsertions {position : Position} {insertions : List Insertion}
    {character : Char} (member : character ∈ writeInsertions position insertions) :
    isDigitChar character := by
  induction insertions generalizing position with
  | nil => exact absurd member List.not_mem_nil
  | cons insertion insertions inductionHypothesis =>
      rw [writeInsertions] at member
      rcases List.mem_append.1 member with inNumber | later
      · exact isDigitChar_of_mem_writeNumber inNumber
      · exact inductionHypothesis later

end Digits

section Order

/-- Insertions ascend by their characters and, for one character, by their indices. -/
def Insertion.Precedes (first second : Insertion) : Prop :=
  first.character.toNat < second.character.toNat ∨
    (first.character.toNat = second.character.toNat ∧ first.index < second.index)

theorem eq_nil_of_lastGreatest {text : List Char} (none : lastGreatest text = .none) :
    text = [] := by
  cases text with
  | nil => rfl
  | cons first rest =>
      rw [lastGreatest] at none
      split at none
      · cases none
      · split at none <;> cases none

/-- The greatest character of a text at its last place. -/
structure IsLastGreatest (text : List Char) (found : Insertion) : Prop where
  stands : text[found.index]? = some found.character
  greatest (index : Nat) (character : Char) (named : text[index]? = some character) :
    character.toNat ≤ found.character.toNat ∧
      (found.index < index → character.toNat < found.character.toNat)

theorem isLastGreatest_head {first : Char} {rest : List Char}
    (smaller : ∀ character ∈ rest, character.toNat < first.toNat) :
    IsLastGreatest (first :: rest) ⟨first, 0⟩ := by
  refine ⟨rfl, fun index character named => ?_⟩
  cases index with
  | zero =>
      rw [List.getElem?_cons_zero, Option.some.injEq] at named
      rw [named]
      exact ⟨Nat.le_refl _, fun absurdly => absurd absurdly (Nat.lt_irrefl _)⟩
  | succ index =>
      rw [List.getElem?_cons_succ] at named
      have less := smaller character (List.mem_of_getElem? named)
      exact ⟨Nat.le_of_lt less, fun _ => less⟩

theorem IsLastGreatest.cons {first : Char} {rest : List Char} {found : Insertion}
    (last : IsLastGreatest rest found) (small : first.toNat ≤ found.character.toNat) :
    IsLastGreatest (first :: rest) ⟨found.character, found.index + 1⟩ := by
  refine ⟨last.stands, fun index character named => ?_⟩
  cases index with
  | zero =>
      rw [List.getElem?_cons_zero, Option.some.injEq] at named
      rw [← named]
      exact ⟨small, fun absurdly => absurd absurdly (Nat.not_lt_zero _)⟩
  | succ index =>
      obtain ⟨bound, strict⟩ := last.greatest index character named
      exact ⟨bound, fun after => strict (Nat.lt_of_succ_lt_succ after)⟩

theorem IsLastGreatest.le {text : List Char} {found : Insertion}
    (last : IsLastGreatest text found) {character : Char} (member : character ∈ text) :
    character.toNat ≤ found.character.toNat := by
  obtain ⟨index, named⟩ := List.mem_iff_getElem?.1 member
  exact (last.greatest index character named).1

theorem lastGreatest_spec {text : List Char} {found : Insertion}
    (isFound : lastGreatest text = some found) : IsLastGreatest text found := by
  induction text generalizing found with
  | nil => cases isFound
  | cons first rest inductionHypothesis =>
      rw [lastGreatest] at isFound
      split at isFound
      · next none =>
          cases isFound
          rw [eq_nil_of_lastGreatest none]
          exact isLastGreatest_head fun _ absent => absurd absent List.not_mem_nil
      · next later isLater =>
          have last := inductionHypothesis isLater
          split at isFound
          · next small =>
              cases isFound
              exact last.cons small
          · next large =>
              cases isFound
              refine isLastGreatest_head fun character member => ?_
              exact Nat.lt_of_le_of_lt (last.le member) (Nat.lt_of_not_le large)

/-- What is found in the text without the last greatest character comes before it. -/
theorem precedes_of_lastGreatest {text : List Char} {found earlier : Insertion}
    (isFound : lastGreatest text = some found)
    (isEarlier : lastGreatest (text.eraseIdx found.index) = some earlier) :
    earlier.Precedes found := by
  obtain ⟨_, greatest⟩ := lastGreatest_spec isFound
  obtain ⟨stands, _⟩ := lastGreatest_spec isEarlier
  rw [List.getElem?_eraseIdx] at stands
  split at stands
  · next before =>
      obtain ⟨bound, _⟩ := greatest _ _ stands
      rcases Nat.lt_or_eq_of_le bound with smaller | same
      · exact .inl smaller
      · exact .inr ⟨same, before⟩
  · next after =>
      obtain ⟨_, strict⟩ := greatest _ _ stands
      exact .inl (strict (by omega))

theorem isBasic_of_lastGreatest {text : List Char} {found : Insertion}
    (isFound : lastGreatest text = some found) (basic : isBasic found.character) :
    ∀ character ∈ text, isBasic character := by
  intro character member
  have bound := (lastGreatest_spec isFound).le member
  simp only [isBasic, decide_eq_true_eq] at basic ⊢
  omega

/-- The last insertion of a text is that of its last greatest character. -/
theorem getLast?_insertions {text : List Char} {last : Insertion}
    (isLast : (insertions text).getLast? = some last) : lastGreatest text = some last := by
  rw [insertions] at isLast
  split at isLast
  · cases isLast
  · next found isFound =>
      split at isLast
      · cases isLast
      · rw [List.getLast?_concat, Option.some.injEq] at isLast
        rw [isFound, isLast]

/-- The insertions of a text ascend. -/
theorem isChain_insertions (text : List Char) :
    (insertions text).IsChain Insertion.Precedes := by
  fun_induction insertions text with
  | case1 => exact .nil
  | case2 => exact .nil
  | case3 text found isFound notBasic inductionHypothesis =>
      refine inductionHypothesis.append (.singleton _) fun earlier isEarlier last isLast => ?_
      rw [List.head?_cons, Option.mem_some_iff] at isLast
      rw [← isLast]
      exact precedes_of_lastGreatest isFound (getLast?_insertions isEarlier)

/-- Only the other characters are inserted. -/
theorem isBasic_of_mem_insertions {text : List Char} {insertion : Insertion}
    (member : insertion ∈ insertions text) : isBasic insertion.character = false := by
  fun_induction insertions text with
  | case1 => exact absurd member List.not_mem_nil
  | case2 => exact absurd member List.not_mem_nil
  | case3 text found isFound notBasic inductionHypothesis =>
      rcases List.mem_append.1 member with earlier | isLast
      · exact inductionHypothesis earlier
      · rw [List.mem_singleton.1 isLast]
        exact Bool.eq_false_of_not_eq_true notBasic

end Order

section Insertion

def Insertion.apply (text : List Char) (insertion : Insertion) : List Char :=
  text.insertIdx insertion.index insertion.character

theorem filter_eraseIdx {text : List Char} {index : Nat} {character : Char}
    (named : text[index]? = some character) (notBasic : isBasic character = false) :
    (text.eraseIdx index).filter isBasic = text.filter isBasic := by
  induction text generalizing index with
  | nil => rfl
  | cons first rest inductionHypothesis =>
      cases index with
      | zero =>
          rw [List.getElem?_cons_zero, Option.some.injEq] at named
          rw [named, List.eraseIdx_cons_zero, List.filter_cons_of_neg (by rw [notBasic]; decide)]
      | succ index =>
          rw [List.getElem?_cons_succ] at named
          rw [List.eraseIdx_cons_succ, List.filter_cons, List.filter_cons,
            inductionHypothesis named]

/-- The insertions make the text of its basic characters. -/
theorem foldl_insertions (text : List Char) :
    (insertions text).foldl Insertion.apply (text.filter isBasic) = text := by
  fun_induction insertions text with
  | case1 text none => rw [eq_nil_of_lastGreatest none]; rfl
  | case2 text found isFound basic =>
      exact List.filter_eq_self.2 (isBasic_of_lastGreatest isFound basic)
  | case3 text found isFound notBasic inductionHypothesis =>
      have stands := (lastGreatest_spec isFound).stands
      have bound := index_lt_of_lastGreatest isFound
      rw [filter_eraseIdx stands (Bool.eq_false_of_not_eq_true notBasic)] at inductionHypothesis
      rw [List.foldl_append, inductionHypothesis, List.foldl_cons, List.foldl_nil,
        Insertion.apply, List.insertIdx_eraseIdx_self bound.ne]
      have isThere : text[found.index] = found.character :=
        Option.some.inj ((List.getElem?_eq_getElem bound).symm.trans stands)
      rw [← isThere, List.set_getElem_self]

theorem length_insertions (text : List Char) :
    (text.filter isBasic).length + (insertions text).length = text.length := by
  fun_induction insertions text with
  | case1 text none => rw [eq_nil_of_lastGreatest none]; rfl
  | case2 text found isFound basic =>
      rw [List.filter_eq_self.2 (isBasic_of_lastGreatest isFound basic)]
      rfl
  | case3 text found isFound notBasic inductionHypothesis =>
      have stands := (lastGreatest_spec isFound).stands
      have bound := index_lt_of_lastGreatest isFound
      rw [filter_eraseIdx stands (Bool.eq_false_of_not_eq_true notBasic),
        List.length_eraseIdx_of_lt bound] at inductionHypothesis
      rw [List.length_append, List.length_singleton]
      omega

/-- No index is behind the end of the text that its insertion meets. -/
def AreInside (length : Nat) (insertions : List Insertion) : Prop :=
  ∀ (place : Nat) (insertion : Insertion), insertions[place]? = some insertion →
    insertion.index ≤ length + place

theorem areInside_insertions (text : List Char) :
    AreInside (text.filter isBasic).length (insertions text) := by
  fun_induction insertions text with
  | case1 => exact fun place insertion named => nomatch named
  | case2 => exact fun place insertion named => nomatch named
  | case3 text found isFound notBasic inductionHypothesis =>
      have stands := (lastGreatest_spec isFound).stands
      have bound := index_lt_of_lastGreatest isFound
      have total := length_insertions (text.eraseIdx found.index)
      have same := filter_eraseIdx stands (Bool.eq_false_of_not_eq_true notBasic)
      rw [List.length_eraseIdx_of_lt bound, same] at total
      rw [same] at inductionHypothesis
      intro place insertion named
      rw [List.getElem?_append] at named
      split at named
      · exact inductionHypothesis place insertion named
      · rw [List.getElem?_singleton] at named
        split at named
        · cases named
          omega
        · cases named

end Insertion

section RoundTrip

theorem readInsertions_of_readNumber {position : Position} {text written rest : List Char}
    {distance : Nat}
    (read : readNumber position.bias 36 1 0 written = some (distance, rest)) :
    readInsertions position text written =
      if (position.code + (position.index + distance) / (position.length + 1)).isValidChar then
        readInsertions
          (position.after distance
            (position.code + (position.index + distance) / (position.length + 1))
            ((position.index + distance) % (position.length + 1)))
          (text.insertIdx ((position.index + distance) % (position.length + 1))
            (Char.ofNat (position.code + (position.index + distance) / (position.length + 1))))
          rest
      else none := by
  cases written with
  | nil => cases read
  | cons character tail =>
      rw [readInsertions]
      split
      · next none => rw [read] at none; cases none
      · next found isFound =>
          rw [read, Option.some.injEq, Prod.mk.injEq] at isFound
          rw [isFound.1, isFound.2]

/-- The first insertion is not before the position. -/
def Position.Admits (position : Position) (insertion : Insertion) : Prop :=
  position.code < insertion.character.toNat ∨
    (position.code = insertion.character.toNat ∧ position.index ≤ insertion.index)

theorem Position.Admits.code_le {position : Position} {insertion : Insertion}
    (admitted : position.Admits insertion) : position.code ≤ insertion.character.toNat := by
  rcases admitted with larger | ⟨same, _⟩
  · exact Nat.le_of_lt larger
  · exact Nat.le_of_eq same

/-- The distance that is written leads from the position to the insertion. -/
theorem Position.Admits.index_add {position : Position} {insertion : Insertion}
    (admitted : position.Admits insertion)
    (ordered : position.index ≤ position.length) :
    position.index + ((insertion.character.toNat - position.code) * (position.length + 1) +
        insertion.index - position.index) =
      insertion.index +
        (position.length + 1) * (insertion.character.toNat - position.code) := by
  have reached : position.index ≤ (insertion.character.toNat - position.code) *
      (position.length + 1) + insertion.index := by
    rcases admitted with larger | ⟨_, after⟩
    · have oneRound : position.length + 1 ≤
          (insertion.character.toNat - position.code) * (position.length + 1) :=
        Nat.le_mul_of_pos_left _ (Nat.sub_pos_of_lt larger)
      omega
    · omega
  rw [Nat.add_sub_of_le reached, Nat.mul_comm, Nat.add_comm]

theorem readInsertions_writeInsertions {position : Position} {insertions : List Insertion}
    (text : List Char) (ordered : position.index ≤ position.length)
    (first : ∀ insertion ∈ insertions.head?, position.Admits insertion)
    (ascending : insertions.IsChain Insertion.Precedes)
    (inside : AreInside position.length insertions) :
    readInsertions position text (writeInsertions position insertions) =
      some (insertions.foldl Insertion.apply text) := by
  -- The position stays within the text and not behind the insertion that comes next.
  induction insertions generalizing position text with
  | nil => rw [writeInsertions, readInsertions]; rfl
  | cons insertion rest inductionHypothesis =>
      have admitted := first insertion rfl
      have bound : insertion.index ≤ position.length := inside 0 insertion rfl
      obtain ⟨next, later⟩ := List.isChain_cons.1 ascending
      have total := admitted.index_add ordered
      generalize distance_eq : (insertion.character.toNat - position.code) *
        (position.length + 1) + insertion.index - position.index = distance at total
      have read := readNumber_writeNumber position.bias 36 1 0 distance
        (writeInsertions (position.after distance insertion.character.toNat insertion.index) rest)
      rw [Nat.zero_add, Nat.mul_one] at read
      have index : (position.index + distance) % (position.length + 1) = insertion.index := by
        rw [total, Nat.add_mul_mod_self_left]
        exact Nat.mod_eq_of_lt (Nat.lt_succ_of_le bound)
      have code : position.code + (position.index + distance) / (position.length + 1) =
          insertion.character.toNat := by
        rw [total, Nat.add_mul_div_left _ _ (Nat.succ_pos _),
          Nat.div_eq_of_lt (Nat.lt_succ_of_le bound), Nat.zero_add]
        exact Nat.add_sub_of_le admitted.code_le
      rw [writeInsertions, distance_eq, readInsertions_of_readNumber read, code, index,
        if_pos (show insertion.character.toNat.isValidChar from insertion.character.valid),
        Char.ofNat_toNat, List.foldl_cons]
      refine inductionHypothesis _ (Nat.succ_le_succ bound) ?_ later ?_
      · intro second isSecond
        rcases next second isSecond with larger | ⟨same, after⟩
        · exact .inl larger
        · exact .inr ⟨same, after⟩
      · intro place second named
        have shifted := inside (place + 1) second named
        rw [show (position.after distance insertion.character.toNat insertion.index).length =
          position.length + 1 from rfl]
        omega

theorem splitAtLastHyphen_of_not_mem {written : List Char} (absent : '-' ∉ written) :
    splitAtLastHyphen written = none := by
  induction written with
  | nil => rfl
  | cons character rest inductionHypothesis =>
      rw [List.mem_cons, not_or] at absent
      rw [splitAtLastHyphen.eq_def]
      dsimp only
      rw [inductionHypothesis absent.2]
      dsimp only
      split
      · exact absurd List.mem_cons_self absent.2
      · rfl

/-- The last hyphen is the one that the basic characters are ended with. -/
theorem splitAtLastHyphen_append {basic extension : List Char} (some : basic ≠ [])
    (absent : '-' ∉ extension) :
    splitAtLastHyphen (basic ++ '-' :: extension) = .some (basic, extension) := by
  induction basic with
  | nil => exact absurd rfl some
  | cons character basic inductionHypothesis =>
      rw [List.cons_append, splitAtLastHyphen.eq_def]
      dsimp only
      cases basic with
      | nil =>
          have none : splitAtLastHyphen ('-' :: extension) = .none := by
            rw [splitAtLastHyphen.eq_def]
            dsimp only
            rw [splitAtLastHyphen_of_not_mem absent]
            dsimp only
            split
            · exact absurd List.mem_cons_self absent
            · rfl
          rw [List.nil_append, none]
          rfl
      | cons second basic => rw [inductionHypothesis (List.cons_ne_nil _ _)]

theorem isDigitChar_hyphen : isDigitChar '-' = false := by decide

/-- A text that is written with basic characters is read back. -/
theorem decode_encode (text : List Char) : decode (encode text) = some text := by
  have first : ∀ insertion ∈ (insertions text).head?,
      (Position.start (text.filter isBasic).length).Admits insertion := by
    intro insertion isFirst
    have notBasic := isBasic_of_mem_insertions (List.mem_of_mem_head? isFirst)
    rw [isBasic, decide_eq_false_iff_not, Nat.not_lt] at notBasic
    rcases Nat.lt_or_eq_of_le notBasic with larger | same
    · exact .inl larger
    · exact .inr ⟨same, Nat.zero_le _⟩
  have read := readInsertions_writeInsertions (text.filter isBasic)
    (Nat.zero_le _ : (Position.start (text.filter isBasic).length).index ≤ _) first
    (isChain_insertions text) (areInside_insertions text)
  rw [foldl_insertions] at read
  have absent : '-' ∉ writeInsertions (.start (text.filter isBasic).length) (insertions text) := by
    intro member
    have digit := isDigitChar_of_mem_writeInsertions member
    rw [isDigitChar_hyphen] at digit
    cases digit
  rw [encode]
  split
  · next none =>
      rw [none, List.length_nil] at read absent
      rw [decode, none, List.length_nil, splitAtLastHyphen_of_not_mem absent]
      exact read
  · next basic =>
      rw [decode, splitAtLastHyphen_append basic absent]
      exact read

/-- Only letters, digits and the basic characters of a text are written. -/
theorem isDigitChar_or_of_mem_encode {text : List Char} {character : Char}
    (member : character ∈ encode text) :
    isDigitChar character ∨ character = '-' ∨ (character ∈ text ∧ isBasic character) := by
  rw [encode] at member
  split at member
  · exact .inl (isDigitChar_of_mem_writeInsertions member)
  · rcases List.mem_append.1 member with inBasic | inExtension
    · exact .inr (.inr (List.mem_filter.1 inBasic))
    · rcases List.mem_cons.1 inExtension with isHyphen | inDigits
      · exact .inr (.inl isHyphen)
      · exact .inl (isDigitChar_of_mem_writeInsertions inDigits)

theorem eq_append_of_splitAtLastHyphen {written basic extension : List Char}
    (split : splitAtLastHyphen written = some (basic, extension)) :
    written = basic ++ '-' :: extension := by
  induction written generalizing basic with
  | nil => cases split
  | cons character rest inductionHypothesis =>
      rw [splitAtLastHyphen.eq_def] at split
      dsimp only at split
      split at split
      · next before after later =>
          cases split
          rw [inductionHypothesis later]
          rfl
      · split at split
        · cases split
          rfl
        · cases split

theorem mem_of_readInsertions {position : Position} {text written label : List Char}
    (read : readInsertions position text written = some label) (large : 0x80 ≤ position.code)
    {character : Char} (member : character ∈ label) :
    character ∈ text ∨ 0x80 ≤ character.toNat := by
  fun_induction readInsertions position text written with
  | case1 position text =>
      cases read
      exact .inl member
  | case2 => cases read
  | case3 position text first tail distance rest isRead total code index valid
      inductionHypothesis =>
      have larger : 0x80 ≤ code := Nat.le_trans large (Nat.le_add_right _ _)
      rcases inductionHypothesis read larger with inserted | other
      · rcases List.eq_or_mem_of_mem_insertIdx inserted with isNew | inText
        · rw [isNew, Char.ofNat, dif_pos valid]
          exact .inr larger
        · exact .inl inText
      · exact .inr other
  | case4 => cases read

/-- The basic characters of a decoded text stand in what was decoded. -/
theorem mem_of_decode {written label : List Char} (decoded : decode written = some label)
    {character : Char} (member : character ∈ label) :
    character ∈ written ∨ 0x80 ≤ character.toNat := by
  rw [decode] at decoded
  split at decoded
  · next basic extension split =>
      refine (mem_of_readInsertions decoded (Nat.le_refl _) member).imp_left fun inBasic => ?_
      rw [eq_append_of_splitAtLastHyphen split]
      exact List.mem_append_left _ inBasic
  · refine (mem_of_readInsertions decoded (Nat.le_refl _) member).imp_left fun absent => ?_
    exact absurd absent List.not_mem_nil

end RoundTrip

end Switchboard.Domain.Punycode
