import Switchboard.Domain.Name

/-
This file shows how a name and the parts between its separators make each other.
-/

namespace Switchboard.Domain

section Parts

variable {separator : Char}

theorem splitAt_ne_nil (separator : Char) (text : List Char) : splitAt separator text ≠ [] := by
  cases text with
  | nil => exact List.cons_ne_nil _ _
  | cons character text =>
      rw [splitAt]
      split
      · exact List.cons_ne_nil _ _
      · split <;> exact List.cons_ne_nil _ _

theorem splitAt_cons_of_ne {character : Char} (different : character ≠ separator)
    {text part : List Char} {parts : List (List Char)}
    (split : splitAt separator text = part :: parts) :
    splitAt separator (character :: text) = (character :: part) :: parts := by
  rw [splitAt, if_neg different, split]

/-- Without a separator there is one part. -/
theorem splitAt_of_not_mem {text : List Char} (absent : separator ∉ text) :
    splitAt separator text = [text] := by
  induction text with
  | nil => rfl
  | cons character text inductionHypothesis =>
      rw [List.mem_cons, not_or] at absent
      exact splitAt_cons_of_ne (Ne.symm absent.1) (inductionHypothesis absent.2)

theorem splitAt_append {part : List Char} (absent : separator ∉ part) (rest : List Char) :
    splitAt separator (part ++ separator :: rest) = part :: splitAt separator rest := by
  induction part with
  | nil => exact if_pos rfl
  | cons character part inductionHypothesis =>
      rw [List.mem_cons, not_or] at absent
      exact splitAt_cons_of_ne (Ne.symm absent.1) (inductionHypothesis absent.2)

/-- Parts that hold no separators are found again between them. -/
theorem splitAt_intercalate {parts : List (List Char)} (some : parts ≠ [])
    (absent : ∀ part ∈ parts, separator ∉ part) :
    splitAt separator ([separator].intercalate parts) = parts := by
  induction parts with
  | nil => exact absurd rfl some
  | cons part parts inductionHypothesis =>
      obtain ⟨first, later⟩ := List.forall_mem_cons.1 absent
      cases parts with
      | nil => rw [List.intercalate_singleton, splitAt_of_not_mem first]
      | cons second parts =>
          rw [List.intercalate_cons_cons, List.append_assoc, List.singleton_append,
            splitAt_append first, inductionHypothesis (List.cons_ne_nil _ _) later]

theorem intercalate_splitAt (separator : Char) (text : List Char) :
    [separator].intercalate (splitAt separator text) = text := by
  induction text with
  | nil => rfl
  | cons character text inductionHypothesis =>
      rw [splitAt]
      split
      · next same =>
          rw [List.intercalate_cons_of_ne_nil (splitAt_ne_nil _ _), inductionHypothesis, same]
          rfl
      · split
        · next none => exact absurd none (splitAt_ne_nil _ _)
        · next part parts isSplit =>
            rw [isSplit] at inductionHypothesis
            cases parts with
            | nil =>
                rw [List.intercalate_singleton] at inductionHypothesis ⊢
                rw [inductionHypothesis]
            | cons second parts =>
                rw [List.intercalate_cons_cons] at inductionHypothesis ⊢
                rw [← inductionHypothesis]
                rfl

theorem not_mem_of_mem_splitAt {text part : List Char} (member : part ∈ splitAt separator text) :
    separator ∉ part := by
  induction text generalizing part with
  | nil =>
      rw [List.mem_singleton.1 member]
      exact List.not_mem_nil
  | cons character text inductionHypothesis =>
      rw [splitAt] at member
      split at member
      · rcases List.mem_cons.1 member with isFirst | later
        · rw [isFirst]
          exact List.not_mem_nil
        · exact inductionHypothesis later
      · next different =>
          split at member
          · next none => exact absurd none (splitAt_ne_nil _ _)
          · next first parts isSplit =>
              rw [isSplit] at inductionHypothesis
              rcases List.mem_cons.1 member with isFirst | later
              · rw [isFirst, List.mem_cons, not_or]
                exact ⟨Ne.symm different, inductionHypothesis List.mem_cons_self⟩
              · exact inductionHypothesis (List.mem_cons_of_mem _ later)

theorem mem_intercalate {parts : List (List Char)} {character : Char}
    (member : character ∈ [separator].intercalate parts) :
    character = separator ∨ ∃ part ∈ parts, character ∈ part := by
  induction parts with
  | nil => exact absurd member List.not_mem_nil
  | cons part parts inductionHypothesis =>
      cases parts with
      | nil =>
          rw [List.intercalate_singleton] at member
          exact .inr ⟨part, List.mem_cons_self, member⟩
      | cons second parts =>
          rw [List.intercalate_cons_cons, List.append_assoc, List.mem_append,
            List.singleton_append, List.mem_cons] at member
          rcases member with inPart | isSeparator | later
          · exact .inr ⟨part, List.mem_cons_self, inPart⟩
          · exact .inl isSeparator
          · refine (inductionHypothesis later).imp_right ?_
            exact fun ⟨other, isPart, inside⟩ => ⟨other, List.mem_cons_of_mem _ isPart, inside⟩

theorem mem_intercalate_of_mem {parts : List (List Char)} {part : List Char} {character : Char}
    (isPart : part ∈ parts) (member : character ∈ part) :
    character ∈ [separator].intercalate parts := by
  induction parts with
  | nil => exact absurd isPart List.not_mem_nil
  | cons first parts inductionHypothesis =>
      rcases List.mem_cons.1 isPart with isFirst | later
      · cases parts with
        | nil => rwa [List.intercalate_singleton, ← isFirst]
        | cons second parts =>
            rw [List.intercalate_cons_cons, ← isFirst, List.append_assoc]
            exact List.mem_append_left _ member
      · rw [List.intercalate_cons_of_ne_nil (List.ne_nil_of_mem later)]
        exact List.mem_append_right _ (inductionHypothesis later)

end Parts

section Results

variable {α β : Type} {step : α → Option β}

theorem mapM_cons_eq_some {item : α} {items : List α} {results : List β}
    (all : (item :: items).mapM step = some results) :
    ∃ result rest, step item = some result ∧ items.mapM step = some rest ∧
      results = result :: rest := by
  rw [List.mapM_cons] at all
  obtain ⟨result, isResult, all⟩ := Option.bind_eq_some_iff.1 all
  obtain ⟨rest, isRest, all⟩ := Option.bind_eq_some_iff.1 all
  exact ⟨result, rest, isResult, isRest, (Option.some.inj all).symm⟩

theorem length_of_mapM_eq_some {items : List α} {results : List β}
    (all : items.mapM step = some results) : results.length = items.length := by
  induction items generalizing results with
  | nil =>
      cases all
      rfl
  | cons item items inductionHypothesis =>
      obtain ⟨result, rest, _, isRest, same⟩ := mapM_cons_eq_some all
      rw [same, List.length_cons, List.length_cons, inductionHypothesis isRest]

/-- Every result is that of an item. -/
theorem exists_mem_of_mapM_eq_some {items : List α} {results : List β}
    (all : items.mapM step = some results) {result : β} (member : result ∈ results) :
    ∃ item ∈ items, step item = some result := by
  induction items generalizing results with
  | nil =>
      cases all
      exact absurd member List.not_mem_nil
  | cons item items inductionHypothesis =>
      obtain ⟨first, rest, isFirst, isRest, same⟩ := mapM_cons_eq_some all
      rw [same] at member
      rcases List.mem_cons.1 member with isResult | later
      · exact ⟨item, List.mem_cons_self, isResult ▸ isFirst⟩
      · obtain ⟨other, isItem, found⟩ := inductionHypothesis isRest later
        exact ⟨other, List.mem_cons_of_mem _ isItem, found⟩

theorem mapM_eq_none {items : List α} {item : α} (member : item ∈ items)
    (none : step item = .none) : items.mapM step = .none := by
  induction items with
  | nil => exact absurd member List.not_mem_nil
  | cons first items inductionHypothesis =>
      rw [List.mapM_cons]
      rcases List.mem_cons.1 member with isFirst | later
      · rw [← isFirst, none]
        rfl
      · rw [inductionHypothesis later]
        cases step first <;> rfl

/-- What is read back one by one is read back as a whole. -/
theorem mapM_map_eq_some {write : β → α} {results : List β}
    (each : ∀ result ∈ results, step (write result) = some result) :
    (results.map write).mapM step = some results := by
  induction results with
  | nil => rfl
  | cons result results inductionHypothesis =>
      obtain ⟨first, later⟩ := List.forall_mem_cons.1 each
      rw [List.map_cons, List.mapM_cons, first, inductionHypothesis later]
      rfl

end Results

end Switchboard.Domain
