import Mathlib.Data.List.TakeWhile
import Switchboard.Url.Path

/-
This file shows that the segments of a path are read back from it, however many slashes follow, and
that neither question marks nor number signs stand in them.
-/

namespace Switchboard.Url

/-- Neither mark is written into a path. -/
def isMark (character : Char) : Bool := character = '?' || character = '#'

theorem isMark_of_isPlainInPath {character : Char} (plain : isPlainInPath character) :
    isMark character = false := by
  cases mark : isMark character with
  | false => rfl
  | true =>
      simp only [isMark, Bool.or_eq_true, decide_eq_true_eq] at mark
      rcases mark with isQuestion | isNumber
      · rw [isQuestion] at plain
        exact absurd plain (by decide)
      · rw [isNumber] at plain
        exact absurd plain (by decide)

theorem mem_climb {held : List (List Char)} {segment : List Char} (member : segment ∈ climb held) :
    segment ∈ held := by
  cases held with
  | nil => exact member
  | cons last rest =>
      rw [climb] at member
      split at member
      · exact member
      · exact List.mem_cons_of_mem _ member

/-- Resolving a path makes no new segments. -/
theorem mem_resolveSegments {held segments : List (List Char)} {segment : List Char}
    (member : segment ∈ resolveSegments held segments) : segment ∈ held ∨ segment ∈ segments := by
  induction segments generalizing held with
  | nil => exact .inl member
  | cons next segments inductionHypothesis =>
      rw [resolveSegments] at member
      split at member
      · rcases inductionHypothesis member with inHeld | later
        · exact .inl inHeld
        · exact .inr (List.mem_cons_of_mem _ later)
      · rcases inductionHypothesis member with inHeld | later
        · exact .inl (mem_climb inHeld)
        · exact .inr (List.mem_cons_of_mem _ later)
      · rcases inductionHypothesis member with inHeld | later
        · rcases List.mem_cons.1 inHeld with same | inRest
          · exact .inr (same ▸ List.mem_cons_self)
          · exact .inl inRest
        · exact .inr (List.mem_cons_of_mem _ later)

section Segments

/-- A segment is written in characters that stand for themselves and part no segments. -/
def IsPlainSegment (segment : List Char) : Prop :=
  ∀ character ∈ segment, isPlainInPath character ∧ character ≠ '/' ∧ character ≠ '\\'

/-- Resolved segments point nowhere else, and the last one is not empty. -/
structure AreResolved (segments : List (List Char)) : Prop where
  plain : ∀ segment ∈ segments, IsPlainSegment segment
  fixed : ∀ segment ∈ segments, dots segment ≠ some 1 ∧ dots segment ≠ some 2
  ended : ∀ last ∈ segments.getLast?, last ≠ []

theorem splitSegments_ne_nil (text : List Char) : splitSegments text ≠ [] := by
  cases text with
  | nil => exact List.cons_ne_nil _ _
  | cons character text =>
      rw [splitSegments]
      split
      · exact List.cons_ne_nil _ _
      · split <;> exact List.cons_ne_nil _ _

/-- A slash ends one segment and starts the next. -/
theorem splitSegments_append (text rest : List Char) :
    splitSegments (text ++ '/' :: rest) = splitSegments text ++ splitSegments rest := by
  induction text with
  | nil => exact if_pos (.inl rfl)
  | cons character text inductionHypothesis =>
      rw [List.cons_append, splitSegments, splitSegments]
      split
      · rw [inductionHypothesis, List.cons_append]
      · rw [inductionHypothesis]
        cases isSplit : splitSegments text with
        | nil => exact absurd isSplit (splitSegments_ne_nil text)
        | cons segment segments => rfl

theorem splitSegments_of_plain {segment : List Char} (plain : IsPlainSegment segment) :
    splitSegments segment = [segment] := by
  induction segment with
  | nil => rfl
  | cons character segment inductionHypothesis =>
      obtain ⟨⟨_, noSlash⟩, tailPlain⟩ := List.forall_mem_cons.1 plain
      rw [splitSegments, if_neg (not_or.2 noSlash), inductionHypothesis tailPlain]

theorem splitSegments_slashes (slashes : Nat) :
    splitSegments (List.replicate slashes '/') = List.replicate (slashes + 1) [] := by
  induction slashes with
  | zero => rfl
  | succ slashes inductionHypothesis =>
      rw [List.replicate_succ, splitSegments, if_pos (.inl rfl), inductionHypothesis]
      rfl

/-- Slashes behind a text add empty segments. -/
theorem splitSegments_append_slashes (text : List Char) (slashes : Nat) :
    splitSegments (text ++ List.replicate slashes '/') =
      splitSegments text ++ List.replicate slashes [] := by
  cases slashes with
  | zero => rw [List.replicate_zero, List.replicate_zero, List.append_nil, List.append_nil]
  | succ slashes => rw [List.replicate_succ, splitSegments_append, splitSegments_slashes]

theorem splitSegments_path {segment : List Char} {segments : List (List Char)}
    (plain : ∀ other ∈ segment :: segments, IsPlainSegment other) :
    splitSegments (segment ++ segments.flatMap fun other => '/' :: other) =
      segment :: segments := by
  induction segments generalizing segment with
  | nil =>
      rw [List.flatMap_nil, List.append_nil,
        splitSegments_of_plain (plain segment List.mem_cons_self)]
  | cons next segments inductionHypothesis =>
      obtain ⟨headPlain, tailPlain⟩ := List.forall_mem_cons.1 plain
      rw [List.flatMap_cons, List.cons_append, splitSegments_append,
        splitSegments_of_plain headPlain, inductionHypothesis tailPlain]
      rfl

/-- No slash of either kind is left in a segment. -/
theorem noSlash_of_mem_splitSegments {text segment : List Char}
    (member : segment ∈ splitSegments text) {character : Char} (inSegment : character ∈ segment) :
    character ≠ '/' ∧ character ≠ '\\' := by
  induction text generalizing segment with
  | nil =>
      rw [List.mem_singleton.1 member] at inSegment
      exact absurd inSegment List.not_mem_nil
  | cons first text inductionHypothesis =>
      rw [splitSegments] at member
      split at member
      · rcases List.mem_cons.1 member with isEmpty | later
        · rw [isEmpty] at inSegment
          exact absurd inSegment List.not_mem_nil
        · exact inductionHypothesis later inSegment
      · next noSlash =>
          cases isSplit : splitSegments text with
          | nil => exact absurd isSplit (splitSegments_ne_nil text)
          | cons other segments =>
              rw [isSplit] at member inductionHypothesis
              rcases List.mem_cons.1 member with isFirst | later
              · rw [isFirst] at inSegment
                rcases List.mem_cons.1 inSegment with same | inOther
                · rw [same]
                  exact not_or.1 noSlash
                · exact inductionHypothesis List.mem_cons_self inOther
              · exact inductionHypothesis (List.mem_cons_of_mem _ later) inSegment

theorem isPlainInPath_of_mem_encodeByte {byte : UInt8} {character : Char}
    (member : character ∈ encodeByte byte) :
    isPlainInPath character ∧ character ≠ '/' ∧ character ≠ '\\' := by
  have all : ∀ digit < 16, isPlainInPath (hexDigit digit) ∧ hexDigit digit ≠ '/' ∧
      hexDigit digit ≠ '\\' := by decide
  have bound := UInt8.toNat_lt byte
  simp only [encodeByte, List.mem_cons, List.not_mem_nil, or_false] at member
  rcases member with isPercent | isHigh | isLow
  · rw [isPercent]
    decide
  · rw [isHigh]
    exact all _ (by omega)
  · rw [isLow]
    exact all _ (by omega)

/-- Encoded characters stand for themselves. -/
theorem isPlainSegment_flatMap {segment : List Char}
    (noSlash : ∀ character ∈ segment, character ≠ '/' ∧ character ≠ '\\') :
    IsPlainSegment (segment.flatMap encodeInPath) := by
  intro character member
  obtain ⟨source, inSegment, encoded⟩ := List.mem_flatMap.1 member
  rw [encodeInPath] at encoded
  split at encoded
  · next plain =>
      rw [List.mem_singleton.1 encoded]
      exact ⟨plain, noSlash source inSegment⟩
  · obtain ⟨byte, _, inByte⟩ := List.mem_flatMap.1 encoded
    exact isPlainInPath_of_mem_encodeByte inByte

theorem flatMap_encodeInPath {segment : List Char} (plain : IsPlainSegment segment) :
    segment.flatMap encodeInPath = segment := by
  induction segment with
  | nil => rfl
  | cons character segment inductionHypothesis =>
      obtain ⟨headPlain, tailPlain⟩ := List.forall_mem_cons.1 plain
      rw [List.flatMap_cons, inductionHypothesis tailPlain, encodeInPath, if_pos headPlain.1]
      rfl

/-- Segments that point elsewhere do not stay. -/
theorem fixed_of_mem_resolveSegments {held segments : List (List Char)}
    (heldFixed : ∀ segment ∈ held, dots segment ≠ some 1 ∧ dots segment ≠ some 2) :
    ∀ segment ∈ resolveSegments held segments,
      dots segment ≠ some 1 ∧ dots segment ≠ some 2 := by
  induction segments generalizing held with
  | nil => exact heldFixed
  | cons next segments inductionHypothesis =>
      rw [resolveSegments]
      split
      · exact inductionHypothesis heldFixed
      · exact inductionHypothesis fun segment member => heldFixed segment (mem_climb member)
      · next notOne notTwo =>
          exact inductionHypothesis (List.forall_mem_cons.2 ⟨⟨notOne, notTwo⟩, heldFixed⟩)

theorem resolveSegments_of_fixed {segments : List (List Char)}
    (fixed : ∀ segment ∈ segments, dots segment ≠ some 1 ∧ dots segment ≠ some 2)
    (held : List (List Char)) : resolveSegments held segments = segments.reverse ++ held := by
  induction segments generalizing held with
  | nil => rfl
  | cons segment segments inductionHypothesis =>
      obtain ⟨⟨notOne, notTwo⟩, tailFixed⟩ := List.forall_mem_cons.1 fixed
      rw [resolveSegments]
      split
      · next one => exact absurd one notOne
      · next two => exact absurd two notTwo
      · rw [inductionHypothesis tailFixed, List.reverse_cons, List.append_assoc]
        rfl

theorem resolveSegments_append (held segments others : List (List Char)) :
    resolveSegments held (segments ++ others) =
      resolveSegments (resolveSegments held segments) others := by
  induction segments generalizing held with
  | nil => rfl
  | cons segment segments inductionHypothesis =>
      rw [List.cons_append, resolveSegments, resolveSegments]
      split <;> exact inductionHypothesis _

/-- Encoded segments are resolved from the first one on, and empty ones at the end are dropped. -/
def finish (segments : List (List Char)) : List (List Char) :=
  ((resolveSegments [] (segments.map fun segment => segment.flatMap encodeInPath)).dropWhile
    (· = [])).reverse

theorem baseSegments_eq (path : List Char) :
    baseSegments path = finish (splitSegments (path.drop 1)) := rfl

/-- Empty segments at the end change nothing. -/
theorem finish_append_empty (segments : List (List Char)) (count : Nat) :
    finish (segments ++ List.replicate count []) = finish segments := by
  have unchanged : (List.replicate count ([] : List Char)).map
      (fun segment : List Char => segment.flatMap encodeInPath) = List.replicate count [] := by
    rw [List.map_replicate]
    rfl
  have fixed : ∀ segment ∈ List.replicate count ([] : List Char),
      dots segment ≠ some 1 ∧ dots segment ≠ some 2 := by
    intro segment member
    rw [List.eq_of_mem_replicate member]
    decide
  have allEmpty : ∀ segment ∈ List.replicate count ([] : List Char),
      decide (segment = []) = true := by
    intro segment member
    rw [List.eq_of_mem_replicate member]
    rfl
  -- The list is held in reverse, so the empty segments are the first ones to be dropped.
  rw [finish, finish, List.map_append, unchanged, resolveSegments_append,
    resolveSegments_of_fixed fixed, List.reverse_replicate, List.dropWhile_append_of_pos allEmpty]

/-- Slashes behind a path do not count. -/
theorem baseSegments_append_slashes (path : List Char) (slashes : Nat) :
    baseSegments (path ++ List.replicate slashes '/') = baseSegments path := by
  rw [baseSegments_eq, baseSegments_eq]
  cases path with
  | cons first path =>
      rw [List.cons_append, List.drop_one, List.drop_one, List.tail_cons, List.tail_cons,
        splitSegments_append_slashes, finish_append_empty]
  | nil =>
      rw [List.nil_append, List.drop_replicate, splitSegments_slashes, List.drop_nil]
      have empty := finish_append_empty [] (slashes - 1 + 1)
      rwa [List.nil_append] at empty

/-- The segments of a path are resolved. -/
theorem areResolved_baseSegments (path : List Char) : AreResolved (baseSegments path) := by
  have inside {segment : List Char} (member : segment ∈ baseSegments path) :
      segment ∈ resolveSegments [] ((splitSegments (path.drop 1)).map
        fun segment => segment.flatMap encodeInPath) :=
    (List.dropWhile_sublist _).mem (List.mem_reverse.1 member)
  refine ⟨fun segment member => ?_, fun segment member => ?_, fun last isLast => ?_⟩
  · rcases mem_resolveSegments (inside member) with absent | inSegments
    · exact absurd absent List.not_mem_nil
    · obtain ⟨source, isSource, rfl⟩ := List.mem_map.1 inSegments
      exact isPlainSegment_flatMap fun _ => noSlash_of_mem_splitSegments isSource
  · exact fixed_of_mem_resolveSegments (fun _ absent => absurd absent List.not_mem_nil) segment
      (inside member)
  · have dropped := List.head?_dropWhile_not (fun segment : List Char => decide (segment = []))
      (resolveSegments [] ((splitSegments (path.drop 1)).map
        fun segment => segment.flatMap encodeInPath))
    rw [baseSegments_eq, finish, List.getLast?_reverse, Option.mem_def] at isLast
    rw [isLast] at dropped
    exact of_decide_eq_false dropped

/-- Resolved segments are read back from their path. -/
theorem baseSegments_of_areResolved {segments : List (List Char)}
    (resolved : AreResolved segments) :
    baseSegments (segments.flatMap fun segment => '/' :: segment) = segments := by
  have unchanged : segments.map (fun segment => segment.flatMap encodeInPath) = segments := by
    refine (List.map_congr_left fun segment member => ?_).trans (List.map_id _)
    exact flatMap_encodeInPath (resolved.plain segment member)
  have notEmpty : segments.reverse.dropWhile (· = []) = segments.reverse := by
    rw [List.dropWhile_eq_self_iff]
    intro positive isEmpty
    have first : segments.reverse.head? = some segments.reverse[0] :=
      List.head?_eq_getElem? ▸ List.getElem?_eq_getElem positive
    rw [List.head?_reverse] at first
    exact resolved.ended _ first (of_decide_eq_true isEmpty)
  have whole : finish segments = segments := by
    rw [finish, unchanged, resolveSegments_of_fixed resolved.fixed, List.append_nil, notEmpty,
      List.reverse_reverse]
  rw [baseSegments_eq]
  cases segments with
  | nil => exact finish_append_empty [] 1
  | cons segment segments =>
      rw [List.flatMap_cons, List.cons_append, List.drop_one, List.tail_cons,
        splitSegments_path fun other member => resolved.plain other member, whole]

end Segments

end Switchboard.Url
