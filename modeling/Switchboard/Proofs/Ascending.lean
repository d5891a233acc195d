import Mathlib.Data.List.Induction
import Switchboard.Ascending

/-
This file shows how ascending association lists are built from entries in order.
-/

namespace Switchboard.Ascending

variable {κ ν : Type} [Ord κ]

/-- A key that is larger than all others goes to the end. -/
theorem insert_of_all_lt [Std.OrientedOrd κ] (key : κ) (value : ν) (entries : List (κ × ν))
    (largest : ∀ other ∈ entries.map Prod.fst, compare other key = .lt) :
    insert key value entries = entries ++ [(key, value)] := by
  induction entries with
  | nil => rfl
  | cons entry rest inductionHypothesis =>
      obtain ⟨first, held⟩ := entry
      have after : compare key first = .gt :=
        Std.OrientedCmp.gt_of_lt (largest first List.mem_cons_self)
      have later := inductionHypothesis fun other member =>
        largest other (List.mem_cons_of_mem _ member)
      rw [insert, after, later]
      rfl

theorem find?_cons_self [Std.ReflOrd κ] (key : κ) (value : ν) (rest : List (κ × ν)) :
    find? key ((key, value) :: rest) = some value := by
  have same : compare key key = .eq := Std.ReflCmp.compare_self
  rw [find?, same]

theorem find?_cons_of_ne [Std.LawfulEqOrd κ] {key first : κ} (different : key ≠ first)
    (held : ν) (rest : List (κ × ν)) : find? key ((first, held) :: rest) = find? key rest := by
  rw [find?]
  split
  · next equal => exact absurd (Std.LawfulEqCmp.eq_of_compare equal) different
  · rfl

/-- A key that was inserted is found with its new value. -/
theorem find?_insert_self [Std.ReflOrd κ] (key : κ) (value : ν) (entries : List (κ × ν)) :
    find? key (insert key value entries) = some value := by
  induction entries with
  | nil => exact find?_cons_self key value []
  | cons entry rest inductionHypothesis =>
      obtain ⟨first, held⟩ := entry
      rw [insert]
      split
      · exact find?_cons_self key value _
      · exact find?_cons_self key value _
      · next after => rw [find?, after, inductionHypothesis]

/-- All other keys are found with their old values. -/
theorem find?_insert_of_ne [Std.LawfulEqOrd κ] {key other : κ} (different : other ≠ key)
    (value : ν) (entries : List (κ × ν)) :
    find? other (insert key value entries) = find? other entries := by
  induction entries with
  | nil => exact find?_cons_of_ne different value []
  | cons entry rest inductionHypothesis =>
      obtain ⟨first, held⟩ := entry
      rw [insert]
      split
      · exact find?_cons_of_ne different value _
      · next equal =>
          have same : key = first := Std.LawfulEqCmp.eq_of_compare equal
          rw [← same, find?_cons_of_ne different, find?_cons_of_ne different]
      · rw [find?, find?, inductionHypothesis]

/-- A value is found exactly under the keys that are there. -/
theorem isSome_find?_iff [Std.LawfulEqOrd κ] {key : κ} {entries : List (κ × ν)} :
    (find? key entries).isSome ↔ key ∈ entries.map Prod.fst := by
  induction entries with
  | nil => simp [find?]
  | cons entry rest inductionHypothesis =>
      obtain ⟨first, held⟩ := entry
      rw [List.map_cons, List.mem_cons]
      by_cases same : key = first
      · rw [← same, find?_cons_self]
        simp
      · rw [find?_cons_of_ne same, inductionHypothesis]
        simp [same]

theorem nodup_of_isAscending [Std.ReflOrd κ] {keys : List κ} (ascending : IsAscending keys) :
    keys.Nodup := by
  refine ascending.imp ?_
  rintro first second before rfl
  have same : compare first first = .eq := Std.ReflCmp.compare_self
  rw [same] at before
  cases before

/-- Entries that ascend already are taken over one by one. -/
theorem foldl_insert_of_isAscending [Std.OrientedOrd κ] (held rest : List (κ × ν))
    (ascending : IsAscending ((held ++ rest).map Prod.fst)) :
    rest.foldl (fun sorted entry => insert entry.1 entry.2 sorted) held = held ++ rest := by
  induction rest generalizing held with
  | nil => rw [List.foldl_nil, List.append_nil]
  | cons entry rest inductionHypothesis =>
      have largest : ∀ other ∈ held.map Prod.fst, compare other entry.1 = .lt := by
        intro other member
        rw [IsAscending, List.map_append, List.pairwise_append] at ascending
        exact ascending.2.2 other member entry.1 List.mem_cons_self
      rw [List.append_cons] at ascending
      rw [List.foldl_cons, insert_of_all_lt _ _ held largest, inductionHypothesis _ ascending,
        List.append_cons held entry rest]

/-- Entries that ascend already stay as they are. -/
theorem ofList_of_isAscending [Std.OrientedOrd κ] (entries : List (κ × ν))
    (ascending : IsAscending (entries.map Prod.fst)) : ofList entries = entries :=
  foldl_insert_of_isAscending [] entries ascending

/-- Nothing is held after an insertion but the new entry and the old ones. -/
theorem mem_insert {key : κ} {value : ν} {entries : List (κ × ν)} {entry : κ × ν}
    (member : entry ∈ insert key value entries) : entry = (key, value) ∨ entry ∈ entries := by
  induction entries with
  | nil => exact .inl (List.mem_singleton.1 member)
  | cons first rest inductionHypothesis =>
      rw [insert] at member
      split at member
      · exact List.mem_cons.1 member
      · obtain same | inRest := List.mem_cons.1 member
        · exact .inl same
        · exact .inr (List.mem_cons_of_mem _ inRest)
      · obtain same | inRest := List.mem_cons.1 member
        · exact .inr (List.mem_cons.2 (.inl same))
        · exact (inductionHypothesis inRest).imp_right (List.mem_cons_of_mem _)

theorem mem_ofList {entries : List (κ × ν)} {entry : κ × ν} (member : entry ∈ ofList entries) :
    entry ∈ entries := by
  have inside : ∀ held ∈ ofList entries, held ∈ entries := by
    refine List.foldlRecOn entries _ (motive := fun sorted : List (κ × ν) =>
      ∀ held ∈ sorted, held ∈ entries) (fun _ absent => absurd absent List.not_mem_nil) ?_
    intro sorted old next isNext held inserted
    obtain same | inSorted := mem_insert inserted
    · exact same ▸ isNext
    · exact old held inSorted
  exact inside entry member

/-- Entries in any order collapse to ascending ones. -/
theorem isAscending_ofList [Std.TransOrd κ] [Std.LawfulEqOrd κ] (entries : List (κ × ν)) :
    IsAscending ((ofList entries).map Prod.fst) := by
  refine List.foldlRecOn entries _ (motive := fun sorted : List (κ × ν) =>
    IsAscending (sorted.map Prod.fst)) List.Pairwise.nil ?_
  intro sorted ascending entry _
  exact isAscending_insert entry.1 entry.2 sorted ascending

theorem length_insert_le (key : κ) (value : ν) (entries : List (κ × ν)) :
    (insert key value entries).length ≤ entries.length + 1 := by
  induction entries with
  | nil => exact Nat.le_refl _
  | cons entry rest inductionHypothesis =>
      rw [insert]
      split
      · exact Nat.le_refl _
      · exact Nat.le_succ _
      · exact Nat.succ_le_succ inductionHypothesis

/-- Entries that collapse do not become more. -/
theorem length_ofList_le (entries : List (κ × ν)) : (ofList entries).length ≤ entries.length := by
  induction entries using List.reverseRecOn with
  | nil => exact Nat.le_refl _
  | append_singleton entries entry inductionHypothesis =>
      rw [ofList, List.foldl_append, List.length_append]
      exact Nat.le_trans (length_insert_le _ _ _) (Nat.succ_le_succ inductionHypothesis)

/-- Of several entries with one key the last one counts. -/
theorem find?_ofList [Std.LawfulEqOrd κ] [BEq κ] [LawfulBEq κ] (key : κ)
    (entries : List (κ × ν)) : find? key (ofList entries) = entries.reverse.lookup key := by
  induction entries using List.reverseRecOn with
  | nil => rfl
  | append_singleton entries entry inductionHypothesis =>
      obtain ⟨last, value⟩ := entry
      have inserted : ofList (entries ++ [(last, value)]) = insert last value (ofList entries) := by
        rw [ofList, List.foldl_append, List.foldl_cons, List.foldl_nil, ofList]
      rw [inserted, List.reverse_append, List.reverse_singleton, List.singleton_append,
        List.lookup_cons]
      by_cases same : key = last
      · rw [same, find?_insert_self, BEq.rfl]
      · rw [find?_insert_of_ne same, inductionHypothesis, beq_eq_false_iff_ne.2 same]

/-- A key that is smaller than all others is not among them. -/
theorem find?_of_all_lt {key : κ} {entries : List (κ × ν)}
    (smallest : ∀ other ∈ entries.map Prod.fst, compare key other = .lt) :
    find? key entries = none := by
  induction entries with
  | nil => rfl
  | cons entry rest inductionHypothesis =>
      obtain ⟨first, held⟩ := entry
      obtain ⟨before, later⟩ := List.forall_mem_cons.1 smallest
      rw [find?, before, inductionHypothesis later]

/-- Entries that ascend are known by the values that are found under the keys. -/
theorem eq_of_find?_eq [Std.TransOrd κ] [Std.LawfulEqOrd κ] {entries others : List (κ × ν)}
    (ascending : IsAscending (entries.map Prod.fst))
    (othersAscending : IsAscending (others.map Prod.fst))
    (same : ∀ key, find? key entries = find? key others) : entries = others := by
  induction entries generalizing others with
  | nil =>
      cases others with
      | nil => rfl
      | cons other others =>
          have found := same other.1
          rw [find?_cons_self] at found
          cases found
  | cons entry entries inductionHypothesis =>
      obtain ⟨key, value⟩ := entry
      obtain ⟨least, more⟩ := List.pairwise_cons.1 ascending
      cases others with
      | nil =>
          have found := same key
          rw [find?_cons_self] at found
          cases found
      | cons other others =>
          obtain ⟨otherKey, otherValue⟩ := other
          obtain ⟨otherLeast, otherMore⟩ := List.pairwise_cons.1 othersAscending
          -- the smaller of two different first keys would be found in one of the lists only
          have sameKey : key = otherKey := by
            cases order : compare key otherKey with
            | eq => exact Std.LawfulEqCmp.eq_of_compare order
            | lt =>
                have missing : find? key ((otherKey, otherValue) :: others) = none := by
                  refine find?_of_all_lt (List.forall_mem_cons.2 ⟨order, ?_⟩)
                  exact fun _ member => Std.TransCmp.lt_trans order (otherLeast _ member)
                rw [← same, find?_cons_self] at missing
                cases missing
            | gt =>
                have before : compare otherKey key = .lt := Std.OrientedCmp.lt_of_gt order
                have missing : find? otherKey ((key, value) :: entries) = none := by
                  refine find?_of_all_lt (List.forall_mem_cons.2 ⟨before, ?_⟩)
                  exact fun _ member => Std.TransCmp.lt_trans before (least _ member)
                rw [same, find?_cons_self] at missing
                cases missing
          subst sameKey
          have sameValue := same key
          rw [find?_cons_self, find?_cons_self, Option.some.injEq] at sameValue
          have sameRest : entries = others := by
            refine inductionHypothesis more otherMore fun other => ?_
            by_cases isFirst : other = key
            · rw [isFirst, find?_of_all_lt least, find?_of_all_lt otherLeast]
            · rw [← find?_cons_of_ne isFirst value, same, find?_cons_of_ne isFirst]
          rw [sameValue, sameRest]

end Switchboard.Ascending
