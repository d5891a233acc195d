/-
This file keeps association lists in ascending order of their keys, each key once.
-/

namespace Switchboard.Ascending

variable {κ ν : Type} [Ord κ]

/-- A new key goes in front of the first larger one; an old key gets the new value. -/
def insert (key : κ) (value : ν) : List (κ × ν) → List (κ × ν)
  | [] => [(key, value)]
  | (first, held) :: rest =>
    match compare key first with
    | .lt => (key, value) :: (first, held) :: rest
    | .eq => (key, value) :: rest
    | .gt => (first, held) :: insert key value rest

/-- The first entry with an equal key holds the value. -/
def find? (key : κ) : List (κ × ν) → Option ν
  | [] => none
  | (first, held) :: rest =>
    match compare key first with
    | .eq => some held
    | _ => find? key rest

/-- Entries in any order collapse to ascending ones, and the last value of a key stays. -/
def ofList (entries : List (κ × ν)) : List (κ × ν) :=
  entries.foldl (fun sorted entry => insert entry.1 entry.2 sorted) []

/-- Every key is smaller than all keys after it. -/
def IsAscending (keys : List κ) : Prop :=
  keys.Pairwise fun first second => compare first second = .lt

instance (keys : List κ) : Decidable (IsAscending keys) :=
  inferInstanceAs (Decidable (List.Pairwise _ _))

theorem mem_keys_insert (key : κ) (value : ν) (entries : List (κ × ν)) (other : κ) :
    other ∈ (insert key value entries).map Prod.fst →
      other = key ∨ other ∈ entries.map Prod.fst := by
  induction entries with
  | nil => simp [insert]
  | cons entry rest inductionHypothesis =>
      obtain ⟨first, held⟩ := entry
      rw [insert]
      split
      · simp
      · intro member
        rcases List.mem_cons.1 member with same | inRest
        · exact Or.inl same
        · exact Or.inr (List.mem_cons_of_mem _ inRest)
      · intro member
        rcases List.mem_cons.1 member with same | inRest
        · exact Or.inr (by simp [same])
        · rcases inductionHypothesis inRest with same | later
          · exact Or.inl same
          · exact Or.inr (List.mem_cons_of_mem _ later)

theorem isAscending_insert [Std.TransOrd κ] [Std.LawfulEqOrd κ] (key : κ) (value : ν)
    (entries : List (κ × ν)) (ascending : IsAscending (entries.map Prod.fst)) :
    IsAscending ((insert key value entries).map Prod.fst) := by
  induction entries with
  | nil => simp [insert, IsAscending]
  | cons entry rest inductionHypothesis =>
      obtain ⟨first, held⟩ := entry
      have parts := List.pairwise_cons.1 ascending
      rw [insert]
      split
      next before =>
        refine List.pairwise_cons.2 ⟨?_, ascending⟩
        intro other member
        rcases List.mem_cons.1 member with same | inRest
        · rw [same]
          exact before
        · exact Std.TransCmp.lt_trans before (parts.1 other inRest)
      next equal =>
        have same : key = first := Std.LawfulEqCmp.eq_of_compare equal
        subst same
        exact List.pairwise_cons.2 ⟨parts.1, parts.2⟩
      next after =>
        refine List.pairwise_cons.2 ⟨?_, inductionHypothesis parts.2⟩
        intro other member
        rcases mem_keys_insert key value rest other member with same | inRest
        · rw [same]
          exact Std.OrientedCmp.lt_of_gt after
        · exact parts.1 other inRest

end Switchboard.Ascending
