import Switchboard.Handlers

/-
This file shows that a path names the key it was written for, and no other path names that key.
-/

namespace Switchboard

theorem splitAtLastSlash_of_not_mem {text : List Char} (free : '/' ∉ text) :
    splitAtLastSlash text = none := by
  induction text with
  | nil => rfl
  | cons character text inductionHypothesis =>
      rw [List.mem_cons, not_or] at free
      rw [splitAtLastSlash, inductionHypothesis free.2]
      exact if_neg (Ne.symm free.1)

/-- The last slash is the one that no other slash follows. -/
theorem splitAtLastSlash_append (before : List Char) {after : List Char} (free : '/' ∉ after) :
    splitAtLastSlash (before ++ '/' :: after) = some (before, after) := by
  induction before with
  | nil =>
      rw [List.nil_append, splitAtLastSlash, splitAtLastSlash_of_not_mem free]
      rfl
  | cons character before inductionHypothesis =>
      rw [List.cons_append, splitAtLastSlash, inductionHypothesis]

/-- The two parts and the slash between them are the whole text. -/
theorem eq_append_of_splitAtLastSlash {text before after : List Char}
    (split : splitAtLastSlash text = some (before, after)) : text = before ++ '/' :: after := by
  induction text generalizing before after with
  | nil => cases split
  | cons character text inductionHypothesis =>
      rw [splitAtLastSlash] at split
      cases later : splitAtLastSlash text with
      | none =>
          simp only [later] at split
          split at split
          · next isSlash =>
              rw [Option.some.injEq, Prod.mk.injEq] at split
              rw [← split.1, ← split.2, isSlash, List.nil_append]
          · cases split
      | some parts =>
          obtain ⟨behind, last⟩ := parts
          simp only [later, Option.some.injEq, Prod.mk.injEq] at split
          rw [← split.1, ← split.2, inductionHypothesis later, List.cons_append]

namespace OperationKey

/-- A key is made of its own parts only. -/
theorem make_eq_ok {namespaceName operation : String} {key : OperationKey} :
    make namespaceName operation = .ok key ↔
      key.namespaceName = namespaceName ∧ key.operation = operation := by
  constructor
  · intro made
    rw [make] at made
    split at made
    · cases made
    split at made
    · cases made
    split at made
    · cases made
    rw [Except.ok.injEq] at made
    rw [← made]
    exact ⟨rfl, rfl⟩
  · rintro ⟨rfl, rfl⟩
    rw [make, dif_neg key.namespaceNonempty, dif_neg key.operationNonempty,
      dif_neg key.operationNoSlash]

theorem make?_parts (key : OperationKey) : make? key.namespaceName key.operation = some key := by
  have made : make key.namespaceName key.operation = .ok key := make_eq_ok.2 ⟨rfl, rfl⟩
  rw [make?, made]
  rfl

theorem toList_path (key : OperationKey) :
    key.path.toList = '/' :: (key.namespaceName.toList ++ '/' :: key.operation.toList) := by
  simp only [path, String.toList_append, List.append_assoc, toString]
  rfl

/-- A request for a key is routed by the same key. -/
theorem ofPath?_path (key : OperationKey) : ofPath? key.path = some key := by
  rw [ofPath?, toList_path]
  simp only [splitAtLastSlash_append _ key.operationNoSlash, String.ofList_toList, make?_parts]

/-- No other path names a key. -/
theorem eq_path_of_ofPath? {path : String} {key : OperationKey} (named : ofPath? path = some key) :
    path = key.path := by
  rw [ofPath?] at named
  split at named
  · next rest starts =>
      split at named
      · next before after split =>
          cases made : make (String.ofList before) (String.ofList after) with
          | error fault =>
              rw [make?, made] at named
              cases named
          | ok found =>
              rw [make?, made] at named
              obtain ⟨sameNamespace, sameOperation⟩ := make_eq_ok.1 made
              have same : found = key := Option.some.inj named
              rw [← String.toList_inj, toList_path, ← same, sameNamespace, sameOperation, starts,
                String.toList_ofList, String.toList_ofList, eq_append_of_splitAtLastSlash split]
      · cases named
  · cases named

/-- A path is read as a key exactly when it is the path of that key. -/
theorem ofPath?_eq_some_iff {path : String} {key : OperationKey} :
    ofPath? path = some key ↔ path = key.path := by
  constructor
  · exact eq_path_of_ofPath?
  · rintro rfl
    exact ofPath?_path key

/-- Wherever slashes stand in the namespaces, different keys have different paths. -/
theorem path_injective : Function.Injective path := by
  intro first second same
  have read := ofPath?_path first
  rw [same, ofPath?_path, Option.some.injEq] at read
  exact read.symm

theorem path_eq (key : OperationKey) :
    key.path = "/" ++ key.namespaceName ++ "/" ++ key.operation := rfl

end OperationKey

end Switchboard
