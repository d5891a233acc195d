import Mathlib.Data.Finset.Card
import Switchboard.Proofs.Invocation
import Switchboard.Proofs.Text.Order

/-
This file says what a table holds after any history of registrations, and which handler a caller in
the same process reaches through it.
-/

namespace Switchboard

variable {σ : Type}

namespace OperationKey

/-- Two texts are the parts of a key under these conditions. -/
def AreParts (namespaceName operation : String) : Prop :=
  namespaceName ≠ "" ∧ operation ≠ "" ∧ '/' ∉ operation.toList

instance instDecidableAreParts (namespaceName operation : String) :
    Decidable (AreParts namespaceName operation) :=
  inferInstanceAs (Decidable (_ ∧ _ ∧ _))

/-- A key comes before another by the bytes of its namespace, and then by those of its operation. -/
def Precedes (first second : OperationKey) : Prop :=
  Text.Utf8.encode first.namespaceName < Text.Utf8.encode second.namespaceName ∨
    first.namespaceName = second.namespaceName ∧
      Text.Utf8.encode first.operation < Text.Utf8.encode second.operation

theorem areParts (key : OperationKey) : AreParts key.namespaceName key.operation :=
  ⟨key.namespaceNonempty, key.operationNonempty, key.operationNoSlash⟩

/-- A key is made of two texts, or the fault in them is reported. -/
theorem make_cases (namespaceName operation : String) :
    (AreParts namespaceName operation ∧ ∃ key, make namespaceName operation = .ok key) ∨
      (¬ AreParts namespaceName operation ∧ ∃ fault, make namespaceName operation = .error fault) := by
  cases made : make namespaceName operation with
  | ok key =>
      obtain ⟨rfl, rfl⟩ := make_eq_ok.1 made
      exact .inl ⟨key.areParts, key, rfl⟩
  | error fault =>
      refine .inr ⟨?_, fault, rfl⟩
      rintro ⟨nonemptyNamespace, nonemptyOperation, noSlash⟩
      rw [make, dif_neg nonemptyNamespace, dif_neg nonemptyOperation, dif_neg noSlash] at made
      cases made

/-- The order of keys is the order of their bytes. -/
theorem precedes_of_compare {first second : OperationKey}
    (ordered : Ord.compare first second = .lt) : Precedes first second := by
  obtain below | ⟨same, below⟩ := Ordering.then_eq_lt.1 ordered
  · exact .inl (Text.Utf8.encode_lt (compareOfLessAndEq_eq_lt.1 below))
  · exact .inr ⟨Std.LawfulEqCmp.eq_of_compare same, Text.Utf8.encode_lt (compareOfLessAndEq_eq_lt.1 below)⟩

end OperationKey

namespace Handlers

section Specification

/-- The last registration of two texts that comes with a handler decides on their handler. -/
def lastHandler? (history : List (Registration σ)) (namespaceName operation : String) :
    Option (Handler σ) :=
  history.reverse.findSome? fun registration =>
    if registration.namespaceName = namespaceName ∧ registration.operation = operation then
      registration.handler
    else none

/-- Texts that are no key have no handler, whatever was registered for them. -/
def expected? (history : List (Registration σ)) (namespaceName operation : String) :
    Option (Handler σ) :=
  if OperationKey.AreParts namespaceName operation then
    lastHandler? history namespaceName operation
  else none

/-- These texts were registered with a handler, in the order of their registrations. -/
def boundParts (history : List (Registration σ)) : List (String × String) :=
  (history.filter fun registration =>
      OperationKey.AreParts registration.namespaceName registration.operation ∧
        registration.handler.isSome).map
    fun registration => (registration.namespaceName, registration.operation)

end Specification

theorem ofHistory_append (history : List (Registration σ)) (registration : Registration σ) :
    ofHistory (history ++ [registration]) = (ofHistory history).apply registration := by
  rw [ofHistory, List.foldl_append, List.foldl_cons, List.foldl_nil, ofHistory]

theorem lookup_of_not_areParts {namespaceName operation : String}
    (invalid : ¬ OperationKey.AreParts namespaceName operation) (handlers : Handlers σ) :
    handlers.lookup namespaceName operation = none := by
  obtain ⟨valid, _⟩ | ⟨_, fault, made⟩ := OperationKey.make_cases namespaceName operation
  · exact absurd valid invalid
  · rw [lookup, OperationKey.make?, made]
    rfl

/-- A table finds the handler that its history says. -/
theorem lookup_ofHistory_eq (history : List (Registration σ)) (namespaceName operation : String) :
    (ofHistory history).lookup namespaceName operation =
      expected? history namespaceName operation := by
  obtain ⟨valid, key, made⟩ | ⟨invalid, _⟩ := OperationKey.make_cases namespaceName operation
  · rw [expected?, if_pos valid]
    induction history using List.reverseRecOn with
    | nil => rw [lookup_of_make made]; rfl
    | append_singleton history registration inductionHypothesis =>
        rw [ofHistory_append, lastHandler?, List.reverse_append, List.reverse_singleton,
          List.singleton_append, List.findSome?_cons]
        by_cases same : registration.namespaceName = namespaceName ∧
            registration.operation = operation ∧ registration.handler.isSome
        · obtain ⟨rfl, rfl, present⟩ := same
          obtain ⟨handler, given⟩ := Option.isSome_iff_exists.1 present
          obtain ⟨first, second, _⟩ := registration
          simp only at given made
          rw [given, lookup_apply made]
          simp
        · have other : registration.namespaceName = namespaceName →
              registration.operation = operation → registration.handler = none := by
            intro sameNamespace sameOperation
            by_contra present
            exact same ⟨sameNamespace, sameOperation, Option.isSome_iff_ne_none.2 present⟩
          rw [lookup_apply_of_other _ other, inductionHypothesis, lastHandler?]
          split
          · next handler found =>
              split at found
              · next both => rw [other both.1 both.2] at found; cases found
              · cases found
          · rfl
  · rw [expected?, if_neg invalid, lookup_of_not_areParts invalid]

/-- A handler is expected exactly for the texts that were registered with one. -/
theorem isSome_expected?_iff {history : List (Registration σ)} {namespaceName operation : String} :
    (expected? history namespaceName operation).isSome ↔
      (namespaceName, operation) ∈ boundParts history := by
  rw [boundParts, List.mem_map, expected?]
  constructor
  · intro present
    split at present
    · next valid =>
        obtain ⟨registration, member, given⟩ := List.findSome?_isSome_iff.1 present
        split at given
        · next same =>
            obtain ⟨rfl, rfl⟩ := same
            refine ⟨registration, ?_, rfl⟩
            rw [List.mem_filter, decide_eq_true_eq]
            exact ⟨List.mem_reverse.1 member, valid, given⟩
        · cases given
    · cases present
  · rintro ⟨registration, member, same⟩
    rw [Prod.mk.injEq] at same
    obtain ⟨rfl, rfl⟩ := same
    rw [List.mem_filter, decide_eq_true_eq] at member
    obtain ⟨inHistory, valid, given⟩ := member
    rw [if_pos valid, lastHandler?, List.findSome?_isSome_iff]
    refine ⟨registration, List.mem_reverse.2 inHistory, ?_⟩
    rw [if_pos ⟨rfl, rfl⟩]
    exact given

theorem mem_keys_iff {handlers : Handlers σ} {key : OperationKey} :
    key ∈ handlers.keys ↔ (handlers.lookup key.namespaceName key.operation).isSome := by
  rw [lookup_of_make (OperationKey.make_eq_ok.2 ⟨rfl, rfl⟩), get?, Ascending.isSome_find?_iff, keys]

/-- The keys of a table are the texts that were registered with a handler. -/
theorem exists_mem_keys_iff {history : List (Registration σ)} {namespaceName operation : String} :
    (∃ key ∈ (ofHistory history).keys,
        key.namespaceName = namespaceName ∧ key.operation = operation) ↔
      (namespaceName, operation) ∈ boundParts history := by
  rw [← isSome_expected?_iff, ← lookup_ofHistory_eq]
  constructor
  · rintro ⟨key, member, rfl, rfl⟩
    exact mem_keys_iff.1 member
  · intro present
    obtain ⟨_, key, made⟩ | ⟨invalid, _⟩ := OperationKey.make_cases namespaceName operation
    · obtain ⟨rfl, rfl⟩ := OperationKey.make_eq_ok.1 made
      exact ⟨key, mem_keys_iff.2 present, rfl, rfl⟩
    · rw [lookup_of_not_areParts invalid] at present
      cases present

theorem precedes_keys (handlers : Handlers σ) : handlers.keys.Pairwise OperationKey.Precedes :=
  handlers.ascending.imp OperationKey.precedes_of_compare

/-- Keys are counted once, however often they were registered. -/
theorem size_ofHistory (history : List (Registration σ)) :
    (ofHistory history).size = (boundParts history).toFinset.card := by
  have distinct : ((ofHistory history).keys.map
      fun key => (key.namespaceName, key.operation)).Nodup := by
    refine List.Nodup.map ?_ (Ascending.nodup_of_isAscending (ofHistory history).ascending)
    intro first second same
    rw [Prod.mk.injEq] at same
    exact OperationKey.eq_of_parts same.1 same.2
  have sameMembers : (boundParts history).toFinset = ((ofHistory history).keys.map
      fun key => (key.namespaceName, key.operation)).toFinset := by
    ext ⟨namespaceName, operation⟩
    rw [List.mem_toFinset, List.mem_toFinset, ← exists_mem_keys_iff, List.mem_map]
    simp only [Prod.mk.injEq]
  rw [sameMembers, List.toFinset_card_of_nodup distinct, List.length_map, size, keys,
    List.length_map]

/-- A registration is refused for its texts alone, and then it leaves the table as it is. -/
theorem register_ofHistory (history : List (Registration σ)) (registration : Registration σ) :
    let answer := (ofHistory history).register registration.namespaceName registration.operation
      registration.handler
    let after := ofHistory (history ++ [registration])
    (OperationKey.AreParts registration.namespaceName registration.operation ∧ answer = .ok after) ∨
      (¬ OperationKey.AreParts registration.namespaceName registration.operation ∧
        (∃ reason, answer = .error (.invalidKey reason)) ∧ after = ofHistory history) := by
  intro answer after
  have applied : after = (ofHistory history).apply registration :=
    ofHistory_append history registration
  have answered : answer = (ofHistory history).register registration.namespaceName
    registration.operation registration.handler := rfl
  rw [apply, ← answered] at applied
  rw [register] at answered
  obtain ⟨valid, key, made⟩ | ⟨invalid, fault, made⟩ :=
    OperationKey.make_cases registration.namespaceName registration.operation
  · refine .inl ⟨valid, ?_⟩
    rw [made] at answered
    cases given : registration.handler with
    | none =>
        simp only [given] at answered
        rw [applied, answered]
    | some handler =>
        simp only [given] at answered
        rw [applied, answered]
  · refine .inr ⟨invalid, ?_⟩
    rw [made] at answered
    rw [applied, answered]
    exact ⟨⟨_, rfl⟩, rfl⟩

/--
The history of a table decides everything that is asked of it: which registrations are refused,
which handler is found and called for two texts, how many keys there are, and which they are. Keys
are listed in the order of their bytes.
-/
theorem table_of_history (history : List (Registration σ)) :
    (∀ registration : Registration σ,
      let answer := (ofHistory history).register registration.namespaceName
        registration.operation registration.handler
      let after := ofHistory (history ++ [registration])
      let valid := registration.namespaceName ≠ "" ∧ registration.operation ≠ "" ∧
        '/' ∉ registration.operation.toList
      (valid ∧ answer = .ok after) ∨
        (¬ valid ∧ (∃ reason, answer = .error (.invalidKey reason)) ∧
          after = ofHistory history)) ∧
    (∀ namespaceName operation, (ofHistory history).lookup namespaceName operation =
      expected? history namespaceName operation) ∧
    (ofHistory history).size = (boundParts history).toFinset.card ∧
    (∀ namespaceName operation, (∃ key ∈ (ofHistory history).keys,
        key.namespaceName = namespaceName ∧ key.operation = operation) ↔
      (namespaceName, operation) ∈ boundParts history) ∧
    (ofHistory history).keys.Nodup ∧ (ofHistory history).keys.Pairwise OperationKey.Precedes ∧
    ∀ namespaceName operation payload,
      Transport.localTo (ofHistory history) namespaceName operation payload =
        match expected? history namespaceName operation with
        | some handler => handler payload
        | none => pure (.error (.routing namespaceName operation)) := by
  refine ⟨register_ofHistory history, lookup_ofHistory_eq history, size_ofHistory history,
    fun _ _ => exists_mem_keys_iff, Ascending.nodup_of_isAscending (ofHistory history).ascending,
    precedes_keys _, ?_⟩
  intro namespaceName operation payload
  rw [Transport.localTo, lookup_ofHistory_eq]
  cases expected? history namespaceName operation <;> rfl

/-- A slash may stand in a namespace, and where it stands tells keys apart. -/
example : ((ofHistory [⟨"a/b", "c", some fun _ => Action.never⟩,
    ⟨"a", "b/c", some fun _ => Action.never⟩, ⟨"a", "b", some fun _ => Action.never⟩,
    ⟨"a/b", "c", none⟩] : Handlers Unit).keys.map fun key => (key.namespaceName, key.operation)) =
      [("a", "b"), ("a/b", "c")] := by
  decide

end Handlers

end Switchboard
