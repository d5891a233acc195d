import Mathlib.Data.Finset.Card
import Switchboard.Proofs.Ascending
import Switchboard.Proofs.Customers.Composition

/-
This file says what the service remembers of the calls before: what each call returns, what the
store and its list of announced numbers hold, and that a lookup leaves no trace in them.
-/

namespace Switchboard.Customers

namespace Call

section Specification

/-- The store that a run of calls leaves behind is the one after its last call. -/
def settle {α : Type} (perform : Call → Action MemoryStore α) (calls : List Call)
    (store : MemoryStore) : MemoryStore :=
  calls.foldl (fun held call => (perform call held).2) store

def created? : Call → Option Customer
  | .create customer => some customer
  | .get _ => none

/-- These customers were created, in the order of their calls. -/
def createdIn (calls : List Call) : List Customer := calls.filterMap created?

/-- The most recent customer that was created with this number. -/
def lastCreated? (id : Int64) (calls : List Call) : Option Customer :=
  (createdIn calls).reverse.find? fun customer => customer.id = id

/-- A call is answered on account of the calls before it. -/
def expected (before : List Call) : Call → Except ServiceError Customer
  | .create customer => .ok customer
  | .get id =>
    match lastCreated? id before with
    | some customer => .ok customer
    | none => .error (.notFound id)

/-- Of all items only those at these places are kept. -/
def keep {α : Type} (places : Nat → Bool) : List α → List α
  | [] => []
  | item :: items =>
    if places 0 then item :: keep (fun place => places (place + 1)) items
    else keep (fun place => places (place + 1)) items

end Specification

section Trace

variable {α : Type} {perform : Call → Action MemoryStore α}

/-- Every call of a run has its own entry, and runs on what the calls before it left. -/
theorem getElem?_trace (before : List Call) (call : Call) (after : List Call)
    (store : MemoryStore) :
    (trace perform (before ++ call :: after) store)[before.length]? =
      some (perform call (settle perform before store)) := by
  induction before generalizing store with
  | nil => rfl
  | cons first before inductionHypothesis => exact inductionHypothesis _

theorem settle_append (calls : List Call) (call : Call) (store : MemoryStore) :
    settle perform (calls ++ [call]) store =
      (perform call (settle perform calls store)).2 := by
  rw [settle, settle, List.foldl_append, List.foldl_cons, List.foldl_nil]

/-- Calls that leave the store as it is can be left out of a run. -/
theorem trace_keep {places : Nat → Bool} {calls : List Call}
    (still : ∀ place call, calls[place]? = some call → places place = false →
      ∀ store, (perform call store).2 = store) (store : MemoryStore) :
    trace perform (keep places calls) store = keep places (trace perform calls store) ∧
      settle perform (keep places calls) store = settle perform calls store := by
  induction calls generalizing places store with
  | nil => exact ⟨rfl, rfl⟩
  | cons call calls inductionHypothesis =>
      have later := inductionHypothesis fun place => still (place + 1)
      by_cases stays : places 0 = true
      · obtain ⟨sameTrace, sameStore⟩ := later (perform call store).2
        rw [keep, trace, keep, if_pos stays, if_pos stays, trace, sameTrace]
        exact ⟨rfl, sameStore⟩
      · have same : (perform call store).2 = store :=
          still 0 call rfl (Bool.eq_false_of_not_eq_true stays) store
        rw [keep, trace, keep, if_neg stays, if_neg stays, same]
        simp only [settle, List.foldl_cons, same]
        exact later store

end Trace

theorem createdIn_append (calls : List Call) (call : Call) :
    createdIn (calls ++ [call]) = createdIn calls ++ call.created?.toList := by
  rw [createdIn, List.filterMap_append, createdIn]
  cases call <;> rfl

theorem lastCreated?_append_create (id : Int64) (calls : List Call) (customer : Customer) :
    lastCreated? id (calls ++ [.create customer]) =
      if customer.id = id then some customer else lastCreated? id calls := by
  simp only [lastCreated?, createdIn_append, created?, Option.toList_some, List.reverse_append,
    List.reverse_singleton, List.singleton_append, List.find?_cons]
  by_cases same : customer.id = id
  · simp [same]
  · simp [same]

theorem lastCreated?_append_get (id asked : Int64) (calls : List Call) :
    lastCreated? id (calls ++ [.get asked]) = lastCreated? id calls := by
  rw [lastCreated?, createdIn_append, created?, Option.toList_none, List.append_nil, lastCreated?]

/-- A customer was created with a number exactly if this is among the numbers of those created. -/
theorem isSome_lastCreated?_iff {id : Int64} {calls : List Call} :
    (lastCreated? id calls).isSome ↔ id ∈ (createdIn calls).map Customer.id := by
  simp [lastCreated?, List.find?_isSome]

end Call

namespace MemoryStore

open Call

/-- Saved customers and announced numbers are held apart, and the calls explain both. -/
structure Reflects (calls : List Call) (store : MemoryStore) : Prop where
  stored : ∀ id, store.find? id = lastCreated? id calls
  announced : store.created = (createdIn calls).map Customer.id
  ascending : Ascending.IsAscending (store.customers.map Prod.fst)

theorem reflects_empty : Reflects [] empty :=
  ⟨fun _ => rfl, rfl, List.Pairwise.nil⟩

/-- One more call is explained as well. -/
theorem Reflects.step {calls : List Call} {store : MemoryStore} (reflects : Reflects calls store)
    (call : Call) : Reflects (calls ++ [call]) (call.direct store).2 := by
  cases call with
  | create customer =>
      rw [Composition.direct_create_run]
      constructor
      · intro id
        rw [lastCreated?_append_create]
        change (store.save customer).find? id = _
        by_cases same : customer.id = id
        · rw [if_pos same, ← same, find?_save_self]
        · rw [if_neg same, find?_save_of_ne (Ne.symm same), reflects.stored]
      · rw [createdIn_append, List.map_append, ← reflects.announced]
        rfl
      · exact Ascending.isAscending_insert _ _ _ reflects.ascending
  | get asked =>
      rw [Composition.direct_get_run]
      constructor
      · intro id
        rw [lastCreated?_append_get, reflects.stored]
      · rw [createdIn_append, created?, Option.toList_none, List.append_nil, reflects.announced]
      · exact reflects.ascending

theorem reflects_settle (calls : List Call) :
    Reflects calls (settle direct calls empty) := by
  induction calls using List.reverseRecOn with
  | nil => exact reflects_empty
  | append_singleton calls call inductionHypothesis =>
      rw [settle_append]
      exact inductionHypothesis.step call

section Reflected

variable {calls : List Call} {store : MemoryStore}

theorem Reflects.direct_fst (reflects : Reflects calls store) (call : Call) :
    (call.direct store).1 = .returned (expected calls call) := by
  cases call with
  | create customer =>
      rw [Composition.direct_create_run, expected]
  | get id =>
      have stored := reflects.stored id
      rw [Composition.direct_get_run]
      cases created : lastCreated? id calls with
      | none | some customer =>
          rw [created] at stored
          simp only [fetch, stored, expected, created]

/-- The store holds one customer for each number that was announced, however often it was. -/
theorem Reflects.size_eq (reflects : Reflects calls store) :
    store.size = store.created.toFinset.card := by
  have distinct := Ascending.nodup_of_isAscending reflects.ascending
  have same : store.created.toFinset = (store.customers.map Prod.fst).toFinset := by
    ext id
    rw [List.mem_toFinset, List.mem_toFinset, ← Ascending.isSome_find?_iff, reflects.announced,
      ← isSome_lastCreated?_iff, ← reflects.stored]
    rfl
  rw [same, List.toFinset_card_of_nodup distinct, List.length_map, size]

theorem Reflects.isEmpty_iff (reflects : Reflects calls store) :
    store.isEmpty = true ↔ store.created = [] := by
  rw [isEmpty, List.isEmpty_iff, ← List.length_eq_zero_iff, ← size, reflects.size_eq,
    Finset.card_eq_zero, List.toFinset_eq_empty_iff]

end Reflected

end MemoryStore

open Call

/-- This is what the service remembers of a run of calls that starts with an empty store. -/
structure Remembers (calls : List Call) : Prop where
  /-- Each call is answered on account of those before it, and has its place in the run. -/
  answered : ∀ before call after, calls = before ++ call :: after →
    (trace direct calls MemoryStore.empty)[before.length]? =
      some (.returned (expected before call), settle direct (before ++ [call]) MemoryStore.empty)
  /-- A number is announced for each create call, in the order of these calls. -/
  announced : (settle direct calls MemoryStore.empty).created =
    (createdIn calls).map Customer.id
  /-- As many customers are stored as there are different numbers among the announced ones. -/
  size_eq : (settle direct calls MemoryStore.empty).size =
    (settle direct calls MemoryStore.empty).created.toFinset.card
  /-- Nothing is stored exactly if nothing was announced. -/
  isEmpty_iff : (settle direct calls MemoryStore.empty).isEmpty = true ↔
    (settle direct calls MemoryStore.empty).created = []
  /-- A lookup does not change the store. -/
  lookup_still : ∀ before id after, calls = before ++ .get id :: after →
    settle direct (before ++ [.get id]) MemoryStore.empty =
      settle direct before MemoryStore.empty
  /-- Any lookups can be left out, and all other calls still return and leave the same. -/
  without_lookups : ∀ places : Nat → Bool,
    (∀ place customer, calls[place]? = some (.create customer) → places place = true) →
    trace direct (keep places calls) MemoryStore.empty =
        keep places (trace direct calls MemoryStore.empty) ∧
      settle direct (keep places calls) MemoryStore.empty =
        settle direct calls MemoryStore.empty

/-- The service remembers every run of calls, however often a number is created in it. -/
theorem remembers_calls (calls : List Call) : Remembers calls := by
  have reflects := MemoryStore.reflects_settle calls
  refine ⟨?_, reflects.announced, reflects.size_eq, reflects.isEmpty_iff, ?_, ?_⟩
  · rintro before call after rfl
    have answer := (MemoryStore.reflects_settle before).direct_fst call
    rw [getElem?_trace, settle_append, ← answer]
  · rintro before id after rfl
    rw [settle_append, Composition.direct_get_run]
  · intro places creates
    apply trace_keep
    intro place call held dropped store
    cases call with
    | create customer =>
        rw [creates place customer held] at dropped
        cases dropped
    | get id => rw [Composition.direct_get_run]

end Switchboard.Customers
