import Mathlib.Algebra.BigOperators.Intervals
import Mathlib.Algebra.Order.BigOperators.Group.Finset
import Switchboard.Proofs.Customers.Interleaving

/-
This file says what calls that run side by side leave behind: what is stored, who is announced, and
what each call returns.
-/

namespace Switchboard.Customers.Concurrency

/-- The deeds of a run are those of its callers taken together. -/
theorem countP_deedsIn (test : Deed → Bool) {events : List Event} {callers : Nat}
    (absent : ∀ caller, callers ≤ caller → deedsOf caller events = []) :
    (deedsIn events).countP test =
      ∑ caller ∈ Finset.range callers, (deedsOf caller events).countP test := by
  induction events using List.reverseRecOn with
  | nil =>
      refine (Finset.sum_eq_zero ?_).symm
      exact fun _ _ => rfl
  | append_singleton events event inductionHypothesis =>
      rw [deedsIn_append, List.countP_append]
      cases event with
      | started call =>
          simp only [deedsOf_append_started] at absent ⊢
          exact inductionHypothesis absent
      | did other deed =>
          simp only [deedsOf_append_did] at absent ⊢
          have inRange : other ∈ Finset.range callers := by
            rw [Finset.mem_range]
            by_contra outside
            have nothing := absent other (Nat.le_of_not_lt outside)
            rw [if_pos rfl] at nothing
            exact List.append_ne_nil_of_right_ne_nil _ (List.cons_ne_nil _ _) nothing
          have earlier (caller : Nat) (outside : callers ≤ caller) : deedsOf caller events = [] :=
            (List.append_eq_nil_iff.1 (absent caller outside)).1
          have one (caller : Nat) : (if other = caller then [deed] else []).countP test =
              if other = caller then [deed].countP test else 0 := by
            split <;> rfl
          simp only [List.countP_append, Finset.sum_add_distrib, one, Finset.sum_ite_eq, inRange,
            if_true]
          rw [inductionHypothesis earlier]
          rfl

variable {events : List Event} {pool : Pool}

theorem mem_deedsOf {caller : Nat} {deed : Deed} :
    deed ∈ deedsOf caller events ↔ .did caller deed ∈ events := by
  rw [deedsOf, List.mem_filterMap]
  constructor
  · rintro ⟨event, member, same⟩
    cases event with
    | started call => cases same
    | did other held =>
        rw [Event.deedOf?] at same
        split at same
        · next isCaller =>
            rw [Option.some.injEq] at same
            rwa [isCaller, same] at member
        · cases same
  · intro member
    exact ⟨_, member, if_pos rfl⟩

/-- Every caller that did something has a thread that stands where its deeds have brought it. -/
theorem Tracks.exists_thread {threads : List Thread} (tracks : Tracks events threads)
    {caller : Nat} {deed : Deed} (member : .did caller deed ∈ events) :
    ∃ thread, threads[caller]? = some thread ∧
      Progress thread.call (deedsOf caller events) thread.script := by
  cases held : threads[caller]? with
  | none =>
      have nothing := tracks.absent caller held
      rw [← mem_deedsOf, nothing] at member
      cases member
  | some thread => exact ⟨thread, rfl, tracks.progress caller thread held⟩

theorem exists_saved_of_lastSaved? {id : Int64} {customer : Customer} {answer : Unit}
    {caller : Nat} (member : .did caller (.save customer (.ok answer)) ∈ events)
    (same : customer.id = id) : (lastSaved? id events).isSome := by
  rw [lastSaved?, List.findSome?_isSome_iff]
  refine ⟨_, List.mem_reverse.2 member, ?_⟩
  rw [Event.saved?, if_pos same]
  rfl

/-- A number that is among the announced ones was saved before by the same call. -/
theorem Explains.announced_saved (explains : Explains events pool) {id : Int64}
    (announced : id ∈ pool.store.created) : (pool.store.find? id).isSome := by
  rw [← List.count_pos_iff, explains.counted, List.countP_pos_iff] at announced
  obtain ⟨deed, member, announces⟩ := announced
  obtain ⟨event, inEvents, isDeed⟩ := List.mem_filterMap.1 member
  cases event with
  | started call => cases isDeed
  | did caller held =>
      rw [Event.deed?, Option.some.injEq] at isDeed
      rw [isDeed] at inEvents
      obtain ⟨thread, _, progress⟩ := explains.tracks.exists_thread inEvents
      have atLeast := progress.countP_le id
      have once : 0 < (deedsOf caller events).countP (Deed.announces id) :=
        List.countP_pos_iff.2 ⟨deed, mem_deedsOf.2 inEvents, announces⟩
      obtain ⟨save, inDeeds, saves⟩ := List.countP_pos_iff.1 (Nat.lt_of_lt_of_le once atLeast)
      cases save with
      | save customer answer =>
          cases answer with
          | error failure => cases saves
          | ok done =>
              rw [Deed.saves, decide_eq_true_eq] at saves
              rw [explains.stored, Option.isSome_map]
              exact exists_saved_of_lastSaved? (mem_deedsOf.1 inDeeds) saves
      | announce => cases saves
      | fetch => cases saves

/-- Each call announces at most what it saved, and so do all calls together. -/
theorem Explains.count_created_le (explains : Explains events pool) (id : Int64) :
    pool.store.created.count id ≤ (deedsIn events).countP (Deed.saves id) := by
  have absent (caller : Nat) (outside : pool.threads.length ≤ caller) :
      deedsOf caller events = [] :=
    explains.tracks.absent caller (List.getElem?_eq_none outside)
  rw [explains.counted, countP_deedsIn _ absent, countP_deedsIn _ absent]
  refine Finset.sum_le_sum fun caller _ => ?_
  cases held : pool.threads[caller]? with
  | none =>
      rw [explains.tracks.absent caller held]
      exact Nat.le_refl _
  | some thread => exact (explains.tracks.progress caller thread held).countP_le id

/-- A fetch answers with the customer that is stored for the number at that point of the run. -/
theorem exists_stored_of_fetched (run : Run Pool.empty events pool) {caller : Nat} {id : Int64}
    {customer : Customer} (member : .did caller (.fetch id (.ok customer)) ∈ events) :
    ∃ before middle after, events = before ++ .did caller (.fetch id (.ok customer)) :: after ∧
      Run Pool.empty before middle ∧ middle.store.find? id = some customer ∧
      Run middle (.did caller (.fetch id (.ok customer)) :: after) pool := by
  obtain ⟨before, after, rfl⟩ := List.append_of_mem member
  obtain ⟨middle, earlier, later⟩ := run.split before _
  refine ⟨before, middle, after, rfl, earlier, ?_, later⟩
  obtain ⟨next, step⟩ := later.exists_step
  generalize same : Event.did caller (.fetch id (.ok customer)) = event at step
  cases step with
  | start => cases same
  | advance others more advances =>
      cases same
      cases advances with
      | fetch served => exact (serves_fetch served).2 customer rfl

/-- This is how the store, the calls and the events of a run belong together. -/
structure Consistent (events : List Event) (pool : Pool) : Prop where
  /-- Nobody is announced who is not stored. -/
  announced_saved : ∀ id ∈ pool.store.created, (pool.store.find? id).isSome
  /-- Nobody is announced more often than saved. -/
  announced_le : ∀ id,
    pool.store.created.count id ≤ (deedsIn events).countP (Deed.saves id)
  /-- The last save of a number decides on what is stored for it. -/
  stored : ∀ id, pool.store.find? id = (lastSaved? id events).map Prod.snd
  /-- A customer is saved and announced only by a call that was given this customer. -/
  argument : ∀ caller customer answer,
    .did caller (.save customer answer) ∈ events ∨
      .did caller (.announce customer answer) ∈ events →
    ∃ script, pool.threads[caller]? = some ⟨.create customer, script⟩
  /-- A call whose save was refused announces nobody, neither before nor after that. -/
  silent : ∀ caller customer failure, .did caller (.save customer (.error failure)) ∈ events →
    ∀ other answer, .did caller (.announce other answer) ∉ events
  /-- A create call returns its argument exactly when it was saved and announced. -/
  created_iff : ∀ caller customer script,
    pool.threads[caller]? = some ⟨.create customer, script⟩ →
    ∀ result, script = .done (.ok result) ↔ result = customer ∧
      .did caller (.save customer (.ok ())) ∈ events ∧
      .did caller (.announce customer (.ok ())) ∈ events
  /-- A get call returns what was stored when it fetched. -/
  got : ∀ caller id customer, pool.threads[caller]? = some ⟨.get id, .done (.ok customer)⟩ →
    ∃ before middle after, events = before ++ .did caller (.fetch id (.ok customer)) :: after ∧
      Run Pool.empty before middle ∧ middle.store.find? id = some customer ∧
      Run middle (.did caller (.fetch id (.ok customer)) :: after) pool
  /-- The announced numbers are those of the create calls that returned, in some order. -/
  created : pool.store.created.Perm (pool.threads.filterMap Thread.created?)

/--
Whatever calls run side by side from an empty store, whatever the peer refuses them, and however
their steps interleave, the store and the calls are consistent at every point of the run.
-/
theorem consistent_of_run (run : Run Pool.empty events pool) : Consistent events pool := by
  have explains := explains_of_run run
  refine ⟨fun _ => explains.announced_saved, explains.count_created_le, explains.stored, ?_, ?_, ?_,
    ?_, explains.created⟩
  · intro caller customer answer asked
    obtain ⟨thread, held, progress⟩ : ∃ thread, pool.threads[caller]? = some thread ∧
        Progress thread.call (deedsOf caller events) thread.script := by
      rcases asked with member | member <;> exact explains.tracks.exists_thread member
    rw [← mem_deedsOf, ← mem_deedsOf] at asked
    refine ⟨thread.script, ?_⟩
    rw [held, ← progress.argument asked]
  · intro caller customer failure refused other answer
    obtain ⟨thread, _, progress⟩ := explains.tracks.exists_thread refused
    rw [← mem_deedsOf] at refused ⊢
    exact progress.silent refused other answer
  · intro caller customer script held result
    rw [← mem_deedsOf, ← mem_deedsOf]
    exact (explains.tracks.progress caller _ held).created_iff result
  · intro caller id customer held
    have progress := explains.tracks.progress caller _ held
    exact exists_stored_of_fetched run (mem_deedsOf.1 progress.fetched)

section Overtaking

open Switchboard.Customers.Composition (loopbackCustomer)

def overtakingCustomer : Customer := { loopbackCustomer with firstName := "Grace" }

/-- Of two calls with one number the later one is stored, and it alone is announced. -/
theorem consistent_of_run_overtaking : ∃ events pool, Run Pool.empty events pool ∧
    Consistent events pool ∧ (deedsIn events).countP (Deed.saves 7) = 2 ∧
    pool.store.find? 7 = some overtakingCustomer ∧ pool.store.created = [7] := by
  have begun := Run.more (.none Pool.empty) (.start _ (.create loopbackCustomer))
  have both := begun.more (.start _ (.create overtakingCustomer))
  have firstSaved := both.more
    (.advance [] [⟨.create overtakingCustomer, _⟩] (.save (.ran rfl)))
  have secondSaved := firstSaved.more
    (.advance [⟨.create loopbackCustomer, _⟩] [] (.save (.ran rfl)))
  have announced := secondSaved.more
    (.advance [⟨.create loopbackCustomer, _⟩] [] (.announce (.ran rfl)))
  have refused := announced.more
    (.advance [] [⟨.create overtakingCustomer, _⟩] (.announce (.refused (.rpc (.io "lost")))))
  have asked := refused.more (.start _ (.get 7))
  have run := asked.more (.advance
    [⟨.create loopbackCustomer, _⟩, ⟨.create overtakingCustomer, _⟩] [] (.fetch (.ran rfl)))
  exact ⟨_, _, run, consistent_of_run run, rfl, rfl, rfl⟩

end Overtaking

end Switchboard.Customers.Concurrency
