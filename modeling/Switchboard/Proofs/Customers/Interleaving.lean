import Mathlib.Data.List.Induction
import Switchboard.Proofs.Customers.Composition

/-
This file lets any number of calls run side by side on one store, with a peer that may refuse
whatever it is asked, and follows the store and each call through every interleaving of their steps.
-/

namespace Switchboard.Customers

/-- A call starts with its whole script. -/
def Call.script : Call → Script
  | .create customer => Script.create customer
  | .get id => Script.get id

namespace Concurrency

section System

/-- A call asks one thing of the peer and gets an answer. -/
inductive Deed where
  | save (customer : Customer) (answer : Except ServiceError Unit)
  | announce (customer : Customer) (answer : Except ServiceError Unit)
  | fetch (id : Int64) (answer : Except ServiceError Customer)

/-- The peer does what it is asked, or it refuses and leaves the store as it is. -/
inductive Serves {α : Type} (asked : Action MemoryStore (Except ServiceError α))
    (store : MemoryStore) : Except ServiceError α → MemoryStore → Prop where
  | ran {answer : Except ServiceError α} {after : MemoryStore}
    (returned : asked store = (.returned answer, after)) : Serves asked store answer after
  | refused (failure : ServiceError) : Serves asked store (.error failure) store

/-- A script goes on with the answer to what it asks. -/
inductive Advances : Script → MemoryStore → Deed → Script → MemoryStore → Prop where
  | save {customer : Customer} {next : Except ServiceError Unit → Script}
    {store after : MemoryStore} {answer : Except ServiceError Unit}
    (served : Serves (MemoryStore.outbound.save customer) store answer after) :
    Advances (.save customer next) store (.save customer answer) (next answer) after
  | announce {customer : Customer} {next : Except ServiceError Unit → Script}
    {store after : MemoryStore} {answer : Except ServiceError Unit}
    (served : Serves (MemoryStore.outbound.announce customer) store answer after) :
    Advances (.announce customer next) store (.announce customer answer) (next answer) after
  | fetch {id : Int64} {next : Except ServiceError Customer → Script}
    {store after : MemoryStore} {answer : Except ServiceError Customer}
    (served : Serves (MemoryStore.outbound.fetch id) store answer after) :
    Advances (.fetch id next) store (.fetch id answer) (next answer) after

/-- A thread keeps the call that started it and the rest of the script of that call. -/
structure Thread where
  call : Call
  script : Script

/-- All threads share one store, and each is known by its place among them. -/
structure Pool where
  store : MemoryStore
  threads : List Thread

def Pool.empty : Pool := ⟨MemoryStore.empty, []⟩

inductive Event where
  | started (call : Call)
  | did (caller : Nat) (deed : Deed)

/-- A new call may start at any time, and any call that is not done may take its next step. -/
inductive Step : Pool → Event → Pool → Prop where
  | start (pool : Pool) (call : Call) :
    Step pool (.started call) ⟨pool.store, pool.threads ++ [⟨call, call.script⟩]⟩
  | advance {store after : MemoryStore} {call : Call} {script next : Script} {deed : Deed}
    (earlier later : List Thread) (advances : Advances script store deed next after) :
    Step ⟨store, earlier ++ ⟨call, script⟩ :: later⟩ (.did earlier.length deed)
      ⟨after, earlier ++ ⟨call, next⟩ :: later⟩

/-- A run takes one step after the other and keeps its events in order. -/
inductive Run : Pool → List Event → Pool → Prop where
  | none (pool : Pool) : Run pool [] pool
  | more {first middle last : Pool} {events : List Event} {event : Event}
    (run : Run first events middle) (step : Step middle event last) :
    Run first (events ++ [event]) last

end System

section Accounts

/-- The peer saved a customer with this number. -/
def Deed.saves (id : Int64) : Deed → Bool
  | .save customer (.ok _) => customer.id = id
  | _ => false

/-- The peer announced a customer with this number. -/
def Deed.announces (id : Int64) : Deed → Bool
  | .announce customer (.ok _) => customer.id = id
  | _ => false

def Event.deed? : Event → Option Deed
  | .started _ => none
  | .did _ deed => some deed

def deedsIn (events : List Event) : List Deed := events.filterMap Event.deed?

def Event.deedOf? (caller : Nat) : Event → Option Deed
  | .started _ => none
  | .did other deed => if other = caller then some deed else none

/-- The deeds of one caller stand in the order in which it did them. -/
def deedsOf (caller : Nat) (events : List Event) : List Deed :=
  events.filterMap (Event.deedOf? caller)

def Event.saved? (id : Int64) : Event → Option (Nat × Customer)
  | .did caller (.save customer (.ok _)) =>
    if customer.id = id then some (caller, customer) else none
  | _ => none

/-- The last caller that saved a customer with this number stands beside that customer. -/
def lastSaved? (id : Int64) (events : List Event) : Option (Nat × Customer) :=
  events.reverse.findSome? (Event.saved? id)

/-- A call that created a customer has returned it. -/
def Thread.created? : Thread → Option Int64
  | ⟨.create customer, .done (.ok _)⟩ => some customer.id
  | _ => none

/-- A call has done so much, and so much of its script is left. -/
inductive Progress : Call → List Deed → Script → Prop where
  | begun (customer : Customer) :
    Progress (.create customer) [] (.save customer (Script.saved customer))
  | unsaved (customer : Customer) (failure : ServiceError) :
    Progress (.create customer) [.save customer (.error failure)] (.done (.error failure))
  | saved (customer : Customer) :
    Progress (.create customer) [.save customer (.ok ())]
      (.announce customer (Script.announced customer))
  | unannounced (customer : Customer) (failure : ServiceError) :
    Progress (.create customer)
      [.save customer (.ok ()), .announce customer (.error failure)] (.done (.error failure))
  | created (customer : Customer) :
    Progress (.create customer) [.save customer (.ok ()), .announce customer (.ok ())]
      (.done (.ok customer))
  | asked (id : Int64) : Progress (.get id) [] (.fetch id .done)
  | answered (id : Int64) (answer : Except ServiceError Customer) :
    Progress (.get id) [.fetch id answer] (.done answer)

end Accounts

section Progress

theorem progress_script (call : Call) : Progress call [] call.script := by
  cases call with
  | create customer => exact .begun customer
  | get id => exact .asked id

/-- A step of a script adds its deed to what the call has done. -/
theorem Progress.advance {call : Call} {deeds : List Deed} {script next : Script} {deed : Deed}
    {store after : MemoryStore} (progress : Progress call deeds script)
    (advances : Advances script store deed next after) :
    Progress call (deeds ++ [deed]) next := by
  cases progress with
  | begun customer =>
      cases advances with
      | @save _ _ _ _ answer served =>
          cases answer with
          | error failure => exact .unsaved customer failure
          | ok done => exact .saved customer
  | saved customer =>
      cases advances with
      | @announce _ _ _ _ answer served =>
          cases answer with
          | error failure => exact .unannounced customer failure
          | ok done => exact .created customer
  | asked id =>
      cases advances with
      | @fetch _ _ _ _ answer served => exact .answered id answer
  | unsaved customer failure => cases advances
  | unannounced customer failure => cases advances
  | created customer => cases advances
  | answered id answer => cases advances

variable {call : Call} {deeds : List Deed} {script : Script}

/-- A call saves and announces nothing but its own argument. -/
theorem Progress.argument (progress : Progress call deeds script) {customer : Customer}
    {answer : Except ServiceError Unit}
    (member : .save customer answer ∈ deeds ∨ .announce customer answer ∈ deeds) :
    call = .create customer := by
  cases progress <;> simp only [List.mem_cons, List.not_mem_nil, or_false, false_or,
    Deed.save.injEq, Deed.announce.injEq, reduceCtorEq] at member
  case unsaved => rw [member.1]
  case saved => rw [member.1]
  case unannounced => rcases member with same | same <;> rw [same.1]
  case created => rcases member with same | same <;> rw [same.1]

/-- A customer who could not be saved is not announced. -/
theorem Progress.silent (progress : Progress call deeds script) {customer : Customer}
    {failure : ServiceError} (refused : .save customer (.error failure) ∈ deeds)
    (other : Customer) (answer : Except ServiceError Unit) : .announce other answer ∉ deeds := by
  cases progress <;> simp_all

/-- A call announces no number more often than it saves it. -/
theorem Progress.countP_le (progress : Progress call deeds script) (id : Int64) :
    deeds.countP (Deed.announces id) ≤ deeds.countP (Deed.saves id) := by
  cases progress <;> simp [List.countP_cons, Deed.announces, Deed.saves]

/-- A create call has returned a customer exactly after both of its deeds. -/
theorem Progress.created_iff {customer : Customer}
    (progress : Progress (.create customer) deeds script) (result : Customer) :
    script = .done (.ok result) ↔ result = customer ∧
      .save customer (.ok ()) ∈ deeds ∧ .announce customer (.ok ()) ∈ deeds := by
  cases progress <;> simp [eq_comm]

theorem Progress.fetched {id : Int64} {customer : Customer}
    (progress : Progress (.get id) deeds (.done (.ok customer))) :
    .fetch id (.ok customer) ∈ deeds := by
  cases progress with
  | answered => exact List.mem_singleton_self _

end Progress

section Steps

theorem filterMap_append_cons {α β : Type} (choose : α → Option β) (before after : List α)
    (element : α) :
    (before ++ element :: after).filterMap choose =
      before.filterMap choose ++ ((choose element).toList ++ after.filterMap choose) := by
  rw [List.filterMap_append, List.filterMap_cons]
  cases choose element <;> rfl

theorem deedsOf_append_started (caller : Nat) (events : List Event) (call : Call) :
    deedsOf caller (events ++ [.started call]) = deedsOf caller events := by
  rw [deedsOf, List.filterMap_append]
  exact List.append_nil _

theorem deedsOf_append_did (caller other : Nat) (events : List Event) (deed : Deed) :
    deedsOf caller (events ++ [.did other deed]) =
      deedsOf caller events ++ if other = caller then [deed] else [] := by
  rw [deedsOf, filterMap_append_cons, Event.deedOf?, deedsOf]
  split <;> rfl

theorem deedsIn_append (events : List Event) (event : Event) :
    deedsIn (events ++ [event]) = deedsIn events ++ event.deed?.toList := by
  rw [deedsIn, filterMap_append_cons, List.filterMap_nil, List.append_nil, deedsIn]

theorem lastSaved?_append (id : Int64) (events : List Event) (event : Event) :
    lastSaved? id (events ++ [event]) = (event.saved? id).or (lastSaved? id events) := by
  rw [lastSaved?, List.reverse_append, List.reverse_singleton, List.singleton_append,
    List.findSome?_cons, lastSaved?]
  cases event.saved? id <;> rfl

/-- What the peer is asked to do, it does or refuses. -/
theorem Serves.cases_unit {asked : Action MemoryStore (Except ServiceError Unit)}
    {store after done : MemoryStore} {answer : Except ServiceError Unit}
    (served : Serves asked store answer after)
    (does : asked store = (.returned (.ok ()), done)) :
    (answer = .ok () ∧ after = done) ∨ ∃ failure, answer = .error failure ∧ after = store := by
  cases served with
  | ran returned =>
      rw [does] at returned
      cases returned
      exact .inl ⟨rfl, rfl⟩
  | refused failure => exact .inr ⟨failure, rfl, rfl⟩

theorem serves_save {customer : Customer} {store after : MemoryStore}
    {answer : Except ServiceError Unit}
    (served : Serves (MemoryStore.outbound.save customer) store answer after) :
    (answer = .ok () ∧ after = store.save customer) ∨
      ∃ failure, answer = .error failure ∧ after = store :=
  served.cases_unit rfl

theorem serves_announce {customer : Customer} {store after : MemoryStore}
    {answer : Except ServiceError Unit}
    (served : Serves (MemoryStore.outbound.announce customer) store answer after) :
    (answer = .ok () ∧ after = store.announce customer) ∨
      ∃ failure, answer = .error failure ∧ after = store :=
  served.cases_unit rfl

theorem serves_fetch {id : Int64} {store after : MemoryStore}
    {answer : Except ServiceError Customer}
    (served : Serves (MemoryStore.outbound.fetch id) store answer after) :
    after = store ∧ ∀ customer, answer = .ok customer → store.find? id = some customer := by
  cases served with
  | ran returned =>
      cases returned
      exact ⟨rfl, fun customer found => MemoryStore.fetch_eq_ok.1 found⟩
  | refused failure => exact ⟨rfl, nofun⟩

variable {script next : Script} {deed : Deed} {store after : MemoryStore}

/-- A step changes the customer that is stored for a number only by saving one. -/
theorem Advances.find?_eq (advances : Advances script store deed next after) (caller : Nat)
    (id : Int64) :
    after.find? id =
      (((Event.did caller deed).saved? id).map Prod.snd).or (store.find? id) := by
  cases advances with
  | @save customer _ _ _ _ served =>
      obtain ⟨rfl, rfl⟩ | ⟨failure, rfl, rfl⟩ := serves_save served
      · rw [Event.saved?]
        by_cases same : customer.id = id
        · rw [if_pos same, ← same, MemoryStore.find?_save_self]
          rfl
        · rw [if_neg same, MemoryStore.find?_save_of_ne (Ne.symm same)]
          rfl
      · rfl
  | announce served =>
      obtain ⟨rfl, rfl⟩ | ⟨failure, rfl, rfl⟩ := serves_announce served <;> rfl
  | fetch served =>
      rw [(serves_fetch served).1]
      rfl

/-- A step appends a number to the announced ones exactly when it announces it. -/
theorem Advances.count_created (advances : Advances script store deed next after) (id : Int64) :
    after.created.count id =
      store.created.count id + if deed.announces id then 1 else 0 := by
  cases advances with
  | save served =>
      obtain ⟨rfl, rfl⟩ | ⟨failure, rfl, rfl⟩ := serves_save served <;> rfl
  | @announce customer _ _ _ _ served =>
      obtain ⟨rfl, rfl⟩ | ⟨failure, rfl, rfl⟩ := serves_announce served
      · rw [MemoryStore.announce, List.count_append, List.count_singleton, Deed.announces]
        simp only [beq_iff_eq, decide_eq_true_eq]
      · rfl
  | fetch served =>
      rw [(serves_fetch served).1]
      rfl

/-- A call returns the customer that it created in the step that announces it. -/
theorem Advances.perm_created {call : Call} {deeds : List Deed}
    (advances : Advances script store deed next after) (progress : Progress call deeds script) :
    ∃ announced : List Int64, after.created = store.created ++ announced ∧
      Thread.created? ⟨call, script⟩ = none ∧
      (Thread.created? ⟨call, next⟩).toList = announced := by
  cases progress with
  | begun customer =>
      cases advances with
      | save served =>
          obtain ⟨rfl, rfl⟩ | ⟨failure, rfl, rfl⟩ := serves_save served <;>
            exact ⟨[], (List.append_nil _).symm, rfl, rfl⟩
  | saved customer =>
      cases advances with
      | announce served =>
          obtain ⟨rfl, rfl⟩ | ⟨failure, rfl, rfl⟩ := serves_announce served
          · exact ⟨[customer.id], rfl, rfl, rfl⟩
          · exact ⟨[], (List.append_nil _).symm, rfl, rfl⟩
  | asked id =>
      cases advances with
      | fetch served =>
          refine ⟨[], ?_, rfl, rfl⟩
          rw [(serves_fetch served).1, List.append_nil]
  | unsaved customer failure => cases advances
  | unannounced customer failure => cases advances
  | created customer => cases advances
  | answered id answer => cases advances

end Steps

section Runs

/-- The threads of a pool stand where their deeds have brought them. -/
structure Tracks (events : List Event) (threads : List Thread) : Prop where
  progress : ∀ caller thread, threads[caller]? = some thread →
    Progress thread.call (deedsOf caller events) thread.script
  absent : ∀ caller, threads[caller]? = none → deedsOf caller events = []

/-- The store of a pool holds what the events say. -/
structure Explains (events : List Event) (pool : Pool) : Prop where
  tracks : Tracks events pool.threads
  stored : ∀ id, pool.store.find? id = (lastSaved? id events).map Prod.snd
  counted : ∀ id, pool.store.created.count id = (deedsIn events).countP (Deed.announces id)
  created : pool.store.created.Perm (pool.threads.filterMap Thread.created?)

/-- One thread takes the place of another. -/
theorem getElem?_replaced (earlier later : List Thread) (old new : Thread) (caller : Nat) :
    (earlier ++ new :: later)[caller]? =
      if caller = earlier.length then some new else (earlier ++ old :: later)[caller]? := by
  split
  · next same =>
      rw [same, List.getElem?_append_right (Nat.le_refl _), Nat.sub_self]
      rfl
  · next other =>
      rw [List.getElem?_append, List.getElem?_append]
      split
      · rfl
      · obtain ⟨place, same⟩ : ∃ place, caller - earlier.length = place + 1 :=
          ⟨caller - earlier.length - 1, by omega⟩
        rw [same]
        rfl

/-- A thread that starts has done nothing yet. -/
theorem Tracks.start {events : List Event} {threads : List Thread}
    (tracks : Tracks events threads) (call : Call) :
    Tracks (events ++ [.started call]) (threads ++ [⟨call, call.script⟩]) := by
  constructor
  · intro caller thread held
    rw [deedsOf_append_started]
    rw [List.getElem?_append] at held
    split at held
    · exact tracks.progress caller thread held
    · next outside =>
        rw [tracks.absent caller (List.getElem?_eq_none (Nat.le_of_not_lt outside))]
        rw [List.getElem?_singleton] at held
        split at held
        · rw [Option.some.injEq] at held
          rw [← held]
          exact progress_script call
        · cases held
  · intro caller missing
    rw [deedsOf_append_started]
    rw [List.getElem?_eq_none_iff, List.length_append] at missing
    exact tracks.absent caller (List.getElem?_eq_none (by omega))

/-- A step of one thread leaves all others where they are. -/
theorem Tracks.advance {events : List Event} {earlier later : List Thread} {call : Call}
    {script next : Script} {deed : Deed} {store after : MemoryStore}
    (tracks : Tracks events (earlier ++ ⟨call, script⟩ :: later))
    (advances : Advances script store deed next after) :
    Tracks (events ++ [.did earlier.length deed]) (earlier ++ ⟨call, next⟩ :: later) := by
  have replaced := getElem?_replaced earlier later ⟨call, script⟩ ⟨call, next⟩
  have here : (earlier ++ ⟨call, script⟩ :: later)[earlier.length]? = some ⟨call, script⟩ := by
    rw [getElem?_replaced earlier later ⟨call, script⟩, if_pos rfl]
  constructor
  · intro caller thread held
    rw [replaced] at held
    rw [deedsOf_append_did]
    split at held
    · next same =>
        rw [Option.some.injEq] at held
        rw [← held, same, if_pos rfl]
        exact (tracks.progress _ _ here).advance advances
    · next other =>
        rw [if_neg (Ne.symm other), List.append_nil]
        exact tracks.progress caller thread held
  · intro caller missing
    rw [replaced] at missing
    rw [deedsOf_append_did]
    split at missing
    · cases missing
    · next other =>
        rw [if_neg (Ne.symm other), List.append_nil]
        exact tracks.absent caller missing

/-- What holds of a pool and the events so far holds again after one more step. -/
theorem Explains.step {events : List Event} {event : Event} {pool after : Pool}
    (explains : Explains events pool) (step : Step pool event after) :
    Explains (events ++ [event]) after := by
  cases step with
  | start pool call =>
      refine ⟨explains.tracks.start call, ?_, ?_, ?_⟩
      · intro id
        rw [lastSaved?_append]
        exact explains.stored id
      · intro id
        rw [deedsIn_append, List.countP_append]
        exact explains.counted id
      · have unfinished : Thread.created? ⟨call, call.script⟩ = none := by cases call <;> rfl
        rw [filterMap_append_cons, unfinished, List.filterMap_nil]
        exact (List.append_nil _).symm ▸ explains.created
  | @advance store after call script next deed earlier later advances =>
      refine ⟨explains.tracks.advance advances, ?_, ?_, ?_⟩
      · intro id
        rw [lastSaved?_append, Option.map_or, ← explains.stored id]
        exact advances.find?_eq earlier.length id
      · intro id
        rw [deedsIn_append, List.countP_append, ← explains.counted id, advances.count_created id]
        simp [Event.deed?, List.countP_cons]
      · have progress := explains.tracks.progress earlier.length ⟨call, script⟩
          (by rw [getElem?_replaced earlier later ⟨call, script⟩, if_pos rfl])
        obtain ⟨announced, appended, before, returned⟩ := advances.perm_created progress
        have old := explains.created
        rw [filterMap_append_cons, before] at old
        rw [filterMap_append_cons, returned, appended]
        refine (old.append_right announced).trans ?_
        rw [List.append_assoc]
        exact List.Perm.append_left _ List.perm_append_comm

theorem explains_of_run {events : List Event} {pool : Pool}
    (run : Run Pool.empty events pool) : Explains events pool := by
  induction run with
  | none => exact ⟨⟨nofun, fun _ _ => rfl⟩, fun _ => rfl, fun _ => rfl, .nil⟩
  | more run step inductionHypothesis => exact inductionHypothesis.step step

/-- A run stops over at every point between two of its events. -/
theorem Run.split {first last : Pool} (before after : List Event)
    (run : Run first (before ++ after) last) :
    ∃ middle, Run first before middle ∧ Run middle after last := by
  induction after using List.reverseRecOn generalizing last with
  | nil =>
      rw [List.append_nil] at run
      exact ⟨last, run, .none last⟩
  | append_singleton after event inductionHypothesis =>
      rw [← List.append_assoc] at run
      generalize whole : before ++ after ++ [event] = events at run
      cases run with
      | none => simp at whole
      | more run step =>
          obtain ⟨rfl, same⟩ := List.append_inj' whole rfl
          rw [List.singleton_inj.1 same]
          obtain ⟨middle, earlier, later⟩ := inductionHypothesis run
          exact ⟨middle, earlier, later.more step⟩

theorem Run.eq_of_nil {first last : Pool} (run : Run first [] last) : last = first := by
  generalize nothing : [] = events at run
  cases run with
  | none => rfl
  | more => simp at nothing

/-- A run with an event starts with the step of that event. -/
theorem Run.exists_step {first last : Pool} {event : Event} {after : List Event}
    (run : Run first (event :: after) last) : ∃ next, Step first event next := by
  obtain ⟨middle, one, _⟩ := Run.split [event] after run
  generalize single : [event] = events at one
  cases one with
  | none => cases single
  | more nothing step =>
      have parts : [] ++ [event] = _ := single
      obtain ⟨rfl, same⟩ := List.append_inj' parts rfl
      rw [List.singleton_inj.1 same, ← nothing.eq_of_nil]
      exact ⟨_, step⟩

/-- A call that runs alone, and is refused nothing, does what it does over the store itself. -/
theorem exists_run_of_direct (pool : Pool) (call : Call) :
    ∃ events answer after, call.direct pool.store = (.returned answer, after) ∧
      Run pool events ⟨after, pool.threads ++ [⟨call, .done answer⟩]⟩ := by
  have started := Run.more (.none pool) (.start pool call)
  cases call with
  | create customer =>
      have saved := started.more (.advance pool.threads [] (.save (.ran rfl)))
      have announced := saved.more (.advance pool.threads [] (.announce (.ran rfl)))
      exact ⟨_, _, _, Composition.direct_create_run customer pool.store, announced⟩
  | get id =>
      have fetched := started.more (.advance pool.threads [] (.fetch (.ran rfl)))
      exact ⟨_, _, _, Composition.direct_get_run id pool.store, fetched⟩

end Runs

end Concurrency

end Switchboard.Customers
