import Switchboard.Customers.MemoryStore
import Switchboard.Proofs.Ascending
import Switchboard.Proofs.Datum

/-
This file shows what a store holds after customers were saved, and that all of it can be written.
-/

namespace Switchboard.Customers

namespace MemoryStore

/-- Every customer in the store can be written. -/
def IsShort (store : MemoryStore) : Prop :=
  ∀ id customer, store.find? id = some customer → customer.toDatum.isShort

theorem isShort_empty : empty.IsShort := nofun

theorem find?_save_self (store : MemoryStore) (customer : Customer) :
    (store.save customer).find? customer.id = some customer :=
  Ascending.find?_insert_self customer.id customer store.customers

theorem find?_save_of_ne {id : Int64} {customer : Customer} (different : id ≠ customer.id)
    (store : MemoryStore) : (store.save customer).find? id = store.find? id :=
  Ascending.find?_insert_of_ne different customer store.customers

theorem isShort_save {store : MemoryStore} (short : store.IsShort) {customer : Customer}
    (fits : customer.toDatum.isShort) : (store.save customer).IsShort := by
  intro id found held
  by_cases same : id = customer.id
  · rw [same, find?_save_self, Option.some.injEq] at held
    rw [← held]
    exact fits
  · rw [find?_save_of_ne same] at held
    exact short id found held

theorem fetch_eq_ok {store : MemoryStore} {id : Int64} {customer : Customer} :
    store.fetch id = .ok customer ↔ store.find? id = some customer := by
  rw [fetch]
  cases store.find? id with
  | none => simp
  | some found => simp

theorem isShort_of_fetch {store : MemoryStore} (short : store.IsShort) {id : Int64}
    {customer : Customer} (fetched : store.fetch id = .ok customer) :
    customer.toDatum.isShort :=
  short id customer (fetch_eq_ok.1 fetched)

/-- A store fails only for customers that it does not hold. -/
theorem notFound_of_fetch {store : MemoryStore} {id : Int64} {failure : ServiceError}
    (failed : store.fetch id = .error failure) : failure = .notFound id := by
  rw [fetch] at failed
  split at failed
  · cases failed
  · rw [Except.error.injEq] at failed
    exact failed.symm

end MemoryStore

end Switchboard.Customers
