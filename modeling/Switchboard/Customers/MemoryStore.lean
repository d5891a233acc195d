import Switchboard.Ascending
import Switchboard.Customers.Service

/-
This file keeps customers in memory, in place of a remote peer.
-/

namespace Switchboard.Customers

/--
A store holds at most one customer for each number and the numbers that were announced, in order.
Customers ascend by their numbers, so stores with the same customers are equal.
-/
structure MemoryStore where
  customers : List (Int64 × Customer)
  created : List Int64
  deriving DecidableEq, Repr

namespace MemoryStore

def empty : MemoryStore := ⟨[], []⟩

def size (store : MemoryStore) : Nat := store.customers.length

def isEmpty (store : MemoryStore) : Bool := store.customers.isEmpty

def find? (store : MemoryStore) (id : Int64) : Option Customer :=
  Ascending.find? id store.customers

/-- A customer replaces an earlier one with the same number. -/
def save (store : MemoryStore) (customer : Customer) : MemoryStore :=
  { store with customers := Ascending.insert customer.id customer store.customers }

/-- A number is announced as often as it is created. -/
def announce (store : MemoryStore) (customer : Customer) : MemoryStore :=
  { store with created := store.created ++ [customer.id] }

def fetch (store : MemoryStore) (id : Int64) : Except ServiceError Customer :=
  match store.find? id with
  | some customer => .ok customer
  | none => .error (.notFound id)

/-- A store serves as the peer of the service that keeps it. -/
def outbound : Outbound MemoryStore :=
  { save := fun customer => Action.ofFunction fun store => (.ok (), store.save customer)
    fetch := fun id => Action.ofFunction fun store => (store.fetch id, store)
    announce := fun customer => Action.ofFunction fun store => (.ok (), store.announce customer) }

end MemoryStore

end Switchboard.Customers
