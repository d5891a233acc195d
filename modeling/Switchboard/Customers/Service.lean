import Switchboard.Action
import Switchboard.Customers.Model
import Switchboard.Error

/-
This file holds the customer service, which knows its peer only by what it asks of it.
-/

namespace Switchboard.Customers

/-- A service fails on its own account or on account of a remote call. -/
inductive ServiceError where
  | notImplemented (operation : String)
  | notFound (id : Int64)
  | rpc (cause : Error)
  deriving DecidableEq, Repr

namespace ServiceError

def message : ServiceError → String
  | .notImplemented operation => s!"{operation} is not implemented"
  | .notFound id => s!"Customer {id.toInt} not found"
  | .rpc cause => s!"RPC error: {cause.message}"

/-- The causes of a remote call that failed follow the failure itself. -/
def causes : ServiceError → List String
  | .rpc cause => cause.message :: cause.causes
  | _ => []

end ServiceError

/-- These are the operations that the service calls on its peer. -/
structure Outbound (σ : Type) where
  save : Customer → Action σ (Except ServiceError Unit)
  fetch : Int64 → Action σ (Except ServiceError Customer)
  announce : Customer → Action σ (Except ServiceError Unit)

/-- These are the operations that the service offers. -/
structure Inbound (σ : Type) where
  create : Customer → Action σ (Except ServiceError Customer)
  get : Int64 → Action σ (Except ServiceError Customer)

/-- A service that offers nothing yet refuses every call. -/
def Inbound.unimplemented (σ : Type) : Inbound σ :=
  { create := fun _ => pure (.error (.notImplemented "createCustomer"))
    get := fun _ => pure (.error (.notImplemented "getCustomer")) }

/--
A script is the rest of a call: it asks one thing of the peer and goes on with the answer, or it is
done. Other calls may run between two steps of a script.
-/
inductive Script where
  | done (result : Except ServiceError Customer)
  | save (customer : Customer) (next : Except ServiceError Unit → Script)
  | announce (customer : Customer) (next : Except ServiceError Unit → Script)
  | fetch (id : Int64) (next : Except ServiceError Customer → Script)

namespace Script

/-- A customer who was saved is announced. -/
def announced (customer : Customer) : Except ServiceError Unit → Script
  | .error error => .done (.error error)
  | .ok _ => .done (.ok customer)

/-- A customer who could not be saved is not announced. -/
def saved (customer : Customer) : Except ServiceError Unit → Script
  | .error error => .done (.error error)
  | .ok _ => .announce customer (announced customer)

def create (customer : Customer) : Script := .save customer (saved customer)

def get (id : Int64) : Script := .fetch id .done

/-- A script that runs alone asks its peer one thing after the other. -/
def run {σ : Type} (outbound : Outbound σ) : Script → Action σ (Except ServiceError Customer)
  | .done result => pure result
  | .save customer next => do
    let answer ← outbound.save customer
    (next answer).run outbound
  | .announce customer next => do
    let answer ← outbound.announce customer
    (next answer).run outbound
  | .fetch id next => do
    let answer ← outbound.fetch id
    (next answer).run outbound

end Script

/-- The service runs one script for each call. -/
def Inbound.service {σ : Type} (outbound : Outbound σ) : Inbound σ :=
  { create := fun customer => (Script.create customer).run outbound
    get := fun id => (Script.get id).run outbound }

end Switchboard.Customers
