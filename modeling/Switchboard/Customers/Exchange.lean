import Switchboard.Adapter
import Switchboard.Customers.Service

/-
This file carries the calls between the service and its peer over payloads.
-/

namespace Switchboard.Customers

def inboundNamespace : String := "customers.v1.Inbound"

def outboundNamespace : String := "customers.v1.Outbound"

variable {σ : Type}

def remoteResult {α : Type} : Except Error α → Except ServiceError α
  | .ok value => .ok value
  | .error error => .error (.rpc error)

/-- A remote peer is called through an invoker. -/
def Outbound.remote (invoker : Invoker σ) : Outbound σ :=
  { save := fun customer => do
      let result ← invoker.invoke outboundNamespace "saveCustomer" customer.toDatum
      pure (remoteResult result)
    fetch := fun id => do
      let result ← invoker.invokeWithReturn outboundNamespace "fetchCustomer" (lookupDatum id)
        Customer.shape
      pure ((remoteResult result).map Customer.ofDatum)
    announce := fun customer => do
      let result ← invoker.invoke outboundNamespace "customerCreated" customer.toDatum
      pure (remoteResult result) }

/-- A caller of the service reaches it through an invoker too. -/
def callCreate (invoker : Invoker σ) (customer : Customer) : Action σ (Except Error Customer) := do
  let result ← invoker.invokeWithReturn inboundNamespace "createCustomer" customer.toDatum
    Customer.shape
  pure (result.map Customer.ofDatum)

def callGet (invoker : Invoker σ) (id : Int64) : Action σ (Except Error Customer) := do
  let result ← invoker.invokeWithReturn inboundNamespace "getCustomer" (lookupDatum id)
    Customer.shape
  pure (result.map Customer.ofDatum)

/-- On the wire an operation fails with the text of its error. -/
def answerWith {α : Type} (toDatum : α → Datum) :
    Except ServiceError α → Except String Datum
  | .ok value => .ok (toDatum value)
  | .error error => .error error.message

def unitDatum (_ : Unit) : Datum := .null

def createOperation (inbound : Inbound σ) : Operation σ := fun datum => do
  let result ← inbound.create (Customer.ofDatum datum)
  pure (answerWith Customer.toDatum result)

def getOperation (inbound : Inbound σ) : Operation σ := fun datum => do
  let result ← inbound.get (lookupOfDatum datum)
  pure (answerWith Customer.toDatum result)

def saveOperation (outbound : Outbound σ) : Operation σ := fun datum => do
  let result ← outbound.save (Customer.ofDatum datum)
  pure (answerWith unitDatum result)

def fetchOperation (outbound : Outbound σ) : Operation σ := fun datum => do
  let result ← outbound.fetch (lookupOfDatum datum)
  pure (answerWith Customer.toDatum result)

def announceOperation (outbound : Outbound σ) : Operation σ := fun datum => do
  let result ← outbound.announce (Customer.ofDatum datum)
  pure (answerWith unitDatum result)

/-- The operations of the service are exposed under the inbound namespace. -/
def registerInbound (adapter : Adapter σ) (inbound : Inbound σ) : Except Error (Adapter σ) := do
  let adapter ← adapter.register inboundNamespace "createCustomer" Customer.shape
    (createOperation inbound)
  adapter.register inboundNamespace "getCustomer" lookupShape (getOperation inbound)

/-- The operations of a peer are exposed under the outbound namespace. -/
def registerOutbound (adapter : Adapter σ) (outbound : Outbound σ) : Except Error (Adapter σ) := do
  let adapter ← adapter.register outboundNamespace "saveCustomer" Customer.shape
    (saveOperation outbound)
  let adapter ← adapter.register outboundNamespace "fetchCustomer" lookupShape
    (fetchOperation outbound)
  adapter.register outboundNamespace "customerCreated" Customer.shape (announceOperation outbound)

end Switchboard.Customers
