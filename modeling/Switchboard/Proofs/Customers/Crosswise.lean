import Switchboard.Proofs.Codec.Crosswise
import Switchboard.Proofs.Customers.Composition

/-
This file calls a service with the other codec than its own, and shows that every such call is
refused before it touches a customer.
-/

namespace Switchboard.Customers

/-- This caller reaches an adapter over a hop and uses a codec of its own. -/
def stranger (hop : Hop) (adapter : Adapter MemoryStore) (codec : Codec) : Invoker MemoryStore :=
  ⟨hop.transport adapter, codec⟩

/-- A service stands behind an adapter, and both of its operations are within reach of a hop. -/
structure Offers (hop : Hop) (adapter : Adapter MemoryStore) : Prop where
  exposes : ∃ start inbound, registerInbound start inbound = .ok adapter
  delivers : ∀ operation ∈ ["createCustomer", "getCustomer"],
    hop.Delivers adapter inboundNamespace operation

variable {hop : Hop} {adapter : Adapter MemoryStore} {codec : Codec}

/-- An argument in the other format comes back to the caller as an error. -/
theorem stranger_refused {operation : String} {request : Shape} {run : Operation MemoryStore}
    (connects : hop.Connects adapter inboundNamespace operation request run)
    (different : codec ≠ adapter.codec) (refuses : request.refusesNumbers) {value : Datum}
    (encodable : ∃ payload, codec.encode value = .ok payload) (result : Shape)
    (store : MemoryStore) :
    ∃ error, (stranger hop adapter codec).invokeWithReturn inboundNamespace operation value
        result store = (.returned (.error error), store) ∧
      ∀ payload, codec.encode value = .ok payload → hop.Accepts adapter payload →
        ∃ reason, error = hop.carriedError (.decode reason) := by
  obtain ⟨payload, encoded⟩ := encodable
  obtain ⟨reason, refused⟩ := Codec.refused_of_other refuses different.symm encoded
  obtain ⟨error, stopped, named⟩ := connects.transport_refused refused store
  have sent : (stranger hop adapter codec).send inboundNamespace operation value store =
      (.returned (.error error), store) := by
    rw [Invoker.send, stranger]
    simp only [encoded]
    exact stopped
  refine ⟨error, ?_, fun other same accepts => ⟨reason, named ?_⟩⟩
  · rw [Invoker.invokeWithReturn, Action.bind_of_returned sent]
    rfl
  · rw [encoded, Except.ok.injEq] at same
    rwa [same]

/-- The service reads neither a customer nor the number of one out of the other format. -/
theorem call_refused (offers : Offers hop adapter) (different : codec ≠ adapter.codec)
    (call : Call) (store : MemoryStore) :
    ∃ error, call.remote (stranger hop adapter codec) store = (.returned (.error error), store) ∧
      ∀ payload, codec.encode call.argument = .ok payload → hop.Accepts adapter payload →
        ∃ reason, error = hop.carriedError (.decode reason) := by
  obtain ⟨⟨start, inbound, registered⟩, delivers⟩ := offers
  have exposed := (exposesInbound_of_register registered).2
  cases call with
  | create customer =>
      obtain ⟨error, invoked, named⟩ := stranger_refused
        ⟨delivers _ (by simp), by decide, exposed.create⟩ different (by decide)
        (exists_encode_toDatum codec customer) Customer.shape store
      refine ⟨error, ?_, named⟩
      rw [Call.remote, callCreate, Action.bind_of_returned invoked]
      rfl
  | get id =>
      obtain ⟨error, invoked, named⟩ := stranger_refused
        ⟨delivers _ (by simp), by decide, exposed.get⟩ different (by decide)
        (exists_encode_lookupDatum codec id) Customer.shape store
      refine ⟨error, ?_, named⟩
      rw [Call.remote, callGet, Action.bind_of_returned invoked]
      rfl

/--
Two peers that use different codecs notice it: what one of them encoded is never decoded by the
other, unless an integer is expected or nothing at all, and no call gets past the service.
-/
theorem mismatch_detected {one other : Codec} (different : one ≠ other) :
    (∀ datum payload, one.encode datum = .ok payload → ∀ target ∈ Catalogue.shapes,
      (∀ type, target ≠ .integer type) → target ≠ .any →
        ∃ reason, other.decode target payload = .error (.decode reason)) ∧
    ∀ hop adapter, Offers hop adapter → adapter.codec = other →
      ∀ (call : Call) (store : MemoryStore), ∃ error,
        call.remote (stranger hop adapter one) store = (.returned (.error error), store) ∧
        ∀ payload, one.encode call.argument = .ok payload → hop.Accepts adapter payload →
          ∃ reason, error = hop.carriedError (.decode reason) := by
  constructor
  · intro datum payload encoded target covered notInteger notAny
    have refuses := Catalogue.refusesNumbers_of_mem covered notInteger notAny
    exact Codec.refused_of_other refuses different.symm encoded
  · intro hop adapter offers codecIsOther call store
    exact call_refused offers (codecIsOther ▸ different) call store

/-- A customer in one format is none in the other, and the service still knows who it knew. -/
theorem mismatch_detected_loopback :
    (∃ reason, Codec.json.decode Customer.shape
        (MessagePack.write Composition.loopbackCustomer.toDatum) = .error (.decode reason)) ∧
      ∃ error, (Call.create Composition.loopbackCustomer).remote
        (stranger Composition.loopback.serviceHop Composition.loopback.service .messagePack)
        ⟨[(7, Composition.loopbackCustomer)], [7]⟩ =
          (.returned (.error error), ⟨[(7, Composition.loopbackCustomer)], [7]⟩) := by
  have different : Codec.messagePack ≠ Codec.json := by decide
  obtain ⟨payloads, calls⟩ := mismatch_detected different
  have offers : Offers Composition.loopback.serviceHop Composition.loopback.service :=
    ⟨⟨_, _, Composition.loopback.serviceExposes⟩, Composition.loopback.serviceDelivers⟩
  obtain ⟨error, refused, _⟩ := calls _ _ offers rfl (.create Composition.loopbackCustomer)
    ⟨[(7, Composition.loopbackCustomer)], [7]⟩
  exact ⟨payloads _ _ rfl Customer.shape (by decide) nofun nofun, error, refused⟩

end Switchboard.Customers
