import Mathlib.Data.List.Forall2
import Switchboard.Proofs.Customers.MemoryStore
import Switchboard.Proofs.Customers.Exchange
import Switchboard.Proofs.Url.Loopback

/-
This file runs the service over a remote peer, calls it over another hop, and compares every run of
calls with a run of the service over the store itself.
-/

namespace Switchboard.Customers

/-- A caller asks one of these of the service. -/
inductive Call where
  | create (customer : Customer)
  | get (id : Int64)

namespace Call

def argument : Call → Datum
  | .create customer => customer.toDatum
  | .get id => lookupDatum id

/-- A service that is called directly keeps its customers in the store. -/
def direct : Call → Action MemoryStore (Except ServiceError Customer)
  | .create customer => (Inbound.service MemoryStore.outbound).create customer
  | .get id => (Inbound.service MemoryStore.outbound).get id

def remote (caller : Invoker MemoryStore) : Call → Action MemoryStore (Except Error Customer)
  | .create customer => callCreate caller customer
  | .get id => callGet caller id

/-- Each outcome of a run stands beside the store after it. -/
def trace {α : Type} (perform : Call → Action MemoryStore α) :
    List Call → MemoryStore → List (Outcome α × MemoryStore)
  | [], _ => []
  | call :: calls, store => perform call store :: trace perform calls (perform call store).2

end Call

/--
Two hops lie between a caller and the store: one to the service, and one from there to its peer.
Every request of the exchange goes onto the network, and both adapters use the same codec.
-/
structure Composition where
  serviceHop : Hop
  peerHop : Hop
  peerStart : Adapter MemoryStore
  peer : Adapter MemoryStore
  serviceStart : Adapter MemoryStore
  service : Adapter MemoryStore
  sameCodec : serviceStart.codec = peerStart.codec
  peerExposes : registerOutbound peerStart MemoryStore.outbound = .ok peer
  peerCalled : serviceStart.transport = peerHop.transport peer
  serviceExposes :
    registerInbound serviceStart (Inbound.service (Outbound.remote serviceStart.invoker)) =
      .ok service
  peerDelivers : ∀ operation ∈ ["saveCustomer", "fetchCustomer", "customerCreated"],
    peerHop.Delivers peer outboundNamespace operation
  serviceDelivers : ∀ operation ∈ ["createCustomer", "getCustomer"],
    serviceHop.Delivers service inboundNamespace operation

namespace Composition

variable (composition : Composition)

def caller : Invoker MemoryStore := composition.serviceHop.invoker composition.service

/-- The argument of a call passes over both hops. -/
structure Carries (call : Call) : Prop where
  toService : composition.serviceHop.Carries composition.service call.argument
  toPeer : composition.peerHop.Carries composition.peer call.argument

/-- A failure of the store reaches the caller as this error. -/
def carried (failure : ServiceError) : Error :=
  carriedFailure composition.serviceHop (.rpc (carriedFailure composition.peerHop failure))

/-- These words come before those of a failure of the store. -/
def words : String :=
  composition.serviceHop.words ++ ("Handler failed: RPC error: " ++
    (composition.peerHop.words ++ "Handler failed: "))

/--
A remote call agrees with a direct one when both leave the same store and return the same customer.
A failure of the store keeps its words on the way to the caller.
-/
structure Agrees (remote : Outcome (Except Error Customer) × MemoryStore)
    (direct : Outcome (Except ServiceError Customer) × MemoryStore) : Prop where
  sameStore : remote.2 = direct.2
  returned : ∃ answer, direct.1 = .returned answer
  ok_iff : ∀ customer, remote.1 = .returned (.ok customer) ↔ direct.1 = .returned (.ok customer)
  failed : ∀ failure, direct.1 = .returned (.error failure) →
    remote.1 = .returned (.error (composition.carried failure)) ∧
      (composition.carried failure).message = composition.words ++ failure.message

variable {composition}

section Connections

theorem peer_codec : composition.peer.codec = composition.peerStart.codec :=
  (exposesOutbound_of_register composition.peerExposes).1

theorem peer_exposes : ExposesOutbound composition.peer MemoryStore.outbound :=
  (exposesOutbound_of_register composition.peerExposes).2

/-- The service calls its peer over the second hop. -/
theorem serviceStart_invoker :
    composition.serviceStart.invoker = composition.peerHop.invoker composition.peer := by
  rw [Adapter.invoker, Hop.invoker, composition.peerCalled, composition.sameCodec, peer_codec]

/-- The service of a composition keeps its customers at the peer. -/
def inbound (composition : Composition) : Inbound MemoryStore :=
  Inbound.service (Outbound.remote (composition.peerHop.invoker composition.peer))

theorem service_exposes : ExposesInbound composition.service composition.inbound := by
  have registered := composition.serviceExposes
  rw [serviceStart_invoker] at registered
  exact (exposesInbound_of_register registered).2

theorem connects_save :
    composition.peerHop.Connects composition.peer outboundNamespace "saveCustomer" Customer.shape
      (saveOperation MemoryStore.outbound) :=
  ⟨composition.peerDelivers _ (by simp), by decide, peer_exposes.save⟩

theorem connects_fetch :
    composition.peerHop.Connects composition.peer outboundNamespace "fetchCustomer" lookupShape
      (fetchOperation MemoryStore.outbound) :=
  ⟨composition.peerDelivers _ (by simp), by decide, peer_exposes.fetch⟩

theorem connects_announce :
    composition.peerHop.Connects composition.peer outboundNamespace "customerCreated"
      Customer.shape (announceOperation MemoryStore.outbound) :=
  ⟨composition.peerDelivers _ (by simp), by decide, peer_exposes.announce⟩

theorem connects_create :
    composition.serviceHop.Connects composition.service inboundNamespace "createCustomer"
      Customer.shape (createOperation composition.inbound) :=
  ⟨composition.serviceDelivers _ (by simp), by decide, service_exposes.create⟩

theorem connects_get :
    composition.serviceHop.Connects composition.service inboundNamespace "getCustomer"
      lookupShape (getOperation composition.inbound) :=
  ⟨composition.serviceDelivers _ (by simp), by decide, service_exposes.get⟩

end Connections

section Steps

variable {store : MemoryStore} {customer : Customer} {id : Int64}

theorem direct_create_run (customer : Customer) (store : MemoryStore) :
    (Call.create customer).direct store =
      (.returned (.ok customer), (store.save customer).announce customer) := by
  show (Inbound.service MemoryStore.outbound).create customer store = _
  exact create_run rfl rfl

theorem direct_get_run (id : Int64) (store : MemoryStore) :
    (Call.get id).direct store = (.returned (store.fetch id), store) := by
  show (Inbound.service MemoryStore.outbound).get id store = _
  exact get_run rfl

/-- The caller of a composition creates a customer in the store of the peer. -/
theorem remote_create_run (carries : composition.Carries (.create customer)) :
    (Call.create customer).remote composition.caller store =
      (.returned (.ok customer), (store.save customer).announce customer) := by
  have arrives := arrives_of_carries carries.toPeer
  have saved := remote_save_run connects_save arrives
    (show MemoryStore.outbound.save customer store = (.returned (.ok ()), store.save customer)
      from rfl)
  have announced := remote_announce_run connects_announce arrives
    (show MemoryStore.outbound.announce customer (store.save customer) =
      (.returned (.ok ()), (store.save customer).announce customer) from rfl)
  have created : composition.inbound.create customer store = _ := create_run saved announced
  have short : ∀ found, (.ok customer : Except ServiceError Customer) = .ok found →
      found.toDatum.isShort := by
    intro found same
    rw [Except.ok.injEq] at same
    rw [← same]
    exact carries.toService.short
  exact callCreate_run connects_create carries.toService short created

/-- The caller of a composition gets what the store of the peer holds. -/
theorem remote_get_run (carries : composition.Carries (.get id)) (short : store.IsShort) :
    (Call.get id).remote composition.caller store =
      (.returned ((store.fetch id).mapError composition.carried), store) := by
  have fetched := remote_fetch_run connects_fetch carries.toPeer
    (fun _ => MemoryStore.isShort_of_fetch short)
    (show MemoryStore.outbound.fetch id store = (.returned (store.fetch id), store) from rfl)
  have got : composition.inbound.get id store = _ := get_run fetched
  have called := callGet_run connects_get carries.toService
    (fun _ mapped => MemoryStore.isShort_of_fetch short (mapError_eq_ok.1 mapped)) got
  rw [mapError_mapError] at called
  exact called

theorem message_carried (id : Int64) :
    (composition.carried (.notFound id)).message =
      composition.words ++ (ServiceError.notFound id).message := by
  have literal : "Handler failed: RPC error: " = "Handler failed: " ++ "RPC error: " := by decide
  rw [carried, message_carriedFailure_rpc, words, literal]
  simp only [String.append_assoc]

/-- Every call agrees, and after it the store still holds nothing that cannot be written. -/
theorem agrees_step {call : Call} (carries : composition.Carries call) (short : store.IsShort) :
    composition.Agrees (call.remote composition.caller store) (call.direct store) ∧
      (call.direct store).2.IsShort := by
  cases call with
  | create customer =>
      rw [direct_create_run, remote_create_run carries]
      exact ⟨⟨rfl, ⟨_, rfl⟩, fun _ => by simp, nofun⟩,
        MemoryStore.isShort_save short carries.toPeer.short⟩
  | get id =>
      rw [direct_get_run, remote_get_run carries short]
      refine ⟨⟨rfl, ⟨_, rfl⟩, ?_, ?_⟩, short⟩
      · intro customer
        rw [Outcome.returned.injEq, Outcome.returned.injEq, mapError_eq_ok]
      · intro failure failed
        rw [Outcome.returned.injEq] at failed
        have missing := MemoryStore.notFound_of_fetch failed
        simp only [failed, missing, message_carried]
        exact ⟨rfl, trivial⟩

end Steps

/-- From a store that can be written, every run of calls agrees call by call. -/
theorem agrees_trace {calls : List Call} (carries : ∀ call ∈ calls, composition.Carries call)
    {store : MemoryStore} (short : store.IsShort) :
    List.Forall₂ composition.Agrees (Call.trace (Call.remote composition.caller) calls store)
      (Call.trace Call.direct calls store) := by
  induction calls generalizing store with
  | nil => exact .nil
  | cons call calls inductionHypothesis =>
      obtain ⟨agrees, stillShort⟩ := agrees_step (carries call List.mem_cons_self) short
      have later : ∀ call ∈ calls, composition.Carries call := by
        intro other member
        exact carries other (List.mem_cons_of_mem _ member)
      rw [Call.trace, Call.trace, agrees.sameStore]
      exact .cons agrees (inductionHypothesis later stillShort)

/-- A service over a remote peer refines the service over the store of that peer. -/
theorem remote_refines_direct (composition : Composition) (calls : List Call)
    (carries : ∀ call ∈ calls, composition.Carries call) :
    List.Forall₂ composition.Agrees
      (Call.trace (Call.remote composition.caller) calls MemoryStore.empty)
      (Call.trace Call.direct calls MemoryStore.empty) :=
  agrees_trace carries MemoryStore.isShort_empty

section Loopback

/-- This adapter exposes nothing yet and listens behind a prefix. -/
def loopbackStart (pathPrefix : String) (transport : Transport MemoryStore) :
    Adapter MemoryStore :=
  { config := { listen := { pathPrefix := pathPrefix } }
    codec := .json
    transport := transport
    handlers := Handlers.empty }

/-- This client was given the address of a listener on the same host. -/
def loopbackClient (port : UInt16) (segment : List Char) : Http.Client :=
  { base := ⟨.ipv4 ⟨127, 0, 0, 1⟩, port, [segment]⟩ }

def loopbackPeerStart : Adapter MemoryStore :=
  loopbackStart "/peer" (Transport.localTo Handlers.empty)

def loopbackPeer : Adapter MemoryStore :=
  (registerOutbound loopbackPeerStart MemoryStore.outbound).toOption.getD loopbackPeerStart

def loopbackServiceStart : Adapter MemoryStore :=
  loopbackStart "/service" ((Hop.http (loopbackClient 9000 ['p', 'e', 'e', 'r'])).transport
    loopbackPeer)

def loopbackService : Adapter MemoryStore :=
  (registerInbound loopbackServiceStart
    (Inbound.service (Outbound.remote loopbackServiceStart.invoker))).toOption.getD
    loopbackServiceStart

theorem exists_build_loopbackClient (port : UInt16) (segment : List Char)
    (plain : BaseUrl.IsPlainPrefix [segment]) :
    ∃ options : Http.ClientOptions, options.build = .ok (loopbackClient port segment) := by
  refine ⟨{ baseUrl := some (BaseUrl.loopbackText port [segment] 0) }, ?_⟩
  simp only [Http.ClientOptions.build, BaseUrl.resolve_loopbackText plain]
  rfl

/-- Both hops of this composition go over HTTP. -/
def loopback : Composition where
  serviceHop := .http (loopbackClient 9001 ['s', 'e', 'r', 'v', 'i', 'c', 'e'])
  peerHop := .http (loopbackClient 9000 ['p', 'e', 'e', 'r'])
  peerStart := loopbackPeerStart
  peer := loopbackPeer
  serviceStart := loopbackServiceStart
  service := loopbackService
  sameCodec := rfl
  peerExposes := rfl
  peerCalled := rfl
  serviceExposes := rfl
  peerDelivers := by
    have built := exists_build_loopbackClient 9000 ['p', 'e', 'e', 'r'] (by decide)
    simp only [List.forall_mem_cons]
    exact ⟨⟨built, rfl, _, rfl⟩, ⟨built, rfl, _, rfl⟩, ⟨built, rfl, _, rfl⟩, nofun⟩
  serviceDelivers := by
    have built := exists_build_loopbackClient 9001
      ['s', 'e', 'r', 'v', 'i', 'c', 'e'] (by decide)
    simp only [List.forall_mem_cons]
    exact ⟨⟨built, rfl, _, rfl⟩, ⟨built, rfl, _, rfl⟩, nofun⟩

def loopbackCustomer : Customer :=
  { id := 7, firstName := "Ada", middleName := none, lastName := "Byron", email := "a@b.org"
    address := { line1 := "1 High St", line2 := some "Flat 2", city := "Lund", state := "",
                 zip := "22100" } }

theorem carries_loopback {call : Call} (short : call.argument.isShort) {payload : Bytes}
    (encoded : Codec.json.encode call.argument = .ok payload)
    (fits : payload.length ≤ ({} : ListenConfig).maxBodySize) : loopback.Carries call := by
  have allowed : ∀ other, Codec.json.encode call.argument = .ok other →
      other.length ≤ ({} : ListenConfig).maxBodySize := by
    intro other same
    rw [encoded, Except.ok.injEq] at same
    rw [← same]
    exact fits
  exact ⟨⟨short, allowed⟩, ⟨short, allowed⟩⟩

/-- A customer is created and found, and another one is not. -/
theorem remote_refines_direct_loopback :
    List.Forall₂ loopback.Agrees
      (Call.trace (Call.remote loopback.caller)
        [.create loopbackCustomer, .get 7, .get 8] MemoryStore.empty)
      [(.returned (.ok loopbackCustomer), ⟨[(7, loopbackCustomer)], [7]⟩),
        (.returned (.ok loopbackCustomer), ⟨[(7, loopbackCustomer)], [7]⟩),
        (.returned (.error (.notFound 8)), ⟨[(7, loopbackCustomer)], [7]⟩)] := by
  have carries : ∀ call ∈ [.create loopbackCustomer, .get 7, .get 8], loopback.Carries call := by
    simp only [List.forall_mem_cons]
    exact ⟨carries_loopback (by decide) rfl (by decide +kernel),
      carries_loopback (by decide) rfl (by decide),
      carries_loopback (by decide) rfl (by decide), nofun⟩
  exact remote_refines_direct loopback [.create loopbackCustomer, .get 7, .get 8] carries

end Loopback

end Composition

end Switchboard.Customers
