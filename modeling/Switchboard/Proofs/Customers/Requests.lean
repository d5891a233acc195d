import Switchboard.Proofs.Codec.Soundness
import Switchboard.Proofs.Customers.Composition
import Switchboard.Proofs.Keeping

/-
This file serves customers over HTTP to senders of arbitrary requests, and shows that a request
changes the store only if it is answered with a success.
-/

namespace Switchboard.Customers

/-- Behind a service stands the store itself, or a table in the same process that exposes it. -/
inductive Backing (start : Adapter MemoryStore) : Outbound MemoryStore → Prop where
  | store : Backing start MemoryStore.outbound
  | table {peerStart peer : Adapter MemoryStore}
    (exposes : registerOutbound peerStart MemoryStore.outbound = .ok peer)
    (sameCodec : start.codec = peerStart.codec)
    (called : start.transport = Transport.localTo peer.handlers) :
    Backing start (Outbound.remote start.invoker)

namespace Backing

variable {start : Adapter MemoryStore} {outbound : Outbound MemoryStore}

/-- A table is called over a hop within the process. -/
theorem peer_cases (backing : Backing start outbound) :
    outbound = MemoryStore.outbound ∨
      ∃ peer, outbound = Outbound.remote (Hop.inProcess.invoker peer) ∧
        peer.codec = start.codec ∧ ExposesOutbound peer MemoryStore.outbound := by
  cases backing with
  | store => exact .inl rfl
  | @table peerStart peer exposes sameCodec called =>
      obtain ⟨peerCodec, exposed⟩ := exposesOutbound_of_register exposes
      rw [← peerCodec] at sameCodec
      refine .inr ⟨peer, ?_, sameCodec.symm, exposed⟩
      rw [Adapter.invoker, Hop.invoker, called, sameCodec]
      rfl

/-- A customer survives when the codec of the service gives it back. -/
def Survives (start : Adapter MemoryStore) (customer : Customer) : Prop :=
  ∀ payload, start.codec.encode customer.toDatum = .ok payload →
    start.codec.decode Customer.shape payload = .ok customer.toDatum

/-- Within the process a payload is never too long. -/
theorem Survives.arrives {customer : Customer} (survives : Survives start customer)
    {peer : Adapter MemoryStore} (sameCodec : peer.codec = start.codec) :
    Arrives .inProcess peer customer := by
  rw [Survives, ← sameCodec] at survives
  exact ⟨survives, fun _ _ => trivial⟩

section Steps

variable (backing : Backing start outbound)
include backing

section Writes

variable {customer : Customer} (survives : Survives start customer) (store : MemoryStore)
include survives

theorem save_run : outbound.save customer store = (.returned (.ok ()), store.save customer) := by
  obtain rfl | ⟨peer, rfl, sameCodec, exposed⟩ := backing.peer_cases
  · rfl
  · exact remote_save_run ⟨trivial, by decide, exposed.save⟩ (survives.arrives sameCodec) rfl

theorem announce_run :
    outbound.announce customer store = (.returned (.ok ()), store.announce customer) := by
  obtain rfl | ⟨peer, rfl, sameCodec, exposed⟩ := backing.peer_cases
  · rfl
  · exact remote_announce_run ⟨trivial, by decide, exposed.announce⟩ (survives.arrives sameCodec)
      rfl

end Writes

/-- Whatever becomes of a lookup, it changes nothing. -/
theorem keeps_fetch (id : Int64) : (outbound.fetch id).Keeps := by
  have keepsStore (id : Int64) : (MemoryStore.outbound.fetch id).Keeps := fun _ => rfl
  obtain rfl | ⟨peer, rfl, _, exposed⟩ := backing.peer_cases
  · exact keepsStore id
  · have keeps (value : Datum) : (fetchOperation MemoryStore.outbound value).Keeps :=
      (keepsStore _).bind fun _ => Action.keeps_pure _
    refine (Invoker.keeps_invokeWithReturn (keeps_localTo ?_) _ _).bind fun _ =>
      Action.keeps_pure _
    intro handler found
    rw [exposed.fetch, Option.some.injEq] at found
    rw [← found]
    exact keeps_typedHandler keeps _ _

end Steps

end Backing

/-- Nothing but the operations of the service is exposed to the senders of requests. -/
structure Deployment where
  start : Adapter MemoryStore
  outbound : Outbound MemoryStore
  adapter : Adapter MemoryStore
  unused : start.handlers = Handlers.empty
  backing : Backing start outbound
  exposes : registerInbound start (Inbound.service outbound) = .ok adapter

namespace Deployment

variable (deployment : Deployment)

def inbound : Inbound MemoryStore := Inbound.service deployment.outbound

def codec : Codec := deployment.adapter.codec

def router : Http.Router MemoryStore := deployment.adapter.router

/-- An operation of the service is reached under this path. -/
def path (operation : String) : String :=
  deployment.router.pathPrefix ++ s!"/{inboundNamespace}/{operation}"

def createHandler : Handler MemoryStore :=
  typedHandler deployment.codec Customer.shape (createOperation deployment.inbound)

def getHandler : Handler MemoryStore :=
  typedHandler deployment.codec lookupShape (getOperation deployment.inbound)

variable {deployment}

theorem codec_eq : deployment.codec = deployment.start.codec :=
  (exposesInbound_of_register deployment.exposes).1

/-- A path that has a handler leads to one of the two operations. -/
theorem handler_cases {path : String} {handler : Handler MemoryStore}
    (found : deployment.router.handlerFor? path = some handler) :
    handler = deployment.createHandler ∨ handler = deployment.getHandler := by
  rw [Http.Router.handlerFor?] at found
  split at found
  · cases found
  next key _ =>
  have made : OperationKey.make key.namespaceName key.operation = .ok key :=
    OperationKey.make_eq_ok.2 ⟨rfl, rfl⟩
  have present : deployment.adapter.handlers.lookup key.namespaceName key.operation =
      some handler :=
    (Handlers.lookup_of_make made).trans found
  have exposed := (exposesInbound_of_register deployment.exposes).2
  by_cases isCreate : key.namespaceName = inboundNamespace ∧ key.operation = "createCustomer"
  · rw [isCreate.1, isCreate.2, exposed.create, Option.some.injEq] at present
    exact .inl present.symm
  by_cases isGet : key.namespaceName = inboundNamespace ∧ key.operation = "getCustomer"
  · rw [isGet.1, isGet.2, exposed.get, Option.some.injEq] at present
    exact .inr present.symm
  · rw [lookup_of_registerInbound deployment.exposes isCreate isGet, deployment.unused,
      Handlers.lookup] at present
    split at present <;> cases present

theorem handlerFor?_path {operation : String} {handler : Handler MemoryStore}
    (operationNonempty : operation ≠ "") (noSlash : '/' ∉ operation.toList)
    (exposed : deployment.adapter.handlers.lookup inboundNamespace operation = some handler) :
    deployment.router.handlerFor? (deployment.path operation) = some handler := by
  let key : OperationKey := ⟨inboundNamespace, operation, by decide, operationNonempty, noSlash⟩
  have isPath : deployment.path operation =
      String.ofList (deployment.router.pathPrefix.toList ++ key.path.toList) := by
    rw [← String.toList_append, String.ofList_toList]
    rfl
  rw [isPath, Http.handlerFor?_path]
  exact (Handlers.lookup_of_make (OperationKey.make_eq_ok.2 ⟨rfl, rfl⟩)).symm.trans exposed

theorem handlerFor?_create : deployment.router.handlerFor? (deployment.path "createCustomer") =
    some deployment.createHandler :=
  handlerFor?_path (by decide) (by decide)
    (exposesInbound_of_register deployment.exposes).2.create

theorem handlerFor?_get : deployment.router.handlerFor? (deployment.path "getCustomer") =
    some deployment.getHandler :=
  handlerFor?_path (by decide) (by decide) (exposesInbound_of_register deployment.exposes).2.get

theorem keeps_getHandler (payload : Bytes) : (deployment.getHandler payload).Keeps := by
  refine keeps_typedHandler (fun value => ?_) _ _ payload
  have keeps (id : Int64) : (deployment.inbound.get id).Keeps :=
    (deployment.backing.keeps_fetch id).bind fun _ => Action.keeps_pure _
  exact (keeps _).bind fun _ => Action.keeps_pure _

end Deployment

/-- A visit is a request with its answer, if it gets one, and with the store around it. -/
structure Visit where
  request : Http.Request
  before : MemoryStore
  outcome : Outcome Http.Response
  after : MemoryStore

namespace Visit

/-- The sender got an answer with this status. -/
def Answered (visit : Visit) (statusCode : Nat) : Prop :=
  ∃ response, visit.outcome = .returned response ∧ response.statusCode = statusCode

/-- A visit creates a customer when the store holds the customer of its body from then on. -/
structure Creates (codec : Codec) (visit : Visit) (customer : Customer) : Prop where
  complete : visit.request.body.ending = .complete
  decoded : codec.decode Customer.shape visit.request.body.received = .ok customer.toDatum
  stored : visit.after.find? customer.id = some customer
  others : ∀ id, id ≠ customer.id → visit.after.find? id = visit.before.find? id
  announced : visit.after.created = visit.before.created ++ [customer.id]
  answered : ∃ response, visit.outcome = .returned response ∧ response.statusCode = 200 ∧
    codec.encode customer.toDatum = .ok response.body

/-- A visit is clean when it changes the store with a success only. -/
structure IsClean (deployment : Deployment) (visit : Visit) : Prop where
  rejected : ¬ visit.Answered 200 → visit.after = visit.before
  looked : visit.request.path = deployment.path "getCustomer" → visit.after = visit.before
  created : visit.request.path = deployment.path "createCustomer" → visit.Answered 200 →
    ∃ customer, visit.Creates deployment.codec customer

end Visit

namespace Deployment

variable {deployment : Deployment} {store : MemoryStore}

/-- This is what becomes of a request. -/
def visit (deployment : Deployment) (request : Http.Request) (store : MemoryStore) : Visit :=
  ⟨request, store, (deployment.router.dispatch request store).1,
    (deployment.router.dispatch request store).2⟩

/-- Requests come one after the other, each to the store that the last one left. -/
def visits (deployment : Deployment) : List Http.Request → MemoryStore → List Visit
  | [], _ => []
  | request :: requests, store =>
    deployment.visit request store ::
      deployment.visits requests (deployment.visit request store).after

/-- A customer who was decoded is saved and announced, and the answer is the customer again. -/
theorem createHandler_run {payload : Bytes} {customer : Customer}
    (decoded : deployment.codec.decode Customer.shape payload = .ok customer.toDatum)
    (store : MemoryStore) :
    deployment.createHandler payload store =
      (.returned (deployment.codec.encode customer.toDatum),
        (store.save customer).announce customer) := by
  have survives : Backing.Survives deployment.start customer := by
    intro again encoded
    rw [← codec_eq] at encoded ⊢
    exact Codec.decode_encode_of_decode (by decide) (by decide) (by decide) (by decide)
      (by decide) decoded encoded
  have saves := deployment.backing.save_run survives store
  have announces := deployment.backing.announce_run survives (store.save customer)
  exact Hop.typedHandler_run decoded (createOperation_run (create_run saves announces))

theorem refuses_of_undecoded {body : Http.Body} {payload : Bytes} {error : Error}
    (whole : body.collect deployment.router.maxBodySize = .whole payload)
    (undecoded : deployment.codec.decode Customer.shape payload = .error error) :
    Http.Refuses (deployment.router.serve deployment.createHandler body) := by
  have failed (store : MemoryStore) :
      deployment.createHandler payload store = (.returned (.error error), store) := by
    rw [createHandler, typedHandler, undecoded]
    rfl
  have answered : deployment.router.serve deployment.createHandler body =
      pure (.plain 500 error.message) := by
    funext store
    exact Http.serve_of_whole whole (failed store) (by simp)
  rw [answered]
  exact Http.refuses_pure (show 500 ≠ 200 by decide)

theorem creates_of_serve {request : Http.Request}
    (served : deployment.router.dispatch request =
      deployment.router.serve deployment.createHandler request.body) {payload : Bytes}
    (whole : request.body.collect deployment.router.maxBodySize = .whole payload)
    {customer : Customer}
    (decoded : deployment.codec.decode Customer.shape payload = .ok customer.toDatum)
    (store : MemoryStore) :
    (deployment.visit request store).Creates deployment.codec customer := by
  obtain ⟨reply, encoded⟩ := exists_encode_toDatum deployment.codec customer
  obtain ⟨_, complete, received⟩ := Http.Body.collect_eq_whole.1 whole
  have ran := createHandler_run decoded store
  rw [encoded] at ran
  have answered : deployment.router.dispatch request store =
      (.returned (deployment.router.response (.returned (.ok reply))),
        (store.save customer).announce customer) := by
    rw [served]
    exact Http.serve_of_whole whole ran (by simp)
  rw [visit, answered]
  exact {
    complete := complete
    decoded := received.symm ▸ decoded
    stored := store.find?_save_self customer
    others := fun id different => MemoryStore.find?_save_of_ne different store
    announced := rfl
    answered := ⟨_, rfl, rfl, encoded⟩ }

/-- A customer who is sent in the right way is created. -/
theorem creates_of_decode {body : Http.Body} (complete : body.ending = .complete)
    (fits : body.received.length ≤ deployment.router.maxBodySize) {customer : Customer}
    (decoded : deployment.codec.decode Customer.shape body.received = .ok customer.toDatum)
    (store : MemoryStore) :
    (deployment.visit ⟨"POST", deployment.path "createCustomer", body⟩ store).Creates
      deployment.codec customer := by
  refine creates_of_serve ?_ (Http.Body.collect_eq_whole.2 ⟨fits, complete, rfl⟩) decoded store
  rw [Http.Router.dispatch, if_pos rfl, handlerFor?_create]

/-- A request is refused by the handler that creates customers, or it creates one. -/
theorem refuses_or_creates {request : Http.Request}
    (found : deployment.router.handlerFor? request.path = some deployment.createHandler) :
    Http.Refuses (deployment.router.dispatch request) ∨
      ∃ customer, ∀ store, (deployment.visit request store).Creates deployment.codec customer := by
  obtain refused | ⟨handler, isHandler, served⟩ := deployment.router.dispatch_cases request
  · exact .inl refused
  rw [found, Option.some.injEq] at isHandler
  rw [← isHandler] at served
  by_cases arrives : ∃ payload, request.body.collect deployment.router.maxBodySize = .whole payload
  · obtain ⟨payload, whole⟩ := arrives
    cases decoded : deployment.codec.decode Customer.shape payload with
    | error error =>
        rw [served]
        exact .inl (refuses_of_undecoded whole decoded)
    | ok datum =>
        have held := Codec.holds_of_decode (by decide) (by decide) (by decide) (by decide) decoded
        rw [← Customer.toDatum_ofDatum held] at decoded
        exact .inr ⟨_, creates_of_serve served whole decoded⟩
  · rw [served]
    exact .inl (Http.Router.refuses_serve (not_exists.1 arrives) _)

/-- Every request leaves the store as it is, or it creates the customer of its body. -/
theorem isClean_visit (request : Http.Request) (store : MemoryStore) :
    (deployment.visit request store).IsClean deployment := by
  refine ⟨fun notAnswered => ?rejected, fun samePath => ?looked, fun samePath answered => ?created⟩
  case rejected =>
    -- the path is arbitrary here, so only the handler that it leads to tells the operations apart
    obtain refused | ⟨handler, found, _⟩ := deployment.router.dispatch_cases request
    · exact refused.keeps store
    obtain rfl | rfl := handler_cases found
    · obtain refused | ⟨customer, creates⟩ := refuses_or_creates found
      · exact refused.keeps store
      · obtain ⟨response, answered, success, _⟩ := (creates store).answered
        exact absurd ⟨response, answered, success⟩ notAnswered
    · exact Http.Router.keeps_dispatch found keeps_getHandler store
  case looked =>
    have found : deployment.router.handlerFor? request.path = some deployment.getHandler :=
      samePath ▸ handlerFor?_get
    exact Http.Router.keeps_dispatch found keeps_getHandler store
  case created =>
    have found : deployment.router.handlerFor? request.path = some deployment.createHandler :=
      samePath ▸ handlerFor?_create
    obtain refused | ⟨customer, creates⟩ := refuses_or_creates found
    · obtain ⟨response, isAnswer, success⟩ := answered
      exact absurd success (refused.fails store response isAnswer)
    · exact ⟨customer, creates store⟩

/-- Whatever requests come, a request that is not answered with a success changes nothing. -/
theorem isClean_of_mem_visits (deployment : Deployment) (requests : List Http.Request)
    (store : MemoryStore) :
    ∀ visit ∈ deployment.visits requests store, visit.IsClean deployment := by
  induction requests generalizing store with
  | nil => exact fun _ absent => absurd absent List.not_mem_nil
  | cons request requests inductionHypothesis =>
      exact List.forall_mem_cons.2 ⟨isClean_visit request store, inductionHypothesis _⟩

section Table

open Switchboard.Customers.Composition (loopbackCustomer loopbackPeer loopbackPeerStart
  loopbackStart)

def tableStart : Adapter MemoryStore :=
  loopbackStart "/service" (Transport.localTo loopbackPeer.handlers)

/-- This service calls its peer through a table in the same process. -/
def overTable : Deployment where
  start := tableStart
  outbound := Outbound.remote tableStart.invoker
  adapter := (registerInbound tableStart
    (Inbound.service (Outbound.remote tableStart.invoker))).toOption.getD tableStart
  unused := rfl
  backing := @Backing.table tableStart loopbackPeerStart loopbackPeer rfl rfl rfl
  exposes := rfl

/-- The body of this request is sent in two frames. -/
def tableRequest (method operation : String) (ending : Http.BodyEnd) : Http.Request :=
  let payload := (Codec.json.encode loopbackCustomer.toDatum).toOption.getD []
  ⟨method, overTable.path operation, ⟨[payload.take 9, payload.drop 9], ending⟩⟩

/-- Only the second of these requests creates a customer. -/
theorem isClean_of_mem_visits_table :
    let requests := [tableRequest "POST" "createCustomer" .brokenOff,
      tableRequest "POST" "createCustomer" .complete,
      tableRequest "PUT" "createCustomer" .complete, tableRequest "POST" "getCustomer" .complete]
    let visits := overTable.visits requests MemoryStore.empty
    visits.map Visit.after = [MemoryStore.empty, ⟨[(7, loopbackCustomer)], [7]⟩,
      ⟨[(7, loopbackCustomer)], [7]⟩, ⟨[(7, loopbackCustomer)], [7]⟩] ∧
      ∀ visit ∈ visits, visit.IsClean overTable :=
  ⟨by decide +kernel, isClean_of_mem_visits overTable _ _⟩

end Table

end Deployment

end Switchboard.Customers
