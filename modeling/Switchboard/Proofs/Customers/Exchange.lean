import Switchboard.Customers.Exchange
import Switchboard.Proofs.Customers.Model
import Switchboard.Proofs.Hop

/-
This file shows that a remote peer and a remote service do over a hop what they do on their own.
-/

namespace Switchboard.Customers

variable {σ : Type} {state middle after : σ} {customer : Customer} {id : Int64}

section Service

variable {outbound : Outbound σ}

/-- A customer is created by saving and then announcing. -/
theorem create_run (saves : outbound.save customer state = (.returned (.ok ()), middle))
    (announces : outbound.announce customer middle = (.returned (.ok ()), after)) :
    (Inbound.service outbound).create customer state = (.returned (.ok customer), after) := by
  rw [Inbound.service]
  simp only [Script.create, Script.run]
  rw [Action.bind_of_returned saves]
  simp only [Script.saved, Script.run]
  rw [Action.bind_of_returned announces]
  rfl

theorem get_run {answer : Except ServiceError Customer}
    (fetches : outbound.fetch id state = (.returned answer, after)) :
    (Inbound.service outbound).get id state = (.returned answer, after) := by
  rw [Inbound.service]
  simp only [Script.get, Script.run]
  rw [Action.bind_of_returned fetches]
  rfl

end Service

section Failures

open Text

/-- A failure on the other end of a hop becomes this error. -/
def carriedFailure (hop : Hop) (failure : ServiceError) : Error :=
  hop.carriedError (.handler failure.message)

theorem ServiceError.message_rpc (cause : Error) :
    (ServiceError.rpc cause).message = "RPC error: " ++ cause.message := rfl

theorem length_repr_le {number digits : Nat} (positive : 0 < digits)
    (small : number < 10 ^ digits) : number.repr.toList.length ≤ digits := by
  rw [Nat.toList_repr]
  exact (Nat.length_toDigits_le_iff (by decide) positive).2 small

/-- The number of a customer has at most nineteen digits and a sign. -/
theorem length_toString_toInt_le (id : Int64) : (toString id.toInt).toList.length ≤ 20 := by
  have least := Int64.le_toInt id
  have greatest := Int64.toInt_lt id
  cases value : id.toInt with
  | ofNat magnitude =>
      rw [value, Int.ofNat_eq_natCast] at greatest
      exact length_repr_le (by decide) (by omega)
  | negSucc magnitude =>
      have digits : (magnitude + 1).repr.toList.length ≤ 19 :=
        length_repr_le (by decide) (by omega)
      have signed : toString (Int.negSucc magnitude) = "-" ++ (magnitude + 1).repr := rfl
      rw [signed, String.toList_append, List.length_append]
      exact Nat.add_le_add (show 1 ≤ 1 by decide) digits

theorem length_encode_notFound_le (id : Int64) :
    (Utf8.encode (ServiceError.notFound id).message).length ≤ 99 := by
  have worded : (ServiceError.notFound id).message =
      "Customer " ++ toString id.toInt ++ " not found" := rfl
  have before : (Utf8.encode "Customer ").length = 9 := by decide
  have after : (Utf8.encode " not found").length = 10 := by decide
  have characters := length_toString_toInt_le id
  have number := Utf8.length_encodeChars_le (toString id.toInt).toList
  rw [worded, Utf8.length_encode_append, Utf8.length_encode_append, before, after, Utf8.encode]
  omega

theorem length_encode_handler (reason : String) :
    (Utf8.encode (Error.handler reason).message).length = 16 + (Utf8.encode reason).length := by
  have before : (Utf8.encode "Handler failed: ").length = 16 := by decide
  rw [Hop.message_handler, Utf8.length_encode_append, before]

/-- The words of a short failure arrive behind those of the handler and the hop. -/
theorem message_carriedFailure (hop : Hop) {failure : ServiceError}
    (short : (Utf8.encode failure.message).length ≤ 240) :
    (carriedFailure hop failure).message =
      hop.words ++ ("Handler failed: " ++ failure.message) := by
  have whole : (Utf8.encode (Error.handler failure.message).message).length ≤
      Http.previewLimit := by
    rw [length_encode_handler, Http.previewLimit]
    omega
  rw [carriedFailure, Hop.message_carriedError whole, Hop.message_handler]

theorem length_encode_carriedFailure_le (hop : Hop) {failure : ServiceError}
    (short : (Utf8.encode failure.message).length ≤ 240) :
    (Utf8.encode (carriedFailure hop failure).message).length ≤
      59 + (Utf8.encode failure.message).length := by
  have words := Hop.length_encode_words_le hop
  rw [message_carriedFailure hop short, ← Hop.message_handler, Utf8.length_encode_append,
    length_encode_handler]
  omega

/-- The words of a customer who was not found are short enough for two hops. -/
theorem message_carriedFailure_rpc (serviceHop peerHop : Hop) (id : Int64) :
    (carriedFailure serviceHop (.rpc (carriedFailure peerHop (.notFound id)))).message =
      serviceHop.words ++ ("Handler failed: " ++ ("RPC error: " ++
        (peerHop.words ++ ("Handler failed: " ++ (ServiceError.notFound id).message)))) := by
  have found := length_encode_notFound_le id
  have once : (Utf8.encode (carriedFailure peerHop (.notFound id)).message).length ≤
      59 + (Utf8.encode (ServiceError.notFound id).message).length :=
    length_encode_carriedFailure_le peerHop (by omega)
  have before : (Utf8.encode "RPC error: ").length = 11 := by decide
  have twice : (Utf8.encode
      (ServiceError.rpc (carriedFailure peerHop (.notFound id))).message).length ≤ 240 := by
    rw [ServiceError.message_rpc, Utf8.length_encode_append, before]
    omega
  rw [message_carriedFailure serviceHop twice, ServiceError.message_rpc,
    message_carriedFailure peerHop (by omega)]

end Failures

section Operations

variable {inbound : Inbound σ} {outbound : Outbound σ}

theorem createOperation_run {answer : Except ServiceError Customer}
    (ran : inbound.create customer state = (.returned answer, after)) :
    createOperation inbound customer.toDatum state =
      (.returned (answerWith Customer.toDatum answer), after) := by
  rw [← Customer.ofDatum_toDatum customer] at ran
  rw [createOperation, Action.bind_of_returned ran]
  rfl

theorem getOperation_run {answer : Except ServiceError Customer}
    (ran : inbound.get id state = (.returned answer, after)) :
    getOperation inbound (lookupDatum id) state =
      (.returned (answerWith Customer.toDatum answer), after) := by
  rw [← lookupOfDatum_lookupDatum id] at ran
  rw [getOperation, Action.bind_of_returned ran]
  rfl

theorem saveOperation_run {answer : Except ServiceError Unit}
    (ran : outbound.save customer state = (.returned answer, after)) :
    saveOperation outbound customer.toDatum state =
      (.returned (answerWith unitDatum answer), after) := by
  rw [← Customer.ofDatum_toDatum customer] at ran
  rw [saveOperation, Action.bind_of_returned ran]
  rfl

theorem fetchOperation_run {answer : Except ServiceError Customer}
    (ran : outbound.fetch id state = (.returned answer, after)) :
    fetchOperation outbound (lookupDatum id) state =
      (.returned (answerWith Customer.toDatum answer), after) := by
  rw [← lookupOfDatum_lookupDatum id] at ran
  rw [fetchOperation, Action.bind_of_returned ran]
  rfl

theorem announceOperation_run {answer : Except ServiceError Unit}
    (ran : outbound.announce customer state = (.returned answer, after)) :
    announceOperation outbound customer.toDatum state =
      (.returned (answerWith unitDatum answer), after) := by
  rw [← Customer.ofDatum_toDatum customer] at ran
  rw [announceOperation, Action.bind_of_returned ran]
  rfl

end Operations

section Registration

variable {start adapter : Adapter σ}

/-- These operations are within reach on an adapter that a peer was registered on. -/
structure ExposesOutbound (adapter : Adapter σ) (outbound : Outbound σ) : Prop where
  save : adapter.handlers.lookup outboundNamespace "saveCustomer" =
    some (typedHandler adapter.codec Customer.shape (saveOperation outbound))
  fetch : adapter.handlers.lookup outboundNamespace "fetchCustomer" =
    some (typedHandler adapter.codec lookupShape (fetchOperation outbound))
  announce : adapter.handlers.lookup outboundNamespace "customerCreated" =
    some (typedHandler adapter.codec Customer.shape (announceOperation outbound))

structure ExposesInbound (adapter : Adapter σ) (inbound : Inbound σ) : Prop where
  create : adapter.handlers.lookup inboundNamespace "createCustomer" =
    some (typedHandler adapter.codec Customer.shape (createOperation inbound))
  get : adapter.handlers.lookup inboundNamespace "getCustomer" =
    some (typedHandler adapter.codec lookupShape (getOperation inbound))

/-- No later registration takes the place of an earlier one. -/
theorem exposesOutbound_of_register {outbound : Outbound σ}
    (registered : registerOutbound start outbound = .ok adapter) :
    adapter.codec = start.codec ∧ ExposesOutbound adapter outbound := by
  rw [registerOutbound] at registered
  obtain ⟨first, firstRegistered, registered⟩ := bind_eq_ok.1 registered
  obtain ⟨second, secondRegistered, thirdRegistered⟩ := bind_eq_ok.1 registered
  have saves := Adapter.registers_of_register firstRegistered
  have fetches := Adapter.registers_of_register secondRegistered
  have announces := Adapter.registers_of_register thirdRegistered
  have sameCodec : adapter.codec = start.codec :=
    announces.sameCodec.trans (fetches.sameCodec.trans saves.sameCodec)
  refine ⟨sameCodec, ?_, ?_, ?_⟩
  · rw [announces.kept _ _ (by decide), fetches.kept _ _ (by decide), saves.found, sameCodec]
  · rw [announces.kept _ _ (by decide), fetches.found, announces.sameCodec, fetches.sameCodec]
  · rw [announces.found, announces.sameCodec]

theorem exposesInbound_of_register {inbound : Inbound σ}
    (registered : registerInbound start inbound = .ok adapter) :
    adapter.codec = start.codec ∧ ExposesInbound adapter inbound := by
  rw [registerInbound] at registered
  obtain ⟨first, firstRegistered, secondRegistered⟩ := bind_eq_ok.1 registered
  have creates := Adapter.registers_of_register firstRegistered
  have gets := Adapter.registers_of_register secondRegistered
  refine ⟨gets.sameCodec.trans creates.sameCodec, ?_, ?_⟩
  · rw [gets.kept _ _ (by decide), creates.found, gets.sameCodec, creates.sameCodec]
  · rw [gets.found, gets.sameCodec]

/-- Nothing else is exposed with the service. -/
theorem lookup_of_registerInbound {inbound : Inbound σ}
    (registered : registerInbound start inbound = .ok adapter) {namespaceName operation : String}
    (notCreate : ¬ (namespaceName = inboundNamespace ∧ operation = "createCustomer"))
    (notGet : ¬ (namespaceName = inboundNamespace ∧ operation = "getCustomer")) :
    adapter.handlers.lookup namespaceName operation =
      start.handlers.lookup namespaceName operation := by
  rw [registerInbound] at registered
  obtain ⟨first, firstRegistered, secondRegistered⟩ := bind_eq_ok.1 registered
  have creates := Adapter.registers_of_register firstRegistered
  have gets := Adapter.registers_of_register secondRegistered
  rw [gets.kept _ _ notGet, creates.kept _ _ notCreate]

end Registration

section Remote

variable {hop : Hop} {adapter : Adapter σ} {operation namespaceName : String} {request : Shape}
  {run : Operation σ}

theorem ofDatum_carried (answer : Except ServiceError Customer) (carry : ServiceError → Error) :
    ((answer.map Customer.toDatum).mapError carry).map Customer.ofDatum =
      answer.mapError carry := by
  cases answer with
  | error failure => rfl
  | ok customer => exact congrArg Except.ok customer.ofDatum_toDatum

/-- A customer comes back over a hop unchanged, and so do the words of a failure. -/
theorem invokeWithReturn_customer
    (connects : hop.Connects adapter namespaceName operation request run) {value : Datum}
    {payload : Bytes} (encoded : adapter.codec.encode value = .ok payload)
    (decoded : adapter.codec.decode request payload = .ok value)
    (carries : hop.Carries adapter value) {answer : Except ServiceError Customer}
    (short : ∀ customer, answer = .ok customer → customer.toDatum.isShort)
    (ran : run value state = (.returned (answerWith Customer.toDatum answer), after)) :
    (hop.invoker adapter).invokeWithReturn namespaceName operation value Customer.shape state =
      (.returned ((answer.map Customer.toDatum).mapError (carriedFailure hop)), after) := by
  have accepts := carries.accepted payload encoded
  cases answer with
  | error failure => exact connects.invokeWithReturn_error encoded decoded accepts ran _
  | ok customer =>
      obtain ⟨bytes, replied⟩ := exists_encode_toDatum adapter.codec customer
      have read := decode_toDatum (short customer rfl) replied
      exact connects.invokeWithReturn_ok encoded decoded accepts ran replied read

/-- A customer arrives where its payload is accepted and decoded to the same customer. -/
structure Arrives (hop : Hop) (adapter : Adapter σ) (customer : Customer) : Prop where
  decoded : ∀ payload, adapter.codec.encode customer.toDatum = .ok payload →
    adapter.codec.decode Customer.shape payload = .ok customer.toDatum
  accepted : ∀ payload, adapter.codec.encode customer.toDatum = .ok payload →
    hop.Accepts adapter payload

theorem arrives_of_carries (carries : hop.Carries adapter customer.toDatum) :
    Arrives hop adapter customer :=
  ⟨fun _ => decode_toDatum carries.short, carries.accepted⟩

/-- Nothing but its success is read of an operation without a result. -/
theorem invoke_customer (connects : hop.Connects adapter namespaceName operation Customer.shape run)
    (arrives : Arrives hop adapter customer)
    (ran : run customer.toDatum state = (.returned (answerWith unitDatum (.ok ())), after)) :
    (hop.invoker adapter).invoke namespaceName operation customer.toDatum state =
      (.returned (.ok ()), after) := by
  obtain ⟨payload, encoded⟩ := exists_encode_toDatum adapter.codec customer
  exact connects.invoke_ok encoded (arrives.decoded payload encoded)
    (arrives.accepted payload encoded) ran (exists_encode_null adapter.codec)

section Peer

variable {outbound : Outbound σ}

theorem remote_save_run
    (connects : hop.Connects adapter outboundNamespace "saveCustomer" Customer.shape
      (saveOperation outbound))
    (arrives : Arrives hop adapter customer)
    (ran : outbound.save customer state = (.returned (.ok ()), after)) :
    (Outbound.remote (hop.invoker adapter)).save customer state = (.returned (.ok ()), after) := by
  have invoked := invoke_customer connects arrives (saveOperation_run ran)
  rw [Outbound.remote]
  simp only
  rw [Action.bind_of_returned invoked]
  rfl

theorem remote_announce_run
    (connects : hop.Connects adapter outboundNamespace "customerCreated" Customer.shape
      (announceOperation outbound))
    (arrives : Arrives hop adapter customer)
    (ran : outbound.announce customer state = (.returned (.ok ()), after)) :
    (Outbound.remote (hop.invoker adapter)).announce customer state =
      (.returned (.ok ()), after) := by
  have invoked := invoke_customer connects arrives (announceOperation_run ran)
  rw [Outbound.remote]
  simp only
  rw [Action.bind_of_returned invoked]
  rfl

/-- The service sees a failure of its peer as a failure of the remote call. -/
theorem remote_fetch_run
    (connects : hop.Connects adapter outboundNamespace "fetchCustomer" lookupShape
      (fetchOperation outbound))
    (carries : hop.Carries adapter (lookupDatum id)) {answer : Except ServiceError Customer}
    (short : ∀ customer, answer = .ok customer → customer.toDatum.isShort)
    (ran : outbound.fetch id state = (.returned answer, after)) :
    (Outbound.remote (hop.invoker adapter)).fetch id state =
      (.returned (answer.mapError fun failure => .rpc (carriedFailure hop failure)), after) := by
  obtain ⟨payload, encoded⟩ := exists_encode_lookupDatum adapter.codec id
  have invoked := invokeWithReturn_customer connects encoded (decode_lookupDatum encoded) carries
    short (fetchOperation_run ran)
  have read := ofDatum_carried answer (carriedFailure hop)
  rw [Outbound.remote]
  simp only
  rw [Action.bind_of_returned invoked]
  cases answer with
  | error failure => rfl
  | ok found =>
      show (Outcome.returned (Except.ok (Customer.ofDatum found.toDatum)), after) = _
      rw [Customer.ofDatum_toDatum]
      rfl

end Peer

section Caller

variable {inbound : Inbound σ}

theorem callCreate_run
    (connects : hop.Connects adapter inboundNamespace "createCustomer" Customer.shape
      (createOperation inbound))
    (carries : hop.Carries adapter customer.toDatum) {answer : Except ServiceError Customer}
    (short : ∀ customer, answer = .ok customer → customer.toDatum.isShort)
    (ran : inbound.create customer state = (.returned answer, after)) :
    callCreate (hop.invoker adapter) customer state =
      (.returned (answer.mapError (carriedFailure hop)), after) := by
  obtain ⟨payload, encoded⟩ := exists_encode_toDatum adapter.codec customer
  have invoked := invokeWithReturn_customer connects encoded
    (decode_toDatum carries.short encoded) carries short (createOperation_run ran)
  rw [callCreate, Action.bind_of_returned invoked, ofDatum_carried]
  rfl

theorem callGet_run
    (connects : hop.Connects adapter inboundNamespace "getCustomer" lookupShape
      (getOperation inbound))
    (carries : hop.Carries adapter (lookupDatum id)) {answer : Except ServiceError Customer}
    (short : ∀ customer, answer = .ok customer → customer.toDatum.isShort)
    (ran : inbound.get id state = (.returned answer, after)) :
    callGet (hop.invoker adapter) id state =
      (.returned (answer.mapError (carriedFailure hop)), after) := by
  obtain ⟨payload, encoded⟩ := exists_encode_lookupDatum adapter.codec id
  have invoked := invokeWithReturn_customer connects encoded (decode_lookupDatum encoded) carries
    short (getOperation_run ran)
  rw [callGet, Action.bind_of_returned invoked, ofDatum_carried]
  rfl

end Caller

end Remote

end Switchboard.Customers
