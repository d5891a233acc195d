import Switchboard.Proofs.Codec.Agreement
import Switchboard.Proofs.Hop

/-
This file follows a typed call through a table that was filled by a history of registrations. The
call ends like the operation itself, unless one of the two values on the way cannot be encoded.
-/

namespace Switchboard

variable {σ : Type}

/-- A registration may come without a handler, and its texts need not make a key. -/
structure Registration (σ : Type) where
  namespaceName : String
  operation : String
  handler : Option (Handler σ)

namespace Handlers

/-- A registration that is refused leaves the table as it is. -/
def apply (handlers : Handlers σ) (registration : Registration σ) : Handlers σ :=
  match handlers.register registration.namespaceName registration.operation
    registration.handler with
  | .ok after => after
  | .error _ => handlers

/-- A table starts empty and takes one registration after the other. -/
def ofHistory (history : List (Registration σ)) : Handlers σ := history.foldl apply empty

variable {namespaceName operation : String}

/-- A registration binds its own key. -/
theorem lookup_apply {key : OperationKey}
    (made : OperationKey.make namespaceName operation = .ok key) (handlers : Handlers σ)
    (handler : Handler σ) :
    (handlers.apply ⟨namespaceName, operation, some handler⟩).lookup namespaceName operation =
      some handler := by
  have registered : handlers.register namespaceName operation (some handler) =
      .ok (handlers.bind key handler) := by
    rw [register, made]
  rw [apply, registered]
  exact lookup_of_register registered

/-- A registration without a handler changes nothing, and one with a handler only its own key. -/
theorem lookup_apply_of_other (handlers : Handlers σ) {registration : Registration σ}
    (other : registration.namespaceName = namespaceName → registration.operation = operation →
      registration.handler = none) :
    (handlers.apply registration).lookup namespaceName operation =
      handlers.lookup namespaceName operation := by
  obtain ⟨first, second, handler⟩ := registration
  rw [apply]
  cases registered : handlers.register first second handler with
  | error fault => rfl
  | ok after =>
      cases handler with
      | none =>
          rw [register] at registered
          cases made : OperationKey.make first second with
          | error fault =>
              rw [made] at registered
              cases registered
          | ok key =>
              simp only [made, Except.ok.injEq] at registered
              rw [← registered]
      | some handler =>
          apply lookup_of_register_of_ne registered
          rintro ⟨rfl, rfl⟩
          cases other rfl rfl

/-- The last registration that has an effect on a key decides what is found under it. -/
theorem lookup_ofHistory {key : OperationKey}
    (made : OperationKey.make namespaceName operation = .ok key)
    (before later : List (Registration σ)) (handler : Handler σ)
    (last : ∀ registration ∈ later, registration.namespaceName = namespaceName →
      registration.operation = operation → registration.handler = none) :
    (ofHistory (before ++ ⟨namespaceName, operation, some handler⟩ :: later)).lookup
      namespaceName operation = some handler := by
  rw [ofHistory, List.foldl_append, List.foldl_cons]
  generalize before.foldl apply empty = handlers
  have start := lookup_apply made handlers handler
  generalize handlers.apply ⟨namespaceName, operation, some handler⟩ = table at start ⊢
  induction later generalizing table with
  | nil => exact start
  | cons registration later inductionHypothesis =>
      obtain ⟨here, others⟩ := List.forall_mem_cons.1 last
      rw [List.foldl_cons]
      apply inductionHypothesis others
      rw [lookup_apply_of_other table here, start]

end Handlers

/-- The operation notes every value that it is called on. -/
def Operation.logged (run : Operation σ) : Operation (σ × List Datum) := fun value state =>
  let (outcome, after) := run value state.1
  (outcome, (after, state.2 ++ [value]))

/--
A typed call ends in one of these ways. It leaves a state and a log of the values that the operation
was called on.
-/
inductive TypedCall (codec : Codec) (run : Operation σ) (value : Datum) (state : σ) :
    Except Error Datum → σ → List Datum → Prop where
  | unsent {reason : String} (unencodable : codec.encode value = .error (.encode reason)) :
    TypedCall codec run value state (.error (.encode reason)) state []
  | failed {payload : Bytes} {reason : String} {after : σ}
    (encoded : codec.encode value = .ok payload)
    (ran : run value state = (.returned (.error reason), after)) :
    TypedCall codec run value state (.error (.handler reason)) after [value]
  | unanswered {payload : Bytes} {result : Datum} {reason : String} {after : σ}
    (encoded : codec.encode value = .ok payload)
    (ran : run value state = (.returned (.ok result), after))
    (unencodable : codec.encode result = .error (.encode reason)) :
    TypedCall codec run value state (.error (.encode reason)) after [value]
  | answered {payload : Bytes} {result : Datum} {bytes : Bytes} {after : σ}
    (encoded : codec.encode value = .ok payload)
    (ran : run value state = (.returned (.ok result), after))
    (replied : codec.encode result = .ok bytes) :
    TypedCall codec run value state (.ok result) after [value]

namespace Codec

/-- Nothing but an encoding error comes from encoding. -/
theorem exists_reason_of_encode {codec : Codec} {datum : Datum} {error : Error}
    (refused : codec.encode datum = .error error) : ∃ reason, error = .encode reason := by
  cases codec with
  | json =>
      rw [encode] at refused
      cases written : Json.write datum with
      | ok payload =>
          rw [written] at refused
          cases refused
      | error fault =>
          simp only [written, Except.error.injEq] at refused
          exact ⟨_, refused.symm⟩
  | messagePack => cases refused

/-- What a codec carries is decoded as it was encoded. -/
theorem decode_of_carries {codec : Codec} {shape : Shape} (regular : shape.isRegular) {datum : Datum}
    (held : shape.holds datum) (carried : codec.Carries datum) {payload : Bytes}
    (encoded : codec.encode datum = .ok payload) : codec.decode shape payload = .ok datum := by
  have decodes := decodes_of_encode carried encoded shape
  rw [Shape.interpret_of_holds regular held] at decodes
  exact decodes

end Codec

namespace TypedCall

variable {codec : Codec} {run : Operation σ} {value : Datum} {state : σ}

/-- A call ends if its operation does. -/
theorem exists_end (returns : ∃ answer after, run value state = (.returned answer, after)) :
    ∃ answer after log, TypedCall codec run value state answer after log := by
  obtain ⟨answer, after, ran⟩ := returns
  cases encoded : codec.encode value with
  | error error =>
      obtain ⟨reason, rfl⟩ := Codec.exists_reason_of_encode encoded
      exact ⟨_, _, _, .unsent encoded⟩
  | ok payload =>
      cases answer with
      | error reason => exact ⟨_, _, _, .failed encoded ran⟩
      | ok result =>
          cases replied : codec.encode result with
          | error error =>
              obtain ⟨reason, rfl⟩ := Codec.exists_reason_of_encode replied
              exact ⟨_, _, _, .unanswered encoded ran replied⟩
          | ok bytes => exact ⟨_, _, _, .answered encoded ran replied⟩

/-- The operation is called once or not at all. -/
theorem log_cases {answer : Except Error Datum} {after : σ} {log : List Datum}
    (call : TypedCall codec run value state answer after log) : log = [] ∨ log = [value] := by
  cases call with
  | unsent => exact .inl rfl
  | failed | unanswered | answered => exact .inr rfl

end TypedCall

section Local

variable {codec : Codec} {run : Operation σ} {value : Datum} {state : σ}
  {handlers : Handlers (σ × List Datum)} {namespaceName operation : String} {request : Shape}
  (found : handlers.lookup namespaceName operation =
    some (typedHandler codec request run.logged))
  (decoded : ∀ payload, codec.encode value = .ok payload →
    codec.decode request payload = .ok value) (calls : List Datum)
include found decoded

/-- The operation gets the value that was sent, and its answer is encoded. -/
theorem Invoker.send_localTo {payload : Bytes} (encoded : codec.encode value = .ok payload)
    {answer : Except String Datum} {after : σ} (ran : run value state = (.returned answer, after)) :
    (Invoker.localTo handlers codec).send namespaceName operation value (state, calls) =
      (.returned (Hop.reply codec answer), (after, calls ++ [value])) := by
  have logged : run.logged value (state, calls) = (.returned answer, (after, calls ++ [value])) := by
    rw [Operation.logged, ran]
  rw [Invoker.send, Invoker.localTo]
  simp only [encoded, Transport.localTo, found]
  exact Hop.typedHandler_run (decoded payload encoded) logged

/-- What comes back is the error that a call ends with, or the payload of its result. -/
theorem TypedCall.exists_sent {answer : Except Error Datum} {after : σ} {log : List Datum}
    (call : TypedCall codec run value state answer after log) :
    ∃ sent, (Invoker.localTo handlers codec).send namespaceName operation value (state, calls) =
        (.returned sent, (after, calls ++ log)) ∧
      ((∃ error, sent = .error error ∧ answer = .error error) ∨
        ∃ result bytes, sent = .ok bytes ∧ answer = .ok result ∧
          codec.encode result = .ok bytes) := by
  cases call with
  | @unsent reason unencodable =>
      refine ⟨.error (.encode reason), ?_, .inl ⟨_, rfl, rfl⟩⟩
      rw [Invoker.send, Invoker.localTo, List.append_nil]
      simp only [unencodable]
      rfl
  | failed encoded ran =>
      exact ⟨_, Invoker.send_localTo found decoded calls encoded ran, .inl ⟨_, rfl, rfl⟩⟩
  | unanswered encoded ran unencodable =>
      exact ⟨_, Invoker.send_localTo found decoded calls encoded ran,
        .inl ⟨_, unencodable, rfl⟩⟩
  | answered encoded ran replied =>
      exact ⟨_, Invoker.send_localTo found decoded calls encoded ran,
        .inr ⟨_, _, replied, rfl, replied⟩⟩

/-- A call returns what it ends with, if its result is decoded as it was encoded. -/
theorem TypedCall.invokeWithReturn_eq {answer : Except Error Datum} {after : σ} {log : List Datum}
    (call : TypedCall codec run value state answer after log) {response : Shape}
    (returned : ∀ result, answer = .ok result → ∀ bytes, codec.encode result = .ok bytes →
      codec.decode response bytes = .ok result) :
    (Invoker.localTo handlers codec).invokeWithReturn namespaceName operation value response
      (state, calls) = (.returned answer, (after, calls ++ log)) := by
  obtain ⟨sent, ran, ⟨error, rfl, rfl⟩ | ⟨result, bytes, rfl, rfl, replied⟩⟩ :=
    call.exists_sent found decoded calls
  · rw [Invoker.invokeWithReturn, Action.bind_of_returned ran]
    rfl
  · rw [Invoker.invokeWithReturn, Action.bind_of_returned ran]
    show (Outcome.returned (codec.decode response bytes), _) = _
    rw [returned result rfl bytes replied]

/-- A call whose result is not read ends alike, but for the result. -/
theorem TypedCall.invoke_eq {answer : Except Error Datum} {after : σ} {log : List Datum}
    (call : TypedCall codec run value state answer after log) :
    (Invoker.localTo handlers codec).invoke namespaceName operation value (state, calls) =
      (.returned (answer.map fun _ => ()), (after, calls ++ log)) := by
  obtain ⟨sent, ran, ⟨error, rfl, rfl⟩ | ⟨result, bytes, rfl, rfl, _⟩⟩ :=
    call.exists_sent found decoded calls <;>
  · rw [Invoker.invoke, Action.bind_of_returned ran]
    rfl

end Local

/--
A typed call in the same process is transparent, whatever was registered before and beside its
operation: it ends like the operation on the value that was sent, and only a value or a result that
cannot be encoded ends it otherwise.
-/
theorem typed_call_transparent {codec : Codec} {request response : Shape}
    (coveredRequest : request ∈ Catalogue.shapes) (coveredResponse : response ∈ Catalogue.shapes)
    {run : Operation σ}
    (returns : ∀ value state, request.holds value →
      ∃ answer after, run value state = (.returned answer, after))
    (results : ∀ value state result after, request.holds value →
      run value state = (.returned (.ok result), after) →
        response.holds result ∧ codec.Carries result)
    {namespaceName operation : String} {key : OperationKey}
    (valid : OperationKey.make namespaceName operation = .ok key)
    (before : List (Registration (σ × List Datum)))
    {later : List (Registration (σ × List Datum))}
    (last : ∀ registration ∈ later, registration.namespaceName = namespaceName →
      registration.operation = operation → registration.handler = none)
    {value : Datum} (held : request.holds value) (carried : codec.Carries value) (state : σ)
    (calls : List Datum) :
    (∃ answer after log, TypedCall codec run value state answer after log) ∧
    ∀ answer after log, TypedCall codec run value state answer after log →
      (log = [] ∨ log = [value]) ∧
      (Invoker.localTo (Handlers.ofHistory (before ++
          ⟨namespaceName, operation, some (typedHandler codec request run.logged)⟩ :: later))
          codec).invokeWithReturn namespaceName operation value response (state, calls) =
        (.returned answer, (after, calls ++ log)) ∧
      (Invoker.localTo (Handlers.ofHistory (before ++
          ⟨namespaceName, operation, some (typedHandler codec request run.logged)⟩ :: later))
          codec).invoke namespaceName operation value (state, calls) =
        (.returned (answer.map fun _ => ()), (after, calls ++ log)) := by
  have found := Handlers.lookup_ofHistory valid before later
    (typedHandler codec request run.logged) last
  have decoded (payload : Bytes) (encoded : codec.encode value = .ok payload) :
      codec.decode request payload = .ok value :=
    Codec.decode_of_carries (Catalogue.isRegular_of_mem coveredRequest) held carried encoded
  refine ⟨TypedCall.exists_end (returns value state held), fun answer after log call => ?_⟩
  refine ⟨call.log_cases, call.invokeWithReturn_eq found decoded calls ?_,
    call.invoke_eq found decoded calls⟩
  rintro result rfl bytes replied
  have ran : run value state = (.returned (.ok result), after) := by
    cases call with
    | answered _ ran _ => exact ran
  obtain ⟨inResponse, carriedResult⟩ := results value state result after held ran
  exact Codec.decode_of_carries (Catalogue.isRegular_of_mem coveredResponse) inResponse
    carriedResult replied

/-- Everyone is greeted alike, and the state counts how often. -/
def greetAll : Operation Nat := fun _ count =>
  (.returned (.ok (.object [("text", .text "hello")])), count + 1)

/-- An older handler is replaced, and neither an absent one nor a text without a key matters. -/
theorem typed_call_transparent_greeting :
    (Invoker.localTo (Handlers.ofHistory [⟨"ns", "greet", some fun _ => Action.panicked⟩,
        ⟨"ns", "greet", some (typedHandler .messagePack Catalogue.greet greetAll.logged)⟩,
        ⟨"ns", "greet", none⟩, ⟨"", "greet", some fun _ => Action.never⟩])
        .messagePack).invokeWithReturn "ns" "greet" (.object [("name", .text "Ada")])
        Catalogue.greeting (7, []) =
      (.returned (.ok (.object [("text", .text "hello")])),
        (8, [.object [("name", .text "Ada")]])) := by
  have results (value : Datum) (count : Nat) (result : Datum) (after : Nat)
      (_ : Catalogue.greet.holds value)
      (ran : greetAll value count = (.returned (.ok result), after)) :
      Catalogue.greeting.holds result ∧ Codec.messagePack.Carries result := by
    cases ran
    exact ⟨by decide, ⟨by decide, by decide⟩, by decide⟩
  have valid : OperationKey.make "ns" "greet" =
      .ok ⟨"ns", "greet", by decide, by decide, by decide⟩ := rfl
  have last : ∀ registration ∈ [(⟨"ns", "greet", none⟩ : Registration (Nat × List Datum)),
      ⟨"", "greet", some fun _ => Action.never⟩], registration.namespaceName = "ns" →
      registration.operation = "greet" → registration.handler = none := by
    simp
  have carried : Codec.messagePack.Carries (.object [("name", .text "Ada")]) :=
    ⟨⟨by decide, by decide⟩, by decide⟩
  obtain ⟨_, ends⟩ := typed_call_transparent (by decide) (by decide) (fun _ _ _ => ⟨_, _, rfl⟩)
    results valid [⟨"ns", "greet", some fun _ => Action.panicked⟩] last (by decide) carried 7 []
  exact (ends _ _ _ (.answered rfl rfl rfl)).2.1

end Switchboard
