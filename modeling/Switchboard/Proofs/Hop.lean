import Switchboard.Proofs.Datum
import Switchboard.Proofs.Handlers
import Switchboard.Proofs.Http.Transport
import Switchboard.Proofs.Url.Base

/-
This file follows a typed call over one hop to the operation that answers it, and the answer back.
-/

namespace Switchboard

/-- A hop ends at the handlers of an adapter, in the same process or over HTTP. -/
inductive Hop where
  | inProcess
  | http (client : Http.Client)

namespace Hop

variable {σ : Type} (hop : Hop) (adapter : Adapter σ)

def transport : Transport σ :=
  match hop with
  | .inProcess => Transport.localTo adapter.handlers
  | .http client => client.transport (Http.Network.to adapter.router)

/-- Both ends of a hop use the same codec. -/
def invoker : Invoker σ := ⟨hop.transport adapter, adapter.codec⟩

/--
Over HTTP the base path of the client is the prefix of the listener, and a request goes onto the
network only if its address can be formed.
-/
def Delivers (namespaceName operation : String) : Prop :=
  match hop with
  | .inProcess => True
  | .http client =>
    (∃ options : Http.ClientOptions, options.build = .ok client) ∧
      client.base.path = adapter.config.listen.pathPrefix.toList ∧
      ∃ uri, Http.Uri.ofOperation client.base namespaceName operation = .ok uri

/-- Over HTTP a request is no longer than the listener allows. -/
def Accepts (payload : Bytes) : Prop :=
  match hop with
  | .inProcess => True
  | .http _ => payload.length ≤ adapter.config.listen.maxBodySize

/-- A value goes over a hop when none of its texts is too long and its payload is allowed. -/
structure Carries (value : Datum) : Prop where
  short : value.isShort
  accepted : ∀ payload, adapter.codec.encode value = .ok payload → hop.Accepts adapter payload

/-- An error keeps its kind within a process only; over HTTP its words are left of it. -/
def carriedError (error : Error) : Error :=
  match hop with
  | .inProcess => error
  | .http _ => .transport (.status 500 (Http.preview (Text.Utf8.encode error.message)))

/-- These words come before those of an error on the other end of a hop. -/
def words : String :=
  match hop with
  | .inProcess => ""
  | .http _ => "Transport error: remote answered HTTP 500: "

/-- The typed handler answers with a payload or with the words of a failure. -/
def reply (codec : Codec) : Except String Datum → Except Error Bytes
  | .error reason => .error (.handler reason)
  | .ok result => codec.encode result

/-- An operation is at the other end of a hop when the adapter exposes it there. -/
structure Connects (namespaceName operation : String) (request : Shape) (run : Operation σ) :
    Prop where
  delivers : hop.Delivers adapter namespaceName operation
  allPath : Http.IsAllPath namespaceName operation
  exposed : adapter.handlers.lookup namespaceName operation =
    some (typedHandler adapter.codec request run)

variable {hop adapter} {namespaceName operation : String} {request : Shape} {run : Operation σ}

theorem message_handler (reason : String) :
    (Error.handler reason).message = "Handler failed: " ++ reason := by
  change "Handler failed: " ++ toString reason = _
  rfl

theorem message_status (preview : String) :
    (Error.transport (.status 500 preview)).message =
      "Transport error: remote answered HTTP 500: " ++ preview := by
  have words : "Transport error: " ++ ("remote answered HTTP " ++ toString 500 ++ ": ") =
      "Transport error: remote answered HTTP 500: " := by decide
  rw [← words, String.append_assoc]
  rfl

theorem length_encode_words_le (hop : Hop) : (Text.Utf8.encode hop.words).length ≤ 43 := by
  cases hop with
  | inProcess => exact (by decide : (Text.Utf8.encode "").length ≤ 43)
  | http client =>
      exact (by decide :
        (Text.Utf8.encode "Transport error: remote answered HTTP 500: ").length ≤ 43)

/-- All words of an error arrive if the client keeps that many for its report. -/
theorem message_carriedError {error : Error}
    (short : (Text.Utf8.encode error.message).length ≤ Http.previewLimit) :
    (hop.carriedError error).message = hop.words ++ error.message := by
  cases hop with
  | inProcess => exact String.empty_append.symm
  | http client => rw [carriedError, Http.preview_encode short, message_status, words]

/-- The base path of a client that was built has no mark that would end it. -/
theorem reaches_of_build {client : Http.Client} {options : Http.ClientOptions}
    (built : options.build = .ok client)
    (samePath : client.base.path = adapter.config.listen.pathPrefix.toList) :
    Http.Reaches client adapter.router := by
  have resolved : ∃ raw, BaseUrl.resolve raw = .ok client.base := by
    rw [Http.ClientOptions.build] at built
    split at built
    · cases built
    · next raw _ =>
        split at built
        · cases built
        · next base read =>
            rw [Except.ok.injEq] at built
            rw [← built]
            exact ⟨raw, read⟩
  obtain ⟨raw, read⟩ := resolved
  refine ⟨samePath, ?_, ?_⟩
  · intro member
    exact absurd (BaseUrl.isMark_of_mem_path read member) (by decide)
  · intro member
    exact absurd (BaseUrl.isMark_of_mem_path read member) (by decide)

theorem typedHandler_run {codec : Codec} {payload : Bytes} {value : Datum}
    (decoded : codec.decode request payload = .ok value) {state after : σ}
    {answer : Except String Datum} (ran : run value state = (.returned answer, after)) :
    typedHandler codec request run payload state = (.returned (reply codec answer), after) := by
  rw [typedHandler, decoded]
  simp only
  rw [Action.bind_of_returned ran]
  cases answer <;> rfl

/-- What a handler returns arrives over the hop, in the state that the handler leaves. -/
theorem Connects.transport_run (connects : Connects hop adapter namespaceName operation request run)
    {payload : Bytes} (accepts : hop.Accepts adapter payload) {state after : σ}
    {result : Except Error Bytes}
    (ran : typedHandler adapter.codec request run payload state = (.returned result, after)) :
    hop.transport adapter namespaceName operation payload state =
      (.returned (result.mapError hop.carriedError), after) := by
  cases hop with
  | inProcess =>
      rw [transport, Transport.localTo, connects.exposed]
      simp only [ran]
      cases result <;> rfl
  | http client =>
      obtain ⟨⟨options, built⟩, samePath, uri, addressed⟩ := connects.delivers
      have reaches : Http.Reaches client adapter.router := reaches_of_build built samePath
      have carried := Http.transport_of_handler reaches connects.allPath addressed connects.exposed
        accepts ran nofun
      rw [transport, carried]
      cases result <;> rfl

/-- A request that cannot be decoded is refused before the operation runs. -/
theorem Connects.transport_refused
    (connects : Connects hop adapter namespaceName operation request run) {payload : Bytes}
    {error : Error} (refused : adapter.codec.decode request payload = .error error) (state : σ) :
    ∃ carried, hop.transport adapter namespaceName operation payload state =
        (.returned (.error carried), state) ∧
      (hop.Accepts adapter payload → carried = hop.carriedError error) := by
  have ran : typedHandler adapter.codec request run payload state =
      (.returned (.error error), state) := by
    rw [typedHandler, refused]
    rfl
  by_cases accepts : hop.Accepts adapter payload
  · exact ⟨hop.carriedError error, connects.transport_run accepts ran, fun _ => rfl⟩
  cases hop with
  | inProcess => exact absurd trivial accepts
  | http client =>
      obtain ⟨⟨options, built⟩, samePath, uri, addressed⟩ := connects.delivers
      have reaches : Http.Reaches client adapter.router := reaches_of_build built samePath
      obtain ⟨carried, stopped⟩ := Http.transport_of_tooLarge reaches connects.allPath addressed
        connects.exposed (Nat.lt_of_not_le accepts) state
      exact ⟨carried, stopped, fun accepted => absurd accepted accepts⟩

/-- An operation answers the value that was sent to it. -/
theorem Connects.send_run (connects : Connects hop adapter namespaceName operation request run)
    {value : Datum} {payload : Bytes} (encoded : adapter.codec.encode value = .ok payload)
    (decoded : adapter.codec.decode request payload = .ok value)
    (accepts : hop.Accepts adapter payload) {state after : σ} {answer : Except String Datum}
    (ran : run value state = (.returned answer, after)) :
    (hop.invoker adapter).send namespaceName operation value state =
      (.returned ((reply adapter.codec answer).mapError hop.carriedError), after) := by
  rw [Invoker.send, invoker]
  simp only [encoded]
  exact connects.transport_run accepts (typedHandler_run decoded ran)

section Calls

variable (connects : Connects hop adapter namespaceName operation request run) {value : Datum}
  {payload : Bytes} (encoded : adapter.codec.encode value = .ok payload)
  (decoded : adapter.codec.decode request payload = .ok value)
  (accepts : hop.Accepts adapter payload) {state after : σ}
include connects encoded decoded accepts

/-- A result is only awaited, because nothing is read of it. -/
theorem Connects.invoke_ok {result : Datum}
    (ran : run value state = (.returned (.ok result), after))
    (encodable : ∃ bytes, adapter.codec.encode result = .ok bytes) :
    (hop.invoker adapter).invoke namespaceName operation value state =
      (.returned (.ok ()), after) := by
  obtain ⟨bytes, replied⟩ := encodable
  have sent := connects.send_run encoded decoded accepts ran
  rw [reply, replied] at sent
  rw [Invoker.invoke, Action.bind_of_returned sent]
  rfl

/-- A result comes back as the datum that it was on the other end. -/
theorem Connects.invokeWithReturn_ok {result : Datum}
    (ran : run value state = (.returned (.ok result), after)) {bytes : Bytes}
    (replied : adapter.codec.encode result = .ok bytes) {shape : Shape}
    (read : adapter.codec.decode shape bytes = .ok result) :
    (hop.invoker adapter).invokeWithReturn namespaceName operation value shape state =
      (.returned (.ok result), after) := by
  have sent := connects.send_run encoded decoded accepts ran
  rw [reply, replied] at sent
  rw [Invoker.invokeWithReturn, Action.bind_of_returned sent]
  show (Outcome.returned (adapter.codec.decode shape bytes), after) = _
  rw [read]

/-- The words of a failure come back over the hop. -/
theorem Connects.invokeWithReturn_error {reason : String}
    (ran : run value state = (.returned (.error reason), after)) (shape : Shape) :
    (hop.invoker adapter).invokeWithReturn namespaceName operation value shape state =
      (.returned (.error (hop.carriedError (.handler reason))), after) := by
  have sent := connects.send_run encoded decoded accepts ran
  rw [Invoker.invokeWithReturn, Action.bind_of_returned sent]
  rfl

end Calls

end Hop

end Switchboard
