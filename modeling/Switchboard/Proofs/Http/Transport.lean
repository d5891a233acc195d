import Switchboard.Http.Link
import Switchboard.Proofs.Http.Address
import Switchboard.Proofs.Http.Dispatch

/-
This file shows that a handler answers a caller over HTTP as it answers a caller in the same
process, up to the words of its failures.
-/

namespace Switchboard.Http

section Router

variable {σ : Type} {router : Router σ}

/-- Behind the prefix a request is routed by the key it was written for. -/
theorem handlerFor?_path (key : OperationKey) :
    router.handlerFor? (String.ofList (router.pathPrefix.toList ++ key.path.toList)) =
      router.handlers.get? key := by
  have named : router.keyFor? (String.ofList (router.pathPrefix.toList ++ key.path.toList)) =
      some key := by
    rw [keyFor?_append, String.ofList_toList, OperationKey.ofPath?_path]
  rw [Router.handlerFor?, named]

theorem collect_ofBytes {payload : Bytes} {limit : Nat} (fits : payload.length ≤ limit) :
    (Body.ofBytes payload).collect limit = .whole payload := by
  have whole := Body.received_ofBytes payload
  exact Body.collect_eq_whole.2 ⟨whole.symm ▸ fits, rfl, whole⟩

/-- A listener answers with one of these responses when a handler was called. -/
def Router.response (router : Router σ) : Outcome (Except Error Bytes) → Response
  | .returned (.ok payload) => ⟨200, router.contentType, payload⟩
  | .returned (.error error) => .plain 500 error.message
  | .panicked => .handlerPanicked
  | .pending => .handlerTimedOut

/-- A handler that comes to an end is answered for, in the state that it leaves. -/
theorem serve_of_whole {body : Body} {payload : Bytes}
    (whole : body.collect router.maxBodySize = .whole payload) {handler : Handler σ}
    {state after : σ} {outcome : Outcome (Except Error Bytes)}
    (ran : handler payload state = (outcome, after)) (ended : outcome ≠ .pending) :
    router.serve handler body state = (.returned (router.response outcome), after) := by
  rw [Router.serve_run whole, ran]
  match outcome with
  | .returned (.ok reply) => rfl
  | .returned (.error error) => rfl
  | .panicked => rfl
  | .pending => exact absurd rfl ended

/-- A handler behind a path answers a payload that the listener allows. -/
theorem dispatch_of_handler {path : String} {handler : Handler σ}
    (found : router.handlerFor? path = some handler) {payload : Bytes}
    (fits : payload.length ≤ router.maxBodySize) {state after : σ}
    {outcome : Outcome (Except Error Bytes)} (ran : handler payload state = (outcome, after))
    (ended : outcome ≠ .pending) :
    router.dispatch ⟨"POST", path, .ofBytes payload⟩ state =
      (.returned (router.response outcome), after) := by
  rw [Router.dispatch, if_pos rfl, found]
  exact serve_of_whole (collect_ofBytes fits) ran ended

theorem dispatch_of_none {path : String} (missing : router.handlerFor? path = none) (body : Body)
    (state : σ) :
    router.dispatch ⟨"POST", path, body⟩ state = (.returned .notFound, state) := by
  rw [Router.dispatch, if_pos rfl, missing]
  rfl

end Router

section Preview

/-- A short text is kept whole for the report of a refusal. -/
theorem preview_encode {text : String} (short : (Text.Utf8.encode text).length ≤ previewLimit) :
    preview (Text.Utf8.encode text) = text := by
  rw [preview, List.take_of_length_le short, Text.Utf8.decodeLenient_encode]

theorem readResponse_plain {statusCode : Nat} {message : String} (refused : 300 ≤ statusCode) :
    Client.readResponse (.plain statusCode message) =
      .error (.status statusCode (preview (Text.Utf8.encode message))) := by
  have noSuccess : ¬ (200 ≤ statusCode ∧ statusCode < 300) := by omega
  rw [Client.readResponse, Response.plain, if_neg noSuccess]

/-- A caller over HTTP gets this where a caller in the same process gets the outcome itself. -/
def carried : Outcome (Except Error Bytes) → Outcome (Except Error Bytes)
  | .returned (.ok reply) => .returned (.ok reply)
  | .returned (.error error) =>
    .returned (.error (.transport (.status 500 (preview (Text.Utf8.encode error.message)))))
  | .panicked => .returned (.error (.transport (.status 500 "Handler panicked")))
  | .pending => .pending

/-- The client reads every response of a handler as what is carried over HTTP. -/
theorem readResponse_response {σ : Type} (router : Router σ)
    {outcome : Outcome (Except Error Bytes)} (ended : outcome ≠ .pending) :
    .returned ((Client.readResponse (router.response outcome)).mapError Error.transport) =
      carried outcome := by
  match outcome with
  | .returned (.ok reply) => rfl
  | .returned (.error error) =>
      rw [Router.response, readResponse_plain (by decide)]
      rfl
  | .panicked =>
      have whole : preview (Text.Utf8.encode "Handler panicked") = "Handler panicked" :=
        preview_encode (by decide)
      rw [Router.response, Response.handlerPanicked, readResponse_plain (by decide), whole]
      rfl
  | .pending => exact absurd rfl ended

end Preview

section Client

variable {σ : Type} {router : Router σ} {client : Client} {namespaceName operation : String}

/-- An answer that the network delivers is read by the client that it was meant for. -/
theorem transport_of_answered {uri : Uri}
    (addressed : Uri.ofOperation client.base namespaceName operation = .ok uri)
    {network : Network σ} {payload : Bytes} {state after : σ} {response : Response}
    (delivered : network ⟨uri, client.contentType, payload⟩ state =
      (.returned (.answered response), after)) :
    client.transport network namespaceName operation payload state =
      (.returned ((Client.readResponse response).mapError Error.transport), after) := by
  rw [Client.transport, addressed]
  simp only
  rw [Action.bind_of_returned delivered]
  rfl

/-- The listener reads the path from the request line that the client writes. -/
theorem receive_target {uri : Uri}
    (addressed : Uri.ofOperation client.base namespaceName operation = .ok uri) {body : Body}
    {state after : σ} {response : Response}
    (answered : router.dispatch ⟨"POST", String.ofList uri.path, body⟩ state =
      (.returned response, after)) :
    router.receive "POST" (String.ofList uri.target) body state = (.returned response, after) := by
  obtain ⟨key, _, formed⟩ := exists_key_of_ofOperation addressed
  rw [Router.receive, String.toList_ofList, readTarget_target formed]
  simp only
  rw [Action.bind_of_returned answered, if_neg (by decide)]
  rfl

/-- What a listener answers is what the client reads. -/
theorem transport_of_dispatch {uri : Uri}
    (addressed : Uri.ofOperation client.base namespaceName operation = .ok uri) {payload : Bytes}
    {state after : σ} {response : Response}
    (answered : router.dispatch ⟨"POST", String.ofList uri.path, .ofBytes payload⟩ state =
      (.returned response, after)) :
    client.transport (Network.to router) namespaceName operation payload state =
      (.returned ((Client.readResponse response).mapError Error.transport), after) := by
  apply transport_of_answered addressed
  rw [Network.to, Action.bind_of_returned (Action.observe_run (receive_target addressed answered))]
  rfl

/-- A client reaches a listener under the prefix that its base address ends with. -/
structure Reaches (client : Client) (router : Router σ) : Prop where
  samePath : client.base.path = router.pathPrefix.toList
  noQuery : '?' ∉ client.base.path
  noFragment : '#' ∉ client.base.path

variable (reaches : Reaches client router) (allPath : IsAllPath namespaceName operation)
include reaches allPath

/-- The listener finds the handler that a caller in the same process would call. -/
theorem handlerFor?_of_reaches {uri : Uri}
    (addressed : Uri.ofOperation client.base namespaceName operation = .ok uri) :
    router.handlerFor? (String.ofList uri.path) =
      router.handlers.lookup namespaceName operation := by
  obtain ⟨key, made, formed⟩ := exists_key_of_ofOperation addressed
  obtain ⟨sameNamespace, sameOperation⟩ := OperationKey.make_eq_ok.1 made
  have free : ∀ character ∈ client.base.path, Url.isMark character = false := by
    intro character member
    refine isMark_eq_false_iff.2 ⟨?_, ?_⟩
    · exact fun same => reaches.noQuery (same ▸ member)
    · exact fun same => reaches.noFragment (same ▸ member)
  have whole : beforeMark key.path.toList = key.path.toList := by
    rw [beforeMark_path_iff, sameNamespace, sameOperation]
    exact allPath
  rw [path_of_ofKey formed, beforeMark_append free, whole, reaches.samePath, handlerFor?_path,
    Handlers.lookup, OperationKey.make?, made]
  rfl

/-- A handler that comes to an end answers over HTTP, in the state that it leaves. -/
theorem transport_of_handler {uri : Uri}
    (addressed : Uri.ofOperation client.base namespaceName operation = .ok uri)
    {handler : Handler σ} (found : router.handlers.lookup namespaceName operation = some handler)
    {payload : Bytes} (fits : payload.length ≤ router.maxBodySize) {state after : σ}
    {outcome : Outcome (Except Error Bytes)} (ran : handler payload state = (outcome, after))
    (ended : outcome ≠ .pending) :
    client.transport (Network.to router) namespaceName operation payload state =
      (carried outcome, after) := by
  rw [← handlerFor?_of_reaches reaches allPath addressed] at found
  rw [transport_of_dispatch addressed (dispatch_of_handler found fits ran ended),
    readResponse_response router ended]

/-- A payload that the listener does not allow reaches no handler. -/
theorem transport_of_tooLarge {uri : Uri}
    (addressed : Uri.ofOperation client.base namespaceName operation = .ok uri)
    {handler : Handler σ} (found : router.handlers.lookup namespaceName operation = some handler)
    {payload : Bytes} (large : router.maxBodySize < payload.length) (state : σ) :
    ∃ error, client.transport (Network.to router) namespaceName operation payload state =
      (.returned (.error error), state) := by
  have collected : (Body.ofBytes payload).collect router.maxBodySize = .tooLarge := by
    rw [Body.collect_eq, Body.received_ofBytes, if_pos large]
  rw [← handlerFor?_of_reaches reaches allPath addressed] at found
  have answered : router.dispatch ⟨"POST", String.ofList uri.path, .ofBytes payload⟩ state =
      (.returned (.bodyTooLarge router.maxBodySize), state) := by
    rw [Router.dispatch, if_pos rfl, found]
    simp only [Router.serve, collected]
    rfl
  rw [transport_of_dispatch addressed answered, Response.bodyTooLarge,
    readResponse_plain (by decide)]
  exact ⟨_, rfl⟩

/-- Without a handler the state stays as it is. -/
theorem transport_of_none {uri : Uri}
    (addressed : Uri.ofOperation client.base namespaceName operation = .ok uri)
    (missing : router.handlers.lookup namespaceName operation = none) (payload : Bytes)
    (state : σ) :
    client.transport (Network.to router) namespaceName operation payload state =
      (.returned (.error (.transport (.status 404 "Not Found"))), state) := by
  have whole : preview (Text.Utf8.encode "Not Found") = "Not Found" := preview_encode (by decide)
  rw [← handlerFor?_of_reaches reaches allPath addressed] at missing
  rw [transport_of_dispatch addressed (dispatch_of_none missing _ state), Response.notFound,
    readResponse_plain (by decide), whole]
  rfl

end Client

end Switchboard.Http
