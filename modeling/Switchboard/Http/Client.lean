import Switchboard.Http.Response
import Switchboard.Http.Uri
import Switchboard.Invoker
import Switchboard.Config

/-
This file sends payloads to a remote listener and turns what comes back into answers and errors.
-/

namespace Switchboard.Http

/-- Every request is sent with the method `POST`. -/
structure Outgoing where
  uri : Uri
  contentType : Option String
  payload : Bytes
  deriving DecidableEq, Repr

/--
The network makes one of these of a request. A connection is accepted at once, refused, or never
accepted; on an accepted one the peer answers, cuts its answer short, closes without a readable
answer, or stays silent.
-/
inductive Delivery where
  | answered (response : Response)
  | cutShort
  | closed
  | silent
  | refused
  | neverAccepted
  deriving DecidableEq, Repr

/-- A network delivers requests, and the peer that it reaches may change the state. -/
abbrev Network (σ : Type) : Type := Outgoing → Action σ Delivery

/-- Where no route leads to a peer, every connection is refused. -/
def Network.unreachable {σ : Type} : Network σ := fun _ => pure .refused

/-- A client sends to one base address and gives up after its deadlines. -/
structure Client where
  base : BaseUrl
  contentType : Option String := none
  timeout : Option Duration := none
  connectTimeout : Option Duration := none
  deriving DecidableEq, Repr

/-- The base address of a client is read when the client is built. -/
structure ClientOptions where
  baseUrl : Option String := none
  contentType : Option String := none
  timeout : Option Duration := none
  connectTimeout : Option Duration := none
  deriving DecidableEq, Repr

def ClientOptions.ofConfig (remote : RemoteConfig) : ClientOptions :=
  { baseUrl := some remote.baseUrl
    timeout := remote.timeout
    connectTimeout := remote.connectTimeout }

def ClientOptions.build (options : ClientOptions) : Except Error Client :=
  match options.baseUrl with
  | none => .error BaseUrlFault.missing.toError
  | some raw =>
    match BaseUrl.resolve raw with
    | .error fault => .error fault.toError
    | .ok base => .ok ⟨base, options.contentType, options.timeout, options.connectTimeout⟩

/-- This many bytes of a refusal are kept for its report. -/
def previewLimit : Nat := 256

/-- A cut through a character leaves a replacement character. -/
def preview (body : Bytes) : String := Text.Utf8.decodeLenient (body.take previewLimit)

namespace Client

/-- An answer counts as a success by its status alone. -/
def readResponse (response : Response) : Except TransportError Bytes :=
  if 200 ≤ response.statusCode ∧ response.statusCode < 300 then .ok response.body
  else .error (.status response.statusCode (preview response.body))

/-- The deadline that passes first is reported, and without a deadline nothing comes back. -/
def expire : Option Duration → Outcome (Except TransportError Bytes)
  | some limit => .returned (.error (.timeout limit))
  | none => .pending

/-- A connection has to be made within both deadlines. -/
def connectLimit (client : Client) : Option Duration :=
  match client.connectTimeout, client.timeout with
  | some connect, some whole => some (connect.min whole)
  | some connect, none => some connect
  | none, whole => whole

def settle (client : Client) : Delivery → Outcome (Except TransportError Bytes)
  | .answered response => .returned (readResponse response)
  | .cutShort => .returned (.error (.body "error reading a body from connection"))
  | .closed => .returned (.error (.request "client error (SendRequest)"))
  | .silent => expire client.timeout
  | .refused => .returned (.error (.connect "client error (Connect)"))
  | .neverAccepted => expire client.connectLimit

/-- A key that forms no address is refused before anything is sent. -/
def transport {σ : Type} (client : Client) (network : Network σ) : Transport σ :=
  fun namespaceName operation payload =>
    match Uri.ofOperation client.base namespaceName operation with
    | .error error => pure (.error error)
    | .ok uri => do
      let delivery ← network ⟨uri, client.contentType, payload⟩
      let result ← Action.ofOutcome (client.settle delivery)
      pure (result.mapError Error.transport)

/-- A field without a value and a field with one are told apart. -/
def optionText {α : Type} (text : α → String) : Option α → String
  | none => "None"
  | some value => s!"Some({text value})"

def debugText (client : Client) : String :=
  "HttpTransport \x7b base: " ++ Text.quoted client.base.text ++
    ", content_type: " ++ optionText Text.quoted client.contentType ++
    ", timeout: " ++ optionText Duration.text client.timeout ++
    ", connect_timeout: " ++ optionText Duration.text client.connectTimeout ++ ", .. \x7d"

end Client

end Switchboard.Http
