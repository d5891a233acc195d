import Switchboard.Config
import Switchboard.Handlers
import Switchboard.Http.Body
import Switchboard.Http.Response
import Switchboard.Http.Uri

/-
This file routes requests to the handlers of a table and answers every one of them.
-/

namespace Switchboard.Http

/-- The path of a request is the text that its sender wrote, undecoded. -/
structure Request where
  method : String
  path : String
  body : Body
  deriving DecidableEq, Repr

/-- A router serves the operations of a table under one path prefix and bounds each request. -/
structure Router (σ : Type) where
  handlers : Handlers σ
  pathPrefix : String := ""
  requestTimeout : Option Duration := none
  maxBodySize : Nat := 104857600
  contentType : Option String := none

/-- This function takes a prefix off a text that starts with it. -/
def stripPrefix? : List Char → List Char → Option (List Char)
  | [], text => some text
  | _ :: _, [] => none
  | first :: rest, character :: text => if first = character then stripPrefix? rest text else none

namespace Router

variable {σ : Type}

/-- The settings of a process leave the media type of its answers open. -/
def ofConfig (config : Config) (handlers : Handlers σ) : Router σ :=
  { handlers := handlers
    pathPrefix := config.listen.pathPrefix
    requestTimeout := config.listen.requestTimeout
    maxBodySize := config.listen.maxBodySize }

/-- A path names a key behind the prefix. -/
def keyFor? (router : Router σ) (path : String) : Option OperationKey :=
  match stripPrefix? router.pathPrefix.toList path.toList with
  | none => none
  | some rest => OperationKey.ofPath? (String.ofList rest)

def handlerFor? (router : Router σ) (path : String) : Option (Handler σ) :=
  match router.keyFor? path with
  | none => none
  | some key => router.handlers.get? key

/-- A handler that does not finish is given up at the deadline, if there is one. -/
def answer (router : Router σ) : Outcome (Except Error Bytes) → Action σ Response
  | .returned (.ok payload) => pure ⟨200, router.contentType, payload⟩
  | .returned (.error error) => pure (.plain 500 error.message)
  | .panicked => pure .handlerPanicked
  | .pending =>
    match router.requestTimeout with
    | some _ => pure .handlerTimedOut
    | none => Action.never

/-- The body is collected before the handler runs. -/
def serve (router : Router σ) (handler : Handler σ) (body : Body) : Action σ Response :=
  match body.collect router.maxBodySize with
  | .tooLarge => pure (.bodyTooLarge router.maxBodySize)
  | .brokenOff => pure .bodyBrokenOff
  | .stalled =>
    match router.requestTimeout with
    | some _ => pure .requestTimedOut
    | none => Action.never
  | .whole payload => do
    let outcome ← (handler payload).observe
    router.answer outcome

/-- The method is looked at first, then the path, then the body. -/
def dispatch (router : Router σ) (request : Request) : Action σ Response :=
  if request.method = "POST" then
    match router.handlerFor? request.path with
    | none => pure .notFound
    | some handler => router.serve handler request.body
  else pure .methodNotAllowed

/-- A request as it stands on the wire names its target, and an answer to `HEAD` has no body. -/
def receive (router : Router σ) (method target : String) (body : Body) : Action σ Response :=
  match readTarget target.toList with
  | none => pure .badRequest
  | some uri => do
    let response ← router.dispatch ⟨method, String.ofList uri.path, body⟩
    pure (if method = "HEAD" then { response with body := [] } else response)

end Router

end Switchboard.Http
