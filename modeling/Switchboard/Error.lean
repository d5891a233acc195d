import Switchboard.Duration

/-
This file names what can go wrong between a caller and an operation, and words it for people.
-/

namespace Switchboard

/-- These failures happen on the wire between an invoker and a remote listener. -/
inductive TransportError where
  | connect (reason : String)
  | request (reason : String)
  | timeout (limit : Duration)
  | status (code : Nat) (preview : String)
  | body (reason : String)
  deriving DecidableEq, Repr

def TransportError.message : TransportError → String
  | .connect reason => s!"connection failed: {reason}"
  | .request reason => s!"request failed: {reason}"
  | .timeout limit => s!"timed out after {limit.text}"
  | .status code preview => s!"remote answered HTTP {code}: {preview}"
  | .body reason => s!"failed to read body: {reason}"

/--
An error names the layer that failed. The text inside is that layer's own account, because only
text survives the way back through a remote listener.
-/
inductive Error where
  | encode (reason : String)
  | decode (reason : String)
  | transport (cause : TransportError)
  | configuration (reason : String)
  | routing (namespaceName operation : String)
  | invalidKey (reason : String)
  | handler (reason : String)
  | bind (address cause : String)
  | io (cause : String)
  deriving DecidableEq, Repr

namespace Error

def message : Error → String
  | .encode reason => s!"Encode error: {reason}"
  | .decode reason => s!"Decode error: {reason}"
  | .transport cause => s!"Transport error: {cause.message}"
  | .configuration reason => s!"Configuration error: {reason}"
  | .routing namespaceName operation =>
    s!"No handler registered for {namespaceName}/{operation}"
  | .invalidKey reason => s!"Invalid operation key: {reason}"
  | .handler reason => s!"Handler failed: {reason}"
  | .bind address cause => s!"Failed to bind {address}: {cause}"
  | .io cause => s!"IO error: {cause}"

/-- The causes below an error are worded on their own; a wrapped text is no cause. -/
def causes : Error → List String
  | .transport cause => [cause.message]
  | .bind _ cause => [cause]
  | .io cause => [cause]
  | _ => []

/-- An error comes from the wire or else from the payload, the table or the configuration. -/
def isTransport : Error → Bool
  | .transport _ => true
  | _ => false

end Error

end Switchboard
