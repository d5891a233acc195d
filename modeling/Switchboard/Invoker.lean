import Switchboard.Handlers

/-
This file calls operations through a transport, on values instead of payloads.
-/

namespace Switchboard

/-- A transport carries a payload to an operation and brings the answer back. -/
abbrev Transport (σ : Type) : Type := String → String → Bytes → Action σ (Except Error Bytes)

/-- The local transport calls the handlers of a table in the same process. -/
def Transport.localTo {σ : Type} (handlers : Handlers σ) : Transport σ :=
  fun namespaceName operation payload =>
    match handlers.lookup namespaceName operation with
    | none => pure (.error (.routing namespaceName operation))
    | some handler => handler payload

/-- An invoker encodes arguments and decodes results; it never repeats a call. -/
structure Invoker (σ : Type) where
  transport : Transport σ
  codec : Codec

namespace Invoker

variable {σ : Type}

def localTo (handlers : Handlers σ) (codec : Codec) : Invoker σ :=
  ⟨Transport.localTo handlers, codec⟩

/-- A value that cannot be encoded is not sent. -/
def send (invoker : Invoker σ) (namespaceName operation : String) (value : Datum) :
    Action σ (Except Error Bytes) :=
  match invoker.codec.encode value with
  | .error error => pure (.error error)
  | .ok payload => invoker.transport namespaceName operation payload

/-- The content of the answer is ignored. -/
def invoke (invoker : Invoker σ) (namespaceName operation : String) (value : Datum) :
    Action σ (Except Error Unit) := do
  match ← invoker.send namespaceName operation value with
  | .error error => pure (.error error)
  | .ok _ => pure (.ok ())

def invokeWithReturn (invoker : Invoker σ) (namespaceName operation : String) (value : Datum)
    (result : Shape) : Action σ (Except Error Datum) := do
  match ← invoker.send namespaceName operation value with
  | .error error => pure (.error error)
  | .ok answer => pure (invoker.codec.decode result answer)

end Invoker

/-- The transport of an invoker is shown by its table only. -/
def Transport.localDebugText {σ : Type} (handlers : Handlers σ) : String :=
  "LocalTransport \x7b handlers: " ++ handlers.debugText ++ " \x7d"

def Invoker.debugText : String := "Invoker \x7b .. \x7d"

end Switchboard
