import Switchboard.Http.Router

/-
This file binds routers to addresses.
-/

namespace Switchboard.Http

/-- A machine refuses an address with a reason of its own. -/
abbrev Binder : Type := String → UInt16 → Option String

/-- A listener serves one router at the address that it was bound to. -/
structure Listener (σ : Type) where
  host : String
  port : UInt16
  router : Router σ

namespace Listener

variable {σ : Type}

def bind (binder : Binder) (host : String) (port : UInt16) (router : Router σ) :
    Except Error (Listener σ) :=
  match binder host port with
  | some cause => .error (.bind s!"{host}:{port}" cause)
  | none => .ok ⟨host, port, router⟩

end Listener

end Switchboard.Http
