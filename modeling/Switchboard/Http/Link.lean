import Switchboard.Http.Client
import Switchboard.Http.Router

/-
This file joins clients to routers, as a network does that delivers every request.
-/

namespace Switchboard.Http

/-- A listener that never answers leaves its caller waiting. -/
def Delivery.ofOutcome : Outcome Response → Delivery
  | .returned response => .answered response
  | .panicked => .closed
  | .pending => .silent

/-- Every request reaches the router whole, under the target that its client wrote. -/
def Network.to {σ : Type} (router : Router σ) : Network σ := fun outgoing => do
  let target := String.ofList outgoing.uri.target
  let outcome ← (router.receive "POST" target (.ofBytes outgoing.payload)).observe
  pure (.ofOutcome outcome)

end Switchboard.Http
