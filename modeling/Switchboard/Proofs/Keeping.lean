import Switchboard.Http.Router
import Switchboard.Invoker
import Switchboard.Proofs.Action

/-
This file shows that an operation that keeps the state is also called without a change of the state,
whatever is sent to it.
-/

namespace Switchboard

variable {σ : Type} {namespaceName operation : String}

theorem keeps_typedHandler {run : Operation σ} (keeps : ∀ value, (run value).Keeps) (codec : Codec)
    (request : Shape) (payload : Bytes) : (typedHandler codec request run payload).Keeps := by
  rw [typedHandler]
  split
  · exact Action.keeps_pure _
  · next value _ =>
      refine (keeps value).bind fun answer => ?_
      cases answer with
      | error reason => exact Action.keeps_pure _
      | ok result => exact Action.keeps_pure _

theorem keeps_localTo {handlers : Handlers σ}
    (keeps : ∀ handler, handlers.lookup namespaceName operation = some handler →
      ∀ payload, (handler payload).Keeps) (payload : Bytes) :
    (Transport.localTo handlers namespaceName operation payload).Keeps := by
  rw [Transport.localTo]
  split
  · exact Action.keeps_pure _
  · next handler found => exact keeps handler found payload

/-- A call keeps the state when no payload that it may send changes it. -/
theorem Invoker.keeps_invokeWithReturn {invoker : Invoker σ}
    (keeps : ∀ payload, (invoker.transport namespaceName operation payload).Keeps) (value : Datum)
    (result : Shape) : (invoker.invokeWithReturn namespaceName operation value result).Keeps := by
  have sends : (invoker.send namespaceName operation value).Keeps := by
    rw [send]
    split
    · exact Action.keeps_pure _
    · exact keeps _
  refine sends.bind fun answer => ?_
  cases answer with
  | error error => exact Action.keeps_pure _
  | ok answer => exact Action.keeps_pure _

namespace Http

/-- A refusal keeps the state and is never taken for a success. -/
structure Refuses (action : Action σ Response) : Prop where
  keeps : action.Keeps
  fails : ∀ state response, (action state).1 = .returned response → response.statusCode ≠ 200

theorem refuses_pure {response : Response} (fails : response.statusCode ≠ 200) :
    Refuses (pure response : Action σ Response) := by
  refine ⟨Action.keeps_pure _, fun state other same => ?_⟩
  cases same
  exact fails

theorem refuses_never : Refuses (Action.never : Action σ Response) := ⟨Action.keeps_never, nofun⟩

namespace Router

variable {router : Router σ}

theorem keeps_answer (outcome : Outcome (Except Error Bytes)) : (router.answer outcome).Keeps := by
  match outcome with
  | .returned (.ok payload) => exact Action.keeps_pure _
  | .returned (.error error) => exact Action.keeps_pure _
  | .panicked => exact Action.keeps_pure _
  | .pending =>
      rw [answer]
      split
      · exact Action.keeps_pure _
      · exact Action.keeps_never

/-- A request for a handler that keeps the state keeps it, however its body arrives. -/
theorem keeps_serve {handler : Handler σ} (keeps : ∀ payload, (handler payload).Keeps)
    (body : Body) : (router.serve handler body).Keeps := by
  rw [serve]
  split
  · exact Action.keeps_pure _
  · exact Action.keeps_pure _
  · split
    · exact Action.keeps_pure _
    · exact Action.keeps_never
  · next payload _ => exact (keeps payload).observe.bind keeps_answer

/-- A body that is not whole is refused, and no handler sees it. -/
theorem refuses_serve {body : Body}
    (refused : ∀ payload, body.collect router.maxBodySize ≠ .whole payload) (handler : Handler σ) :
    Refuses (router.serve handler body) := by
  rw [serve]
  split
  · exact refuses_pure (show 413 ≠ 200 by decide)
  · exact refuses_pure (by decide)
  · split
    · exact refuses_pure (by decide)
    · exact refuses_never
  · next payload whole => exact absurd whole (refused payload)

/-- A request is refused unless it is sent to a handler in the right way. -/
theorem dispatch_cases (router : Router σ) (request : Request) :
    Refuses (router.dispatch request) ∨
      ∃ handler, router.handlerFor? request.path = some handler ∧
        router.dispatch request = router.serve handler request.body := by
  rw [dispatch]
  split
  · split
    · exact .inl (refuses_pure (by decide))
    · next handler found => exact .inr ⟨handler, found, rfl⟩
  · exact .inl (refuses_pure (by decide))

theorem keeps_dispatch {request : Request} {handler : Handler σ}
    (found : router.handlerFor? request.path = some handler)
    (keeps : ∀ payload, (handler payload).Keeps) : (router.dispatch request).Keeps := by
  obtain refused | ⟨other, isOther, same⟩ := router.dispatch_cases request
  · exact refused.keeps
  · rw [found, Option.some.injEq] at isOther
    rw [same, ← isOther]
    exact keeps_serve keeps request.body

end Router

end Http

end Switchboard
