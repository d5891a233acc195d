import Switchboard.Proofs.Action
import Switchboard.Proofs.Ascending
import Switchboard.Proofs.Http.Body
import Switchboard.Proofs.Http.Routing

/-
This file classifies requests by what becomes of them. Of all verdicts that apply to a request the
first one decides on its answer, and the frames in which its body arrives do not count.
-/

namespace Switchboard.Http

variable {σ : Type}

section Verdicts

/-- A request ends in one of these ways, listed in the order in which they are looked for. -/
inductive Verdict where
  | wrongMethod
  | noRoute
  | tooLarge
  | brokenOff
  | stalled
  | unfinished
  | panicked
  | failed (error : Error)
  | replied (payload : Bytes)
  deriving DecidableEq, Repr

namespace Verdict

/-- A verdict counts the verdicts that come before it. -/
def rank : Verdict → Nat
  | wrongMethod => 0
  | noRoute => 1
  | tooLarge => 2
  | brokenOff => 3
  | stalled => 4
  | unfinished => 5
  | panicked => 6
  | failed _ => 7
  | replied _ => 8

/-- The last four verdicts depend on a handler that was run. -/
def isHandled (verdict : Verdict) : Bool := 5 ≤ verdict.rank

/-- What a handler does decides on the verdict, once it is run. -/
def ofOutcome : Outcome (Except Error Bytes) → Verdict
  | .pending => unfinished
  | .panicked => panicked
  | .returned (.error error) => failed error
  | .returned (.ok payload) => replied payload

/-- What never comes is given up with a text at the deadline, and without one it is waited for. -/
def late (router : Router σ) (message : String) : Outcome Response :=
  match router.requestTimeout with
  | some _ => .returned (.plain 503 message)
  | none => .pending

/-- Only a reply is a success, and it has the media type of the listener. -/
def answer (router : Router σ) : Verdict → Outcome Response
  | wrongMethod => .returned (.plain 405 "Invalid method")
  | noRoute => .returned (.plain 404 "Not Found")
  | tooLarge => .returned (.plain 413 s!"Request body exceeds {router.maxBodySize} bytes")
  | brokenOff => .returned
    (.plain 400 "Failed to read request body: error reading a body from connection")
  | stalled => late router "Request timed out"
  | unfinished => late router "Handler timed out"
  | panicked => .returned (.plain 500 "Handler panicked")
  | failed error => .returned (.plain 500 error.message)
  | replied payload => .returned ⟨200, router.contentType, payload⟩

end Verdict

namespace Router

/-- A path leads to the handler of a key when it is the path of the key behind the prefix. -/
def LeadsTo (router : Router σ) (path : String) (handler : Handler σ) : Prop :=
  ∃ key : OperationKey, path = router.pathPrefix ++ key.path ∧
    router.handlers.get? key = some handler

/-- A handler is run on all bytes that were received. -/
def EndsIn (router : Router σ) (request : Request) (state : σ)
    (outcome : Outcome (Except Error Bytes)) : Prop :=
  ∃ handler, router.LeadsTo request.path handler ∧
    (handler request.body.frames.flatten state).1 = outcome

/-- Each verdict has a condition of its own, whatever other verdicts apply. -/
def Applies (router : Router σ) (request : Request) (state : σ) : Verdict → Prop
  | .wrongMethod => request.method ≠ "POST"
  | .noRoute => ∀ key ∈ router.handlers.keys, request.path ≠ router.pathPrefix ++ key.path
  | .tooLarge => router.maxBodySize < request.body.frames.flatten.length
  | .brokenOff => request.body.ending = .brokenOff
  | .stalled => request.body.ending = .stalled
  | .unfinished => router.EndsIn request state .pending
  | .panicked => router.EndsIn request state .panicked
  | .failed error => router.EndsIn request state (.returned (.error error))
  | .replied payload => router.EndsIn request state (.returned (.ok payload))

/-- A request passes the verdicts below a rank when none of them applies to it. -/
def Passes (router : Router σ) (request : Request) (state : σ) (rank : Nat) : Prop :=
  ∀ earlier : Verdict, earlier.rank < rank → ¬ router.Applies request state earlier

/-- The first verdict that applies decides. -/
structure Decides (router : Router σ) (request : Request) (state : σ) (verdict : Verdict) :
    Prop where
  applies : router.Applies request state verdict
  first : router.Passes request state verdict.rank

end Router

end Verdicts

namespace Router

variable {router : Router σ} {request : Request} {state : σ} {path : String} {handler : Handler σ}

theorem leadsTo_iff : router.LeadsTo path handler ↔ router.handlerFor? path = some handler := by
  constructor
  · rintro ⟨key, written, bound⟩
    rw [handlerFor?, keyFor?_eq_some_iff.2 written]
    exact bound
  · intro found
    rw [handlerFor?] at found
    split at found
    · cases found
    · next key named => exact ⟨key, keyFor?_eq_some_iff.1 named, found⟩

theorem handlerFor?_eq_none_iff : router.handlerFor? path = none ↔
    ∀ key ∈ router.handlers.keys, path ≠ router.pathPrefix ++ key.path := by
  have registered (key : OperationKey) :
      key ∈ router.handlers.keys ↔ ∃ handler, router.handlers.get? key = some handler := by
    rw [← Option.isSome_iff_exists, Handlers.get?, Ascending.isSome_find?_iff, Handlers.keys]
  constructor
  · intro missing key member written
    obtain ⟨handler, bound⟩ := (registered key).1 member
    rw [leadsTo_iff.1 ⟨key, written, bound⟩] at missing
    cases missing
  · intro unwritten
    cases found : router.handlerFor? path with
    | none => rfl
    | some handler =>
        obtain ⟨key, written, bound⟩ := leadsTo_iff.2 found
        exact absurd written (unwritten key ((registered key).2 ⟨handler, bound⟩))

/-- A request has one handler at most, and that ends in one way. -/
theorem endsIn_iff (found : router.handlerFor? request.path = some handler)
    {outcome : Outcome (Except Error Bytes)} :
    router.EndsIn request state outcome ↔
      (handler request.body.frames.flatten state).1 = outcome := by
  simp only [EndsIn, leadsTo_iff, found, Option.some.injEq, exists_eq_left']

/-- A verdict on a handler applies exactly when it is the one on what that handler does. -/
theorem applies_iff_eq_ofOutcome (found : router.handlerFor? request.path = some handler)
    {verdict : Verdict} (handled : verdict.isHandled = true) :
    router.Applies request state verdict ↔
      verdict = Verdict.ofOutcome (handler request.body.received state).1 := by
  have ends {outcome : Outcome (Except Error Bytes)} :
      router.EndsIn request state outcome ↔ (handler request.body.received state).1 = outcome :=
    endsIn_iff found
  cases verdict with
  | wrongMethod | noRoute | tooLarge | brokenOff | stalled => cases handled
  | unfinished | panicked | failed _ | replied _ =>
      rw [Applies, ends]
      match (handler request.body.received state).1 with
      | .returned (.ok _) | .returned (.error _) | .panicked | .pending =>
          simp [Verdict.ofOutcome, eq_comm]

section Order

/-- A verdict without a handler has its rank to itself. -/
theorem eq_of_rank_eq {first second : Verdict} (early : first.isHandled = false)
    (same : first.rank = second.rank) : first = second := by
  cases first <;> cases second <;> simp_all [Verdict.rank, Verdict.isHandled]

/-- The next verdict comes up when this one does not apply. -/
theorem Passes.next (verdict : Verdict) (passes : router.Passes request state verdict.rank)
    (early : verdict.isHandled = false) (other : ¬ router.Applies request state verdict) :
    router.Passes request state (verdict.rank + 1) := by
  intro earlier lower
  rcases Nat.lt_succ_iff_lt_or_eq.1 lower with below | same
  · exact passes earlier below
  · rw [← eq_of_rank_eq early same.symm]
    exact other

/-- No two verdicts decide on one request. -/
theorem Decides.eq {first second : Verdict} (decides : router.Decides request state first)
    (alsoDecides : router.Decides request state second) : first = second := by
  have same : first.rank = second.rank := by
    apply Nat.le_antisymm
    · exact Nat.le_of_not_lt fun lower => decides.first second lower alsoDecides.applies
    · exact Nat.le_of_not_lt fun lower => alsoDecides.first first lower decides.applies
  cases handled : first.isHandled with
  | false => exact eq_of_rank_eq handled same
  | true =>
      have alsoHandled : second.isHandled = true := by
        rw [← handled, Verdict.isHandled, Verdict.isHandled, same]
      cases found : router.handlerFor? request.path with
      | none =>
          have missing := decides.first .noRoute (by
            rw [Verdict.isHandled, decide_eq_true_eq] at handled
            exact Nat.lt_of_lt_of_le (by decide) handled)
          exact absurd (handlerFor?_eq_none_iff.1 found) missing
      | some handler =>
          rw [(applies_iff_eq_ofOutcome found handled).1 decides.applies,
            (applies_iff_eq_ofOutcome found alsoHandled).1 alsoDecides.applies]

end Order

section Answers

/-- A handler that gets a whole body is answered for by the verdict on what it does. -/
theorem serve_run {body : Body} {payload : Bytes}
    (whole : body.collect router.maxBodySize = .whole payload) :
    router.serve handler body state =
      ((Verdict.ofOutcome (handler payload state).1).answer router, (handler payload state).2) := by
  cases ran : handler payload state with
  | mk outcome after =>
      rw [serve, whole]
      simp only
      rw [Action.bind_of_returned (Action.observe_run ran)]
      match outcome with
      | .returned (.ok payload) => rfl
      | .returned (.error error) => rfl
      | .panicked => rfl
      | .pending =>
          rw [Router.answer, Verdict.ofOutcome, Verdict.answer, Verdict.late]
          cases router.requestTimeout <;> rfl

end Answers

end Router

end Switchboard.Http
