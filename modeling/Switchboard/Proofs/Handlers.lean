import Switchboard.Adapter
import Switchboard.Proofs.Ascending
import Switchboard.Proofs.Key

/-
This file shows that a registered handler is found under its own key and leaves all others in place.
-/

namespace Switchboard

variable {σ : Type}

namespace Handlers

variable {handlers after : Handlers σ} {namespaceName operation : String} {handler : Handler σ}

/-- A registration binds the key of its parts. -/
theorem exists_key_of_register
    (registered : handlers.register namespaceName operation (some handler) = .ok after) :
    ∃ key, OperationKey.make namespaceName operation = .ok key ∧
      after = handlers.bind key handler := by
  rw [register] at registered
  cases made : OperationKey.make namespaceName operation with
  | error fault =>
      rw [made] at registered
      cases registered
  | ok key =>
      simp only [made, Except.ok.injEq] at registered
      exact ⟨key, rfl, registered.symm⟩

theorem lookup_of_make {key : OperationKey}
    (made : OperationKey.make namespaceName operation = .ok key) :
    handlers.lookup namespaceName operation = handlers.get? key := by
  rw [lookup, OperationKey.make?, made]
  rfl

theorem lookup_of_register
    (registered : handlers.register namespaceName operation (some handler) = .ok after) :
    after.lookup namespaceName operation = some handler := by
  obtain ⟨key, made, bound⟩ := exists_key_of_register registered
  rw [lookup_of_make made, bound]
  exact Ascending.find?_insert_self key handler handlers.entries

theorem lookup_of_register_of_ne
    (registered : handlers.register namespaceName operation (some handler) = .ok after)
    {otherNamespace otherOperation : String}
    (different : ¬ (otherNamespace = namespaceName ∧ otherOperation = operation)) :
    after.lookup otherNamespace otherOperation = handlers.lookup otherNamespace otherOperation := by
  obtain ⟨key, made, bound⟩ := exists_key_of_register registered
  cases otherMade : OperationKey.make otherNamespace otherOperation with
  | error fault => rw [lookup, lookup, OperationKey.make?, otherMade]; rfl
  | ok other =>
      have parts := OperationKey.make_eq_ok.1 made
      have otherParts := OperationKey.make_eq_ok.1 otherMade
      have isOther : other ≠ key := by
        intro same
        rw [same] at otherParts
        exact different ⟨otherParts.1.symm.trans parts.1, otherParts.2.symm.trans parts.2⟩
      rw [lookup_of_make otherMade, lookup_of_make otherMade, bound]
      exact Ascending.find?_insert_of_ne isOther handler handlers.entries

end Handlers

namespace Adapter

/-- A registration adds one handler and keeps everything else of an adapter. -/
structure Registers (adapter after : Adapter σ) (namespaceName operation : String)
    (handler : Handler σ) : Prop where
  sameConfig : after.config = adapter.config
  sameCodec : after.codec = adapter.codec
  found : after.handlers.lookup namespaceName operation = some handler
  kept : ∀ otherNamespace otherOperation,
    ¬ (otherNamespace = namespaceName ∧ otherOperation = operation) →
    after.handlers.lookup otherNamespace otherOperation =
      adapter.handlers.lookup otherNamespace otherOperation

theorem registers_of_register {adapter after : Adapter σ} {namespaceName operation : String}
    {request : Shape} {run : Operation σ}
    (registered : adapter.register namespaceName operation request run = .ok after) :
    Registers adapter after namespaceName operation (typedHandler adapter.codec request run) := by
  rw [register] at registered
  cases bound : adapter.handlers.register namespaceName operation
      (some (typedHandler adapter.codec request run)) with
  | error error =>
      rw [bound] at registered
      cases registered
  | ok handlers =>
      simp only [bound, Except.ok.injEq] at registered
      rw [← registered]
      refine ⟨rfl, rfl, Handlers.lookup_of_register bound, ?_⟩
      intro otherNamespace otherOperation different
      exact Handlers.lookup_of_register_of_ne bound different

end Adapter

end Switchboard
