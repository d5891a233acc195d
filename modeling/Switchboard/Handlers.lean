import Switchboard.Action
import Switchboard.Codec
import Switchboard.Key

/-
This file holds the dispatch table from operation keys to the handlers that answer them.
-/

namespace Switchboard

namespace OperationKey

theorem eq_of_parts {first second : OperationKey}
    (sameNamespace : first.namespaceName = second.namespaceName)
    (sameOperation : first.operation = second.operation) : first = second := by
  cases first
  cases second
  simp_all

instance : Std.TransOrd OperationKey :=
  inferInstanceAs (Std.TransCmp
    (compareLex (compareOn OperationKey.namespaceName) (compareOn OperationKey.operation)))

instance : Std.LawfulEqOrd OperationKey where
  eq_of_compare {first second} equal := by
    have parts := Ordering.then_eq_eq.1 equal
    exact eq_of_parts (Std.LawfulEqCmp.eq_of_compare parts.1)
      (Std.LawfulEqCmp.eq_of_compare parts.2)

end OperationKey

/-- A handler takes a payload and answers with a payload or an error. -/
abbrev Handler (σ : Type) : Type := Bytes → Action σ (Except Error Bytes)

/--
A dispatch table binds at most one handler to each key. Its entries ascend by their keys, so two
tables with the same bindings have the same keys in the same order.
-/
structure Handlers (σ : Type) where
  entries : List (OperationKey × Handler σ)
  ascending : Ascending.IsAscending (entries.map Prod.fst)

namespace Handlers

variable {σ : Type}

def empty : Handlers σ := ⟨[], List.Pairwise.nil⟩

/-- A handler for a key that has one replaces it. -/
def bind (handlers : Handlers σ) (key : OperationKey) (handler : Handler σ) : Handlers σ :=
  ⟨Ascending.insert key handler handlers.entries,
    Ascending.isAscending_insert key handler handlers.entries handlers.ascending⟩

/-- An absent handler leaves the table as it is, but its key is checked all the same. -/
def register (handlers : Handlers σ) (namespaceName operation : String)
    (handler : Option (Handler σ)) : Except Error (Handlers σ) :=
  match OperationKey.make namespaceName operation with
  | .error fault => .error fault.toError
  | .ok key =>
    match handler with
    | none => .ok handlers
    | some handler => .ok (handlers.bind key handler)

def get? (handlers : Handlers σ) (key : OperationKey) : Option (Handler σ) :=
  Ascending.find? key handlers.entries

/-- Texts that are no key have no handler. -/
def lookup (handlers : Handlers σ) (namespaceName operation : String) : Option (Handler σ) :=
  match OperationKey.make? namespaceName operation with
  | none => none
  | some key => handlers.get? key

def size (handlers : Handlers σ) : Nat := handlers.entries.length

def isEmpty (handlers : Handlers σ) : Bool := handlers.entries.isEmpty

def keys (handlers : Handlers σ) : List OperationKey := handlers.entries.map Prod.fst

def debugText (handlers : Handlers σ) : String :=
  "Handlers \x7b keys: [" ++ String.intercalate ", " (handlers.keys.map OperationKey.debugText) ++
    "] \x7d"

end Handlers

/-- An operation works on values and fails with a text. -/
abbrev Operation (σ : Type) : Type := Datum → Action σ (Except String Datum)

/--
A typed handler decodes the request, runs the operation and encodes its result. An operation that
fails is reported by its text.
-/
def typedHandler {σ : Type} (codec : Codec) (request : Shape) (operation : Operation σ) :
    Handler σ := fun payload =>
  match codec.decode request payload with
  | .error error => pure (.error error)
  | .ok value => do
    match ← operation value with
    | .error reason => pure (.error (.handler reason))
    | .ok result => pure (codec.encode result)

end Switchboard
