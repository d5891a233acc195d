/-
This file describes steps that read and change a state and that need not return.
-/

namespace Switchboard

/-- A step returns a value, panics on the way, or never finishes. -/
inductive Outcome (α : Type) where
  | returned (value : α)
  | panicked
  | pending
  deriving DecidableEq, Repr

/-- An action changes the state also when it does not return. -/
def Action (σ α : Type) : Type := σ → Outcome α × σ

namespace Action

variable {σ α β : Type}

def run (action : Action σ α) (state : σ) : Outcome α × σ := action state

/-- The second action runs in the state that the first one leaves, if that one returns. -/
def bind (first : Action σ α) (next : α → Action σ β) : Action σ β := fun state =>
  match first state with
  | (.returned value, after) => next value after
  | (.panicked, after) => (.panicked, after)
  | (.pending, after) => (.pending, after)

instance : Monad (Action σ) where
  pure value := fun state => (.returned value, state)
  bind := bind

def panicked : Action σ α := fun state => (.panicked, state)

def never : Action σ α := fun state => (.pending, state)

/-- This action replaces the state by a part of its result. -/
def ofFunction (step : σ → α × σ) : Action σ α := fun state =>
  (.returned (step state).1, (step state).2)

/-- Both ways of not returning become values. -/
def observe (action : Action σ α) : Action σ (Outcome α) := fun state =>
  (.returned (action state).1, (action state).2)

/-- An outcome that was observed takes effect again. -/
def ofOutcome (outcome : Outcome α) : Action σ α := fun state => (outcome, state)

end Action

end Switchboard
