import Switchboard.Action

/-
This file says what a chain of steps does when its first step returns, what is observed of it, and
when it leaves the state as it is.
-/

namespace Switchboard.Action

variable {σ α β : Type} {first : Action σ α} {next : α → Action σ β} {state after : σ}

theorem bind_of_returned {value : α} (ran : first state = (.returned value, after)) :
    (first >>= next) state = next value after := by
  show bind first next state = next value after
  rw [bind, ran]

theorem observe_run {outcome : Outcome α} (ran : first state = (outcome, after)) :
    first.observe state = (.returned outcome, after) := by
  rw [observe, ran]

/-- An action that keeps the state leaves it as it was, however it ends. -/
def Keeps (action : Action σ α) : Prop := ∀ state, (action state).2 = state

theorem keeps_pure (value : α) : (pure value : Action σ α).Keeps := fun _ => rfl

theorem keeps_never : (never : Action σ α).Keeps := fun _ => rfl

theorem Keeps.bind (keeps : first.Keeps) (later : ∀ value, (next value).Keeps) :
    (first >>= next).Keeps := by
  intro state
  show (Action.bind first next state).2 = state
  have kept := keeps state
  rw [Action.bind]
  split
  · next value after ran =>
      rw [ran] at kept
      rw [later value after]
      exact kept
  · next after ran =>
      rw [ran] at kept
      exact kept
  · next after ran =>
      rw [ran] at kept
      exact kept

theorem Keeps.observe (keeps : first.Keeps) : first.observe.Keeps := keeps

end Switchboard.Action
