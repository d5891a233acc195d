/-
This file takes chains of steps apart that may fail.
-/

namespace Switchboard

variable {ε α β : Type}

@[simp] theorem ok_bind (value : α) (next : α → Except ε β) :
    (Except.ok value >>= next) = next value := rfl

@[simp] theorem error_bind (error : ε) (next : α → Except ε β) :
    (Except.error error >>= next) = Except.error error := rfl

/-- A chain fails where its first step does. -/
theorem exists_error_bind {first : Except ε α} (stopped : ∃ error, first = .error error)
    (next : α → Except ε β) : ∃ error, (first >>= next) = .error error := by
  obtain ⟨error, rfl⟩ := stopped
  exact ⟨error, rfl⟩

/-- A chain succeeds when every step of it does. -/
theorem bind_eq_ok {first : Except ε α} {next : α → Except ε β} {result : β} :
    (first >>= next) = .ok result ↔ ∃ value, first = .ok value ∧ next value = .ok result := by
  cases first with
  | error error => simp
  | ok value => simp

/-- A step succeeds with the same value whatever its errors are turned into. -/
@[simp] theorem mapError_eq_ok {δ : Type} {first : Except ε α} {change : ε → δ} {value : α} :
    first.mapError change = .ok value ↔ first = .ok value := by
  cases first with
  | error error => exact ⟨nofun, nofun⟩
  | ok held =>
      show (Except.ok held : Except δ α) = .ok value ↔ _
      rw [Except.ok.injEq, Except.ok.injEq]

theorem mapError_mapError {δ γ : Type} (first : Except ε α) (change : ε → δ) (later : δ → γ) :
    (first.mapError change).mapError later = first.mapError fun error => later (change error) := by
  cases first <;> rfl

@[simp] theorem pure_eq_ok (value : α) : (pure value : Except ε α) = .ok value := rfl

end Switchboard
