import Switchboard.Bytes
import Switchboard.Proofs.Except

/-
This file says when a value that was read stays the same although more bytes follow, whatever the
payload format.
-/

namespace Switchboard

variable {φ α β : Type}

/--
A result is stable when more bytes leave its value alone and stand unread behind it. Only a value
that runs to the last byte may need something behind it that ends it.
-/
def Stable (ends : Bytes → Prop) (bytes : Bytes) (result : Except φ (α × Bytes))
    (extended : Bytes → Except φ (α × Bytes)) : Prop :=
  ∀ value rest, result = .ok (value, rest) → rest <:+ bytes ∧
    ∀ behind, (rest = [] → ends behind) → extended behind = .ok (value, rest ++ behind)

/-- A value with an end of its own may have anything behind it. -/
def Anything (_ : Bytes) : Prop := True

/-- The wide reader returns whatever the narrow one does, also when more bytes follow. -/
def Widens (ends : Bytes → Prop) (narrow wide : Bytes → Except φ (α × Bytes)) : Prop :=
  ∀ bytes, Stable ends bytes (narrow bytes) fun behind => wide (bytes ++ behind)

namespace Stable

variable {ends : Bytes → Prop} {bytes : Bytes} {result : Except φ (α × Bytes)}
  {extended : Bytes → Except φ (α × Bytes)}

theorem ok (value : α) : Stable ends bytes (.ok (value, bytes) : Except φ (α × Bytes))
    fun behind => .ok (value, bytes ++ behind) := by
  intro found rest same
  cases same
  exact ⟨List.suffix_refl _, fun _ _ => rfl⟩

/-- A reader that stopped promises nothing. -/
theorem of_stopped (stopped : ∀ output, result ≠ .ok output) : Stable ends bytes result extended :=
  fun _ _ same => absurd same (stopped _)

theorem error (fault : φ) :
    Stable ends bytes (.error fault : Except φ (α × Bytes)) extended :=
  of_stopped nofun

/-- What is behind a value that needs less is also fine for one that needs more. -/
theorem weaken {needs : Bytes → Prop} (stable : Stable ends bytes result extended)
    (fulfilled : ∀ behind, needs behind → ends behind) :
    Stable needs bytes result extended := by
  intro value rest same
  obtain ⟨suffix, unchanged⟩ := stable value rest same
  exact ⟨suffix, fun behind needed => unchanged behind fun last => fulfilled _ (needed last)⟩

theorem of_suffix {inner : Bytes} (isSuffix : inner <:+ bytes)
    (stable : Stable ends inner result extended) : Stable ends bytes result extended := by
  intro value rest same
  obtain ⟨suffix, unchanged⟩ := stable value rest same
  exact ⟨suffix.trans isSuffix, unchanged⟩

/-- A value behind a first byte is stable with that byte before it. -/
theorem behind {byte : UInt8} (stable : Stable ends bytes result extended) :
    Stable ends (byte :: bytes) result extended :=
  of_suffix (List.suffix_cons byte bytes) stable

/-- A value with an end of its own needs nothing behind it. -/
theorem closed (stable : Stable Anything bytes result extended) :
    Stable ends bytes result extended :=
  weaken stable fun _ _ => trivial

theorem ite {test : Prop} [Decidable test] {other : Except φ (α × Bytes)}
    {otherExtended : Bytes → Except φ (α × Bytes)}
    (yes : test → Stable ends bytes result extended)
    (no : ¬ test → Stable ends bytes other otherExtended) :
    Stable ends bytes (if test then result else other)
      fun behind => if test then extended behind else otherExtended behind := by
  split
  · next holds => exact yes holds
  · next fails => exact no fails

variable {next : α × Bytes → Except φ (β × Bytes)}
  {nextExtended : Bytes → α × Bytes → Except φ (β × Bytes)}

/-- The first of two steps may need more behind it, if the second one makes up for that. -/
theorem bind_of {needs : Bytes → Prop} (first : Stable needs bytes result extended)
    (second : ∀ value rest, result = .ok (value, rest) →
      Stable ends rest (next (value, rest)) fun behind => nextExtended behind (value, rest ++ behind))
    (passes : ∀ value output, next (value, []) = .ok output →
      ∀ behind, ends behind → needs behind) :
    Stable ends bytes (result >>= next) fun behind => extended behind >>= nextExtended behind := by
  intro value rest read
  obtain ⟨⟨between, inner⟩, isFirst, isSecond⟩ := bind_eq_ok.1 read
  obtain ⟨outerSuffix, outerUnchanged⟩ := first between inner isFirst
  obtain ⟨innerSuffix, innerUnchanged⟩ := second between inner isFirst value rest isSecond
  refine ⟨innerSuffix.trans outerSuffix, fun behind needed => ?_⟩
  have firstNeeded : inner = [] → needs behind := by
    rintro rfl
    exact passes between _ isSecond behind (needed (List.suffix_nil.1 innerSuffix))
  dsimp only
  rw [outerUnchanged behind firstNeeded, ok_bind]
  exact innerUnchanged behind needed

theorem bind (first : Stable ends bytes result extended)
    (second : ∀ value rest, result = .ok (value, rest) →
      Stable ends rest (next (value, rest)) fun behind => nextExtended behind (value, rest ++ behind)) :
    Stable ends bytes (result >>= next) fun behind => extended behind >>= nextExtended behind :=
  bind_of first second fun _ _ _ _ => id

/-- A step that takes at least one byte ends whatever was read before it. -/
theorem bind_of_hungry {needs : Bytes → Prop} (first : Stable needs bytes result extended)
    (second : ∀ value rest, result = .ok (value, rest) →
      Stable ends rest (next (value, rest)) fun behind => nextExtended behind (value, rest ++ behind))
    (hungry : ∀ value, ∃ fault, next (value, []) = .error fault) :
    Stable ends bytes (result >>= next) fun behind => extended behind >>= nextExtended behind := by
  refine bind_of first second fun value output same => ?_
  obtain ⟨fault, stopped⟩ := hungry value
  rw [stopped] at same
  cases same

end Stable

end Switchboard
