import Switchboard.Proofs.MessagePack.Outline

/-
This file shows that a MessagePack value is skipped whole if it has an outline, so only its levels
count.
-/

namespace Switchboard.MessagePack

/-- No reader is needed for a value that is skipped. -/
def IsSkipped (depth : Nat) (bytes : Bytes) : Prop :=
  ∀ rest, skipValue depth (bytes ++ rest) = .ok ((), rest)

section Bare

theorem skipValue_of_scalar (depth : Nat) {bytes rest : Bytes} {head : Head} {datum : Datum}
    (read : readHead bytes = .ok (head, rest)) (scalar : head.scalar? = some datum) :
    skipValue depth bytes = .ok ((), rest) := by
  cases head with
  | null | bool _ | unsigned _ | signed _ | float _ => cases depth <;> rw [skipValue, read] <;> rfl
  | text _ | bytes _ | list _ | map _ | extension _ => simp [Head.scalar?] at scalar

/-- The content of a text or of a byte array is not looked at. -/
theorem skipValue_of_content (depth : Nat) {bytes content rest : Bytes} {head : Head}
    (read : readHead bytes = .ok (head, content ++ rest))
    (counts : head = .text content.length ∨ head = .bytes content.length) :
    skipValue depth bytes = .ok ((), rest) := by
  obtain rfl | rfl := counts
  · cases depth <;>
      simp only [skipValue, read, ok_bind, readContent, readExactly_append, pure_eq_ok]
  · cases depth <;>
      simp only [skipValue, read, ok_bind, readContent, readExactly_append, pure_eq_ok]

theorem Bare.isSkipped {bytes : Bytes} (bare : Bare bytes) (depth : Nat) :
    IsSkipped depth bytes := by
  intro rest
  cases bare with
  | null | boolFalse | boolTrue => exact skipValue_of_scalar depth rfl rfl
  | fixPositive small => exact skipValue_of_scalar depth (readHead_fixPositive small rest) rfl
  | fixNegative negative least =>
      exact skipValue_of_scalar depth (readHead_fixNegative least negative rest) rfl
  | number announced =>
      obtain ⟨head, datum, read, scalar⟩ := exists_head_of_number announced rest
      exact skipValue_of_scalar depth read scalar
  | text isHead =>
      rw [List.append_assoc]
      exact skipValue_of_content depth (isHead.read _) (.inl rfl)
  | bytes isHead =>
      rw [List.append_assoc]
      exact skipValue_of_content depth (isHead.read _) (.inr rfl)

end Bare

section Runs

variable {depth : Nat}

theorem skipTimes_succ {skip : Reader Unit} {bytes rest : Bytes}
    (first : skip bytes = .ok ((), rest)) (count : Nat) :
    skipTimes skip (count + 1) bytes = skipTimes skip count rest := by
  rw [skipTimes, first, ok_bind]

theorem skipTimes_flatten {items : List Bytes} (skipped : ∀ item ∈ items, IsSkipped depth item)
    (rest : Bytes) :
    skipTimes (skipValue depth) items.length (items.flatten ++ rest) = .ok ((), rest) := by
  induction items with
  | nil => rfl
  | cons item items inductionHypothesis =>
      obtain ⟨here, others⟩ := List.forall_mem_cons.1 skipped
      rw [List.flatten_cons, List.append_assoc, List.length_cons, skipTimes_succ (here _),
        inductionHypothesis others]

/-- The key and the value of an entry are skipped one after the other. -/
theorem skipTimes_flatMap {entries : List (Bytes × Bytes)}
    (skipped : ∀ entry ∈ entries, IsSkipped depth entry.1 ∧ IsSkipped depth entry.2)
    (rest : Bytes) :
    skipTimes (skipValue depth) (2 * entries.length)
      ((entries.flatMap fun entry => entry.1 ++ entry.2) ++ rest) = .ok ((), rest) := by
  induction entries with
  | nil => rfl
  | cons entry entries inductionHypothesis =>
      obtain ⟨⟨key, value⟩, others⟩ := List.forall_mem_cons.1 skipped
      rw [List.flatMap_cons, List.append_assoc, List.append_assoc, List.length_cons, Nat.mul_succ,
        skipTimes_succ (key _), skipTimes_succ (value _), inductionHypothesis others]

theorem skipExtension_cons (tag : UInt8) (content rest : Bytes) :
    skipExtension content.length (tag :: (content ++ rest)) = .ok ((), rest) := by
  have taken : readExactly .noNumber 1 (tag :: (content ++ rest)) = .ok ([tag], content ++ rest) :=
    rfl
  simp only [skipExtension, taken, ok_bind, readContent, readExactly_append, pure_eq_ok]

end Runs

/-- What is enclosed is skipped one level below its head. -/
theorem Enclosed.isSkipped {depth : Nat} {value : Bytes → Prop}
    (skipped : ∀ bytes, value bytes → IsSkipped depth bytes) {bytes : Bytes}
    (enclosed : Enclosed value bytes) : IsSkipped (depth + 1) bytes := by
  intro rest
  cases enclosed with
  | extension isHead tag =>
      rw [List.append_assoc, skipValue, isHead.read]
      exact skipExtension_cons tag _ rest
  | list isHead inside =>
      rw [List.append_assoc, skipValue, isHead.read]
      exact skipTimes_flatten (fun item member => skipped item (inside item member)) rest
  | map isHead inside =>
      rw [List.append_assoc, skipValue, isHead.read]
      refine skipTimes_flatMap (fun entry member => ?_) rest
      obtain ⟨key, value⟩ := inside entry member
      exact ⟨skipped _ key, skipped _ value⟩

/-- Levels that are left over do not matter. -/
theorem Outline.isSkipped {levels depth : Nat} (room : levels ≤ depth) {bytes : Bytes}
    (outline : Outline levels bytes) : IsSkipped depth bytes := by
  induction levels generalizing depth bytes with
  | zero => exact Bare.isSkipped outline depth
  | succ levels inductionHypothesis =>
      obtain bare | enclosed := outline
      · exact bare.isSkipped depth
      · obtain ⟨inner, rfl⟩ := Nat.exists_eq_add_of_le' (Nat.le_trans (Nat.succ_pos levels) room)
        exact enclosed.isSkipped fun _ => inductionHypothesis (Nat.le_of_succ_le_succ room)

/-- What is written is skipped if its containers fit into the depth. -/
theorem isSkipped_write {depth : Nat} {datum : Datum} (short : datum.isShort)
    (shallow : datum.depth ≤ depth) : IsSkipped depth (write datum) :=
  (outline_write depth short shallow).isSkipped (Nat.le_refl depth)

end Switchboard.MessagePack
