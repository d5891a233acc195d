import Switchboard.Bytes
import Switchboard.Proofs.Soundness

/-
This file says what a reader promises of the values that it returns, whatever the payload format.
-/

namespace Switchboard

/-- A reader that does not stop returns a value with this property. -/
def Returns {φ α : Type} (reader : Bytes → Except φ (α × Bytes)) (good : α → Prop) : Prop :=
  ∀ bytes value rest, reader bytes = .ok (value, rest) → good value

namespace Fields

/-- The values that were found so far have the shapes of the fields that they are found under. -/
def Knows (fields : Fields) (found : List (String × Datum)) : Prop :=
  ∀ name value shape, found.lookup name = some value → fields.find? name = some shape →
    shape.holds value

theorem knows_nil (fields : Fields) : fields.Knows [] := nofun

/-- A new value is found under its own name only. -/
theorem Knows.append {fields : Fields} {found : List (String × Datum)} (knows : fields.Knows found)
    {name : String} {value : Datum}
    (held : ∀ shape, fields.find? name = some shape → shape.holds value) :
    fields.Knows (found ++ [(name, value)]) := by
  intro other datum shape present named
  rw [List.lookup_append] at present
  cases old : found.lookup other with
  | some before =>
      rw [old, Option.some_or, Option.some.injEq] at present
      rw [← present]
      exact knows other before shape old named
  | none =>
      rw [old, Option.none_or, List.lookup_cons] at present
      split at present
      · next same =>
          rw [Option.some.injEq] at present
          rw [← present]
          rw [beq_iff_eq.1 same] at named
          exact held shape named
      · cases present

/-- An entry of a record that was assembled was found, or it stands for an absent value. -/
theorem mem_of_assemble {fields : Fields} {found entries : List (String × Datum)}
    (assembled : fields.assemble found = .ok entries) :
    ∀ entry ∈ entries, entry ∈ found ∨ entry.2 = .null := by
  match fields with
  | .nil =>
      rw [assemble, Except.ok.injEq] at assembled
      rw [← assembled]
      exact fun _ absent => absurd absent List.not_mem_nil
  | .cons name _ shape rest =>
      obtain ⟨value, more, rfl, later, source⟩ := exists_of_assemble_cons assembled
      refine List.forall_mem_cons.2 ⟨source.imp (fun present => ?_) And.left, mem_of_assemble later⟩
      obtain ⟨before, after, split, _⟩ := List.lookup_eq_some_iff.1 present
      exact split ▸ List.mem_append_right _ List.mem_cons_self

end Fields

end Switchboard
