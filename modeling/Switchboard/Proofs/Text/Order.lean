import Mathlib.Tactic.SplitIfs
import Switchboard.Proofs.Text.Utf8

/-
This file shows that texts are ordered as their bytes are.
-/

namespace Switchboard.Text.Utf8

/-- The first bytes of two lists decide their order, unless they are the same. -/
theorem ofNat_cons_lt_iff {first second : Nat} (firstSmall : first < 256) (secondSmall : second < 256)
    {firstRest secondRest : Bytes} :
    UInt8.ofNat first :: firstRest < UInt8.ofNat second :: secondRest ↔
      first < second ∨ first = second ∧ firstRest < secondRest := by
  rw [List.cons_lt_cons_iff, UInt8.lt_iff_toNat_lt, ← UInt8.toNat_inj, toNat_byte first firstSmall,
    toNat_byte second secondSmall]

/-- A smaller character has smaller bytes, whatever follows both of them. -/
theorem encodeChar_append_lt {first second : Char} (smaller : first.toNat < second.toNat)
    (firstRest secondRest : Bytes) :
    encodeChar first ++ firstRest < encodeChar second ++ secondRest := by
  have firstBound := code_lt first
  have secondBound := code_lt second
  rw [encodeChar, encodeChar]
  -- The lead byte grows with the length of a form; within one form the places decide in turn.
  split_ifs
  all_goals
    simp (disch := omega) only [List.cons_append, ofNat_cons_lt_iff]
    omega

theorem encodeChars_lt {first second : List Char} (smaller : first < second) :
    encodeChars first < encodeChars second := by
  induction first generalizing second with
  | nil =>
      cases second with
      | nil => exact absurd smaller (List.not_lt_nil _)
      | cons character rest =>
          have nonempty : encodeChars (character :: rest) ≠ [] := by
            intro nothing
            have whole := pieces_encodeChars (character :: rest) []
            rw [nothing] at whole
            cases whole
          obtain ⟨byte, more, same⟩ := List.exists_cons_of_ne_nil nonempty
          rw [same]
          exact List.nil_lt_cons byte more
  | cons character first inductionHypothesis =>
      cases second with
      | nil => exact absurd smaller (List.not_lt_nil _)
      | cons other second =>
          rw [encodeChars_cons, encodeChars_cons]
          obtain below | ⟨rfl, later⟩ := List.cons_lt_cons_iff.1 smaller
          · exact encodeChar_append_lt below _ _
          · exact List.append_left_lt (inductionHypothesis later)

/-- Texts in ascending order have bytes in ascending order. -/
theorem encode_lt {first second : String} (smaller : first < second) :
    encode first < encode second :=
  encodeChars_lt (String.lt_iff.1 smaller)

end Switchboard.Text.Utf8
