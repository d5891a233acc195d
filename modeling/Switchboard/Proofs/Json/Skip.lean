import Switchboard.Proofs.Json.Digits
import Switchboard.Proofs.Json.Outline

/-
This file shows that a JSON value is skipped whole if it has an outline, whatever it holds and
however deep it nests.
-/

namespace Switchboard.Json

section Text

/-- Every byte that stands for itself and every escape takes one element of the bound. -/
theorem skipContent_of_loose {raw : Bytes} (loose : LooseContent raw) {bound : Bytes}
    (room : raw.length < bound.length) (rest : Bytes) :
    skipContent bound (raw ++ quote :: rest) = .ok ((), rest) := by
  induction loose generalizing bound with
  | empty =>
      cases bound with
      | nil => simp at room
      | cons mark bound => rw [List.nil_append, skipContent, if_pos rfl]
  | plain isPlain _ inductionHypothesis =>
      obtain ⟨notQuote, notBackslash, notControl⟩ := isPlain
      cases bound with
      | nil => simp at room
      | cons mark bound =>
          rw [List.cons_append, skipContent, if_neg notQuote, if_neg notBackslash,
            if_neg notControl]
          exact inductionHypothesis (Nat.lt_of_succ_lt_succ room)
  | @simple mark value raw named _ inductionHypothesis =>
      cases bound with
      | nil => simp at room
      | cons first bound =>
          have escaped : skipEscape (mark :: (raw ++ quote :: rest)) =
              .ok ((), raw ++ quote :: rest) := by
            simp only [skipEscape, named]
          rw [List.length_cons, List.length_cons, List.length_cons] at room
          rw [List.cons_append, List.cons_append, skipContent, if_neg (by decide), if_pos rfl,
            escaped, ok_bind]
          exact inductionHypothesis (by omega)
  | @numeric digits raw unit spelled _ inductionHypothesis =>
      cases bound with
      | nil => simp at room
      | cons first bound =>
          have noName : simpleEscape? letterU = none := by decide
          have read : readFourHex (digits ++ (raw ++ quote :: rest)) =
              .ok (unit, raw ++ quote :: rest) :=
            readFourHex_eq_ok.2 ⟨digits, spelled, rfl⟩
          have escaped : skipEscape (letterU :: (digits ++ (raw ++ quote :: rest))) =
              .ok ((), raw ++ quote :: rest) := by
            simp only [skipEscape, noName, if_true, skipNumericEscape, read, ok_bind, pure_eq_ok]
          rw [List.length_cons, List.length_cons, List.length_append, List.length_cons] at room
          rw [List.cons_append, List.cons_append, List.append_assoc, skipContent,
            if_neg (by decide), if_pos rfl, escaped, ok_bind]
          exact inductionHypothesis (by omega)

/-- A text is skipped after its opening quote. -/
theorem skipText_of_loose {raw : Bytes} (loose : LooseContent raw) (rest : Bytes) :
    skipText (raw ++ quote :: rest) = .ok ((), rest) := by
  refine skipContent_of_loose loose ?_ rest
  rw [List.length_append, List.length_cons]
  omega

end Text

section Steps

/-- After a value, skipping goes on with the brackets that are still open. -/
def skipOn (bound : Bytes) (frames : List Frame) : Reader Unit := fun bytes => do
  let (remaining, rest) ← skipAfterValue frames bytes
  match remaining with
  | [] => return ((), rest)
  | frame :: outer => skipSteps bound (frame :: outer) rest

theorem skipSteps_of_value {frames : List Frame} {bytes rest : Bytes}
    (step : skipStep frames bytes = skipAfterValue frames rest) (mark : UInt8) (bound : Bytes) :
    skipSteps (mark :: bound) frames bytes = skipOn bound frames rest := by
  rw [skipSteps, step]
  rfl

theorem skipSteps_of_opened {frames : List Frame} {frame : Frame} {bytes rest : Bytes}
    (step : skipStep frames bytes = .ok (frame :: frames, rest)) (mark : UInt8) (bound : Bytes) :
    skipSteps (mark :: bound) frames bytes = skipSteps bound (frame :: frames) rest := by
  rw [skipSteps, step, ok_bind]

theorem skipBlanks_close (frame : Frame) (rest : Bytes) :
    skipBlanks (frame.close :: rest) = frame.close :: rest := by
  cases frame with
  | list => rfl
  | object => rfl

theorem endsNumber_close (frame : Frame) (rest : Bytes) : endsNumber (frame.close :: rest) := by
  cases frame with
  | list => rfl
  | object => rfl

/-- A closing bracket ends the innermost frame. -/
theorem skipAfterValue_close {blanks : Bytes} (all : AreBlanks blanks) (frame : Frame)
    (outer : List Frame) (rest : Bytes) :
    skipAfterValue (frame :: outer) (blanks ++ frame.close :: rest) =
      skipAfterValue outer rest := by
  rw [skipAfterValue, skipBlanks_append all, skipBlanks_close]
  cases frame with
  | list => rfl
  | object => rfl

/-- A comma announces one more value in the innermost frame. -/
theorem skipAfterValue_comma {blanks : Bytes} (all : AreBlanks blanks) (frame : Frame)
    (outer : List Frame) (rest : Bytes) :
    skipAfterValue (frame :: outer) (blanks ++ comma :: rest) = (do
      let (_, rest) ← frame.skipToValue rest
      return (frame :: outer, rest)) := by
  rw [skipAfterValue, skipBlanks_append all, skipBlanks_cons (by decide)]
  rfl

variable {frames : List Frame} {rest : Bytes}

/-- Blanks in front of a value do not count. -/
theorem skipStep_append {blanks : Bytes} (all : AreBlanks blanks) (frames : List Frame)
    (bytes : Bytes) : skipStep frames (blanks ++ bytes) = skipStep frames bytes := by
  rw [skipStep, skipBlanks_append all, skipStep]

/-- A value without brackets is skipped in one step. -/
theorem Bare.skipStep {bytes : Bytes} (bare : Bare bytes) (ends : endsNumber rest) :
    skipStep frames (bytes ++ rest) = skipAfterValue frames rest := by
  cases bare with
  | null | boolTrue | boolFalse => rfl
  | positive spelled =>
      have skipped := skipNumber_of_readNumberToken (readNumberToken_of_spells spelled ends)
      obtain ⟨first, more, rfl, digit⟩ := spelled.exists_cons
      obtain ⟨solid, notQuote, notObject, notList⟩ := not_special_of_isDigit digit
      rw [List.cons_append] at skipped ⊢
      rw [Json.skipStep, skipBlanks_cons solid]
      simp only [if_neg notQuote, if_neg notObject, if_neg notList, digit, if_true, skipped,
        ok_bind]
  | negative spelled =>
      have skipped := skipNumber_of_readNumberToken (readNumberToken_of_spells spelled ends)
      rw [List.cons_append, Json.skipStep, skipBlanks_cons (by decide)]
      simp only [if_neg (show ¬ minus = quote by decide),
        if_neg (show ¬ minus = openObject by decide), if_neg (show ¬ minus = openList by decide),
        if_neg (show ¬ isDigit minus = true by decide), if_true, skipped, ok_bind]
  | text content =>
      rw [List.cons_append, List.append_assoc, List.singleton_append, Json.skipStep,
        skipBlanks_cons (by decide)]
      simp only [if_true, skipText_of_loose content, ok_bind]

/-- A bracket opens a frame. -/
theorem skipStep_opening (frame : Frame) (frames : List Frame) (bytes : Bytes) :
    skipStep frames (frame.opening :: bytes) = skipOpened frame frames bytes := by
  cases frame with
  | list => rfl
  | object => rfl

end Steps

section Members

variable {frame : Frame} {lead : Bytes}

/-- The blanks before a value may be left over, but its key is skipped with the colon behind it. -/
theorem Lead.skipToValue (isLead : Lead frame lead) (bytes : Bytes) :
    ∃ blanks, AreBlanks blanks ∧ frame.skipToValue (lead ++ bytes) = .ok ((), blanks ++ bytes) := by
  cases isLead with
  | item all => exact ⟨_, all, rfl⟩
  | @entry before raw between after isBefore isKey isBetween isAfter =>
      refine ⟨after, isAfter, ?_⟩
      simp only [List.append_assoc, List.cons_append]
      rw [Frame.skipToValue, skipBlanks_append isBefore, skipBlanks_cons (by decide)]
      simp only [if_neg (show ¬ quote ≠ quote from fun other => other rfl),
        skipText_of_loose isKey, ok_bind, skipBlanks_append isBetween,
        skipBlanks_cons (show isBlank colon = false by decide), if_true]
      rfl

/-- A first member keeps a bracket open that could have closed at once. -/
theorem Lead.skipOpened (isLead : Lead frame lead) {bytes : Bytes} (starts : StartsItem bytes)
    (outer : List Frame) :
    ∃ blanks, AreBlanks blanks ∧
      Json.skipOpened frame outer (lead ++ bytes) = .ok (frame :: outer, blanks ++ bytes) := by
  cases isLead with
  | item all =>
      obtain ⟨byte, more, rfl, solid, notClose⟩ := starts
      refine ⟨[], areBlanks_nil, ?_⟩
      rw [Json.skipOpened, skipBlanks_append all, skipBlanks_cons solid]
      simp only [if_neg (show ¬ byte = Frame.list.close from notClose)]
      rfl
  | @entry before raw between after isBefore isKey isBetween isAfter =>
      have opened : Lead .object ([] ++ quote :: (raw ++ quote :: (between ++ colon :: after))) :=
        .entry areBlanks_nil isKey isBetween isAfter
      obtain ⟨blanks, all, skipped⟩ := opened.skipToValue bytes
      refine ⟨blanks, all, ?_⟩
      rw [List.nil_append, List.cons_append] at skipped
      rw [List.append_assoc, List.cons_append, Json.skipOpened, skipBlanks_append isBefore,
        skipBlanks_cons (by decide)]
      simp only [if_neg (show ¬ quote = Frame.object.close by decide), skipped, ok_bind]
      rfl

end Members

section Values

/--
A value behind blanks is skipped within the bound, and what is taken from the bound is not more than
the value is long.
-/
def IsStepped (bytes : Bytes) : Prop :=
  ∀ bound blanks frames rest, AreBlanks blanks → bytes.length ≤ bound.length → endsNumber rest →
    ∃ left, bound.length ≤ left.length + bytes.length ∧
      skipSteps bound frames (blanks ++ (bytes ++ rest)) = skipOn left frames rest

variable {value : Bytes → Prop} (starts : ∀ bytes, value bytes → StartsItem bytes)
  (stepped : ∀ bytes, value bytes → IsStepped bytes) {frame : Frame} {bound : Bytes}

include stepped in
/-- Behind a member all members that follow are skipped, and the bracket is closed. -/
theorem skipOn_behind {blanks behind : Bytes} {units : List Unit} (all : AreBlanks blanks)
    (isBehind : Behind (Member frame value) behind units) (room : behind.length ≤ bound.length)
    (outer : List Frame) (rest : Bytes) :
    ∃ left, bound.length ≤ left.length + behind.length ∧
      skipOn bound (frame :: outer) (blanks ++ (behind ++ frame.close :: rest)) =
        skipOn left outer rest := by
  have ends := endsNumber_close frame rest
  induction units generalizing bound blanks behind with
  | nil =>
      refine ⟨bound, Nat.le_add_right _ _, ?_⟩
      rw [isBehind.eq_nil, List.nil_append, skipOn, skipAfterValue_close all]
      rfl
  | cons _ units inductionHypothesis =>
      obtain ⟨_, behind, @⟨lead, token, after, isLead, isValue, isAfter⟩, isLater, rfl⟩ :=
        isBehind.exists_part
      obtain ⟨between, isBetween, led⟩ :=
        isLead.skipToValue (token ++ (after ++ (behind ++ frame.close :: rest)))
      simp only [List.length_append, List.length_cons] at room
      obtain ⟨middle, takenFirst, skipped⟩ := stepped token isValue bound between
        (frame :: outer) _ isBetween (by omega) (isLater.endsNumber isAfter ends)
      have short : behind.length ≤ middle.length := by omega
      obtain ⟨left, takenLater, closed⟩ := inductionHypothesis isAfter isLater short
      refine ⟨left, ?_, ?_⟩
      · simp only [List.length_append, List.length_cons]
        omega
      · simp only [List.append_assoc, List.cons_append]
        rw [skipOn, skipAfterValue_comma all, led, ← closed, ← skipped]
        rfl

include starts stepped in
/-- A bracket is skipped with all that stands in it. -/
theorem Enclosed.isStepped {bytes : Bytes} (enclosed : Enclosed value bytes) :
    IsStepped bytes := by
  intro bound blanks frames rest all room ends
  cases bound with
  | nil => cases enclosed <;> simp at room
  | cons mark bound =>
  cases enclosed with
  | empty frame inside =>
      refine ⟨bound, ?_, ?_⟩
      · simp only [List.length_append, List.length_cons]
        omega
      refine skipSteps_of_value ?_ mark bound
      rw [skipStep_append all, List.cons_append, skipStep_opening, List.append_assoc,
        List.singleton_append, skipOpened, skipBlanks_append inside, skipBlanks_close]
      simp only [if_true]
  | @members frame inner units isInner =>
      obtain ⟨_, behind, _, others, rfl, @⟨lead, token, after, isLead, isValue, isAfter⟩,
        isBehind, rfl⟩ := isInner.exists_behind
      obtain ⟨between, isBetween, opened⟩ := isLead.skipOpened
        ((starts token isValue).append (after ++ (behind ++ frame.close :: rest))) frames
      simp only [List.length_append, List.length_cons] at room
      obtain ⟨middle, takenFirst, skipped⟩ := stepped token isValue bound between
        (frame :: frames) _ isBetween (by omega)
        (isBehind.endsNumber isAfter (endsNumber_close frame rest))
      have short : behind.length ≤ middle.length := by omega
      obtain ⟨left, takenLater, closed⟩ := skipOn_behind stepped isAfter isBehind short frames rest
      refine ⟨left, ?_, ?_⟩
      · simp only [List.length_append, List.length_cons]
        omega
      rw [← closed, ← skipped]
      refine skipSteps_of_opened ?_ mark bound
      rw [skipStep_append all, List.cons_append, skipStep_opening]
      simp only [List.append_assoc, List.cons_append, List.nil_append]
      exact opened

end Values

section Outlines

theorem Bare.isStepped {bytes : Bytes} (bare : Bare bytes) : IsStepped bytes := by
  intro bound blanks frames rest all room ends
  have positive := bare.startsItem.length_pos
  cases bound with
  | nil =>
      rw [List.length_nil] at room
      omega
  | cons mark bound =>
      refine ⟨bound, by rw [List.length_cons]; omega, ?_⟩
      refine skipSteps_of_value ?_ mark bound
      rw [skipStep_append all]
      exact bare.skipStep ends

/-- The induction is on the brackets that nest, and the bound is shared by all of them. -/
theorem Outline.isStepped {depth : Nat} {bytes : Bytes} (outline : Outline depth bytes) :
    IsStepped bytes := by
  induction depth generalizing bytes with
  | zero => exact Bare.isStepped outline
  | succ depth inductionHypothesis =>
      obtain bare | enclosed := outline
      · exact bare.isStepped
      · exact enclosed.isStepped (fun _ inner => inner.startsItem) fun _ => inductionHypothesis

/-- No reader is needed for a value that is skipped, and blanks may stand in front of it. -/
def IsSkipped (bytes : Bytes) : Prop :=
  ∀ before rest, AreBlanks before → endsNumber rest →
    skipValue (before ++ (bytes ++ rest)) = .ok ((), rest)

theorem Outline.isSkipped {depth : Nat} {bytes : Bytes} (outline : Outline depth bytes) :
    IsSkipped bytes := by
  intro before rest all ends
  have room : bytes.length ≤ (before ++ (bytes ++ rest)).length := by
    simp only [List.length_append]
    omega
  obtain ⟨left, _, skipped⟩ := outline.isStepped _ before [] rest all room ends
  rw [skipValue, skipped]
  rfl

/-- What is written is skipped, whether or not it can be read back. -/
theorem isSkipped_write {datum : Datum} {payload : Bytes} (written : write datum = .ok payload) :
    IsSkipped payload :=
  (outline_write datum.depth (Nat.le_refl _) written).isSkipped

end Outlines

end Switchboard.Json
