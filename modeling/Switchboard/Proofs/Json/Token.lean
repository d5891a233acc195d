import Switchboard.Proofs.Json.Content
import Switchboard.Proofs.Json.Digits
import Switchboard.Proofs.Json.RoundTrip

/-
This file shows that the numbers of a JSON payload, and with them all values without brackets, are
read exactly as the grammar spells them.
-/

namespace Switchboard.Json

section Denotation

variable {negative : Bool} {token : NumberToken}

/-- Digits whose whole number exceeds the bound are not all taken. -/
theorem accumulate_of_lt {bound : Nat} {held : Nat} {digits : Bytes} (fits : held ≤ bound)
    (beyond : bound < digitsValue held digits) :
    ∃ number digit rest, accumulate bound held digits = (number, digit :: rest) := by
  induction digits generalizing held with
  | nil => exact absurd beyond (Nat.not_lt.2 fits)
  | cons digit digits inductionHypothesis =>
      rw [accumulate]
      split
      · next within => exact inductionHypothesis within beyond
      · exact ⟨held, digit, digits, rfl⟩

/-- Scaling by a power of ten never gives an integer. -/
theorem evaluateParts_ne_integer (negative : Bool) (significand : Nat) (exponent value : Int) :
    evaluateParts negative significand exponent ≠ .ok (.integer value) := by
  rw [evaluateParts]
  split <;> exact fun same => by cases same

theorem evaluateExponent_ne_integer (negative : Bool) (significand : Nat) (exponent : Int)
    (positive : Bool) (digits : Bytes) (value : Int) :
    evaluateExponent negative significand exponent positive digits ≠ .ok (.integer value) := by
  simp only [evaluateExponent]
  split
  · exact evaluateParts_ne_integer _ _ _ _
  · split <;> exact fun same => by cases same

/-- A significand of 64 bits is an integer under its sign, if the sign leaves room for it. -/
theorem evaluateWhole_eq_integer {magnitude : Nat} {value : Int} :
    evaluateWhole negative magnitude = .integer value ↔
      (if negative then
        if magnitude ≠ 0 ∧ magnitude ≤ 9223372036854775808 then some (-(magnitude : Int)) else none
      else some (magnitude : Int)) = some value := by
  rw [evaluateWhole]
  cases negative with
  | false => simp only [if_true, Bool.false_eq_true, if_false, Number.integer.injEq,
      Option.some.injEq]
  | true =>
      simp only [Bool.true_eq_false, if_false, if_true, Bool.or_eq_true, decide_eq_true_eq]
      by_cases outside : magnitude = 0 ∨ 9223372036854775808 < magnitude
      · rw [if_pos outside, if_neg (by omega)]
        exact ⟨(fun same => by cases same), fun same => by cases same⟩
      · rw [if_neg outside, if_pos (by omega), Number.integer.injEq, Option.some.injEq]

/-- A token is evaluated to an integer exactly if it denotes one. -/
theorem evaluate_eq_integer {value : Int} :
    token.evaluate negative = .ok (.integer value) ↔ token.integer? negative = some value := by
  obtain ⟨whole, fraction, exponent⟩ := token
  cases exponent with
  | some parts =>
      rw [NumberToken.integer?, if_neg (fun both => by cases both.2)]
      exact ⟨fun same => absurd same (evaluateExponent_ne_integer _ _ _ _ _ _), nofun⟩
  | none =>
      by_cases noFraction : fraction = []
      · rw [NumberToken.integer?, if_pos ⟨noFraction, rfl⟩]
        by_cases within : digitsValue 0 whole ≤ significandBound
        · have evaluated : (NumberToken.mk whole fraction none).evaluate negative =
              .ok (evaluateWhole negative (digitsValue 0 whole)) := by
            simp only [NumberToken.evaluate, accumulate_of_le 0 whole within, noFraction,
              accumulate, decide_true, Bool.and_self, if_true]
          rw [evaluated, Except.ok.injEq, evaluateWhole_eq_integer]
          simp only [if_pos (show digitsValue 0 whole ≤ 18446744073709551615 from within)]
        · obtain ⟨number, digit, rest, left⟩ :=
            accumulate_of_lt (Nat.zero_le _) (Nat.lt_of_not_le within)
          rw [significandBound] at within
          have outside : ¬ digitsValue 0 whole ≤ 9223372036854775808 := by omega
          simp only [NumberToken.evaluate, left, if_neg within, outside, and_false, if_false]
          refine ⟨fun same => ?_, ?_⟩
          · simp only [decide_false, reduceCtorEq, Bool.and_false, Bool.false_eq_true,
              if_false] at same
            exact absurd same (evaluateParts_ne_integer _ _ _ _)
          · split <;> nofun
      · rw [NumberToken.integer?, if_neg (fun both => noFraction both.1)]
        refine ⟨fun same => ?_, nofun⟩
        simp only [NumberToken.evaluate, decide_eq_false noFraction, Bool.false_and,
          Bool.false_eq_true, if_false] at same
        exact absurd same (evaluateParts_ne_integer _ _ _ _)

/-- A token is evaluated to what it denotes. -/
theorem exists_evaluate_iff {datum : Datum} :
    (∃ number, token.evaluate negative = .ok number ∧ (Head.number number).scalar = datum) ↔
      Denotes negative token datum := by
  constructor
  · rintro ⟨number, evaluated, rfl⟩
    cases number with
    | integer value => exact .integer (evaluate_eq_integer.1 evaluated)
    | float value =>
        refine .float ?_ (by rw [NumberToken.float?, evaluated])
        cases held : token.integer? negative with
        | none => rfl
        | some integer =>
            rw [evaluate_eq_integer.2 held] at evaluated
            cases evaluated
  · rintro (⟨held⟩ | ⟨notHeld, converted⟩)
    · exact ⟨_, evaluate_eq_integer.2 held, rfl⟩
    · rw [NumberToken.float?] at converted
      split at converted
      · next number evaluated =>
          rw [Option.some.injEq] at converted
          exact ⟨_, evaluated, by rw [← converted]; rfl⟩
      · cases converted

end Denotation

section Heads

/-- A head is a scalar as a whole, or it leaves an opening bracket unread. -/
inductive IsHead : Head → Bytes → Bytes → Prop where
  | openList (rest : Bytes) : IsHead .openList (openList :: rest) (openList :: rest)
  | openObject (rest : Bytes) : IsHead .openObject (openObject :: rest) (openObject :: rest)
  | scalar {head : Head} {token rest : Bytes} (whole : head.isScalar)
    (isScalar : Scalar token head.scalar) : IsHead head (token ++ rest) rest

theorem readLiteral_eq_ok {expected bytes rest : Bytes}
    (read : readLiteral expected bytes = .ok ((), rest)) : bytes = expected ++ rest := by
  induction expected generalizing bytes with
  | nil =>
      rw [readLiteral, Except.ok.injEq, Prod.mk.injEq] at read
      exact read.2
  | cons byte expected inductionHypothesis =>
      cases bytes with
      | nil => cases read
      | cons first bytes =>
          rw [readLiteral] at read
          split at read
          · next same => rw [same, inductionHypothesis read, List.cons_append]
          · cases read

theorem readNumber_eq_ok {negative : Bool} {bytes rest : Bytes} {number : Number}
    (read : readNumber negative bytes = .ok (number, rest)) :
    ∃ spelling token, Spells spelling token ∧
      Denotes negative token (Head.number number).scalar ∧ bytes = spelling ++ rest := by
  rw [readNumber] at read
  obtain ⟨⟨token, after⟩, spelled, evaluated⟩ := bind_eq_ok.1 read
  obtain ⟨spelling, spells, rfl⟩ := spells_of_readNumberToken spelled
  simp only at evaluated
  split at evaluated
  · next found same =>
      rw [pure_eq_ok, Except.ok.injEq, Prod.mk.injEq] at evaluated
      obtain ⟨rfl, rfl⟩ := evaluated
      exact ⟨spelling, token, spells, exists_evaluate_iff.1 ⟨_, same, rfl⟩, rfl⟩
  · cases evaluated

theorem readNumber_of_spells {negative : Bool} {spelling rest : Bytes} {token : NumberToken}
    {datum : Datum} (spells : Spells spelling token) (denotes : Denotes negative token datum)
    (ends : endsNumber rest) :
    ∃ number, (Head.number number).scalar = datum ∧
      readNumber negative (spelling ++ rest) = .ok (number, rest) := by
  obtain ⟨number, evaluated, same⟩ := exists_evaluate_iff.2 denotes
  refine ⟨number, same, ?_⟩
  rw [readNumber, readNumberToken_of_spells spells ends, ok_bind]
  simp only [evaluated, pure_eq_ok]

/-- A literal is known by its first letter and has to go on as it starts. -/
theorem isHead_of_readLiteral {head found : Head} {letter : UInt8} {expected bytes rest : Bytes}
    (whole : head.isScalar) (isScalar : Scalar (letter :: expected) head.scalar)
    (read : (do
      let (_, after) ← readLiteral expected bytes
      return (head, after)) = (.ok (found, rest) : Except Fault (Head × Bytes))) :
    IsHead found (letter :: bytes) rest := by
  obtain ⟨⟨_, after⟩, literal, ended⟩ := bind_eq_ok.1 read
  simp only [pure_eq_ok, Except.ok.injEq, Prod.mk.injEq] at ended
  obtain ⟨rfl, rfl⟩ := ended
  rw [readLiteral_eq_ok literal, ← List.cons_append]
  exact .scalar whole isScalar

/-- A head that is read is told by the bytes behind the blanks. -/
theorem isHead_of_readHead {bytes rest : Bytes} {head : Head}
    (read : readHead bytes = .ok (head, rest)) : IsHead head (skipBlanks bytes) rest := by
  rw [readHead] at read
  split at read
  · cases read
  next byte more skipped =>
  rw [skipped]
  split at read
  · next isQuote =>
      obtain ⟨⟨text, after⟩, inside, ended⟩ := bind_eq_ok.1 read
      simp only [pure_eq_ok, Except.ok.injEq, Prod.mk.injEq] at ended
      obtain ⟨rfl, rfl⟩ := ended
      obtain ⟨raw, content, rfl⟩ := readText_eq_ok.1 inside
      have whole : byte :: (raw ++ quote :: after) = quote :: raw ++ [quote] ++ after := by
        rw [isQuote, List.append_assoc, List.cons_append, List.singleton_append]
      rw [whole]
      exact .scalar rfl (.text (.quoted content))
  split at read
  · next isOpen =>
      rw [Except.ok.injEq, Prod.mk.injEq] at read
      obtain ⟨rfl, rfl⟩ := read
      rw [isOpen]
      exact .openObject more
  split at read
  · next isOpen =>
      rw [Except.ok.injEq, Prod.mk.injEq] at read
      obtain ⟨rfl, rfl⟩ := read
      rw [isOpen]
      exact .openList more
  split at read
  · obtain ⟨⟨number, after⟩, spelled, ended⟩ := bind_eq_ok.1 read
    simp only [pure_eq_ok, Except.ok.injEq, Prod.mk.injEq] at ended
    obtain ⟨rfl, rfl⟩ := ended
    obtain ⟨spelling, token, spells, denotes, same⟩ := readNumber_eq_ok spelled
    rw [same]
    exact .scalar rfl (.positive spells denotes)
  split at read
  · next isMinus =>
      obtain ⟨⟨number, after⟩, spelled, ended⟩ := bind_eq_ok.1 read
      simp only [pure_eq_ok, Except.ok.injEq, Prod.mk.injEq] at ended
      obtain ⟨rfl, rfl⟩ := ended
      obtain ⟨spelling, token, spells, denotes, rfl⟩ := readNumber_eq_ok spelled
      rw [isMinus, ← List.cons_append]
      exact .scalar rfl (.negative spells denotes)
  split at read
  · next isLetter =>
      rw [isLetter]
      exact isHead_of_readLiteral rfl .null read
  split at read
  · next isLetter =>
      rw [isLetter]
      exact isHead_of_readLiteral rfl .boolTrue read
  split at read
  · next isLetter =>
      rw [isLetter]
      exact isHead_of_readLiteral rfl .boolFalse read
  · cases read

/-- A number starts with a digit, which starts nothing else. -/
theorem readHead_of_spells {spelling rest : Bytes} {token : NumberToken} {datum : Datum}
    (spells : Spells spelling token) (denotes : Denotes false token datum)
    (ends : endsNumber rest) :
    ∃ head, readHead (spelling ++ rest) = .ok (head, rest) ∧ head.isScalar ∧
      head.scalar = datum := by
  obtain ⟨number, same, read⟩ := readNumber_of_spells spells denotes ends
  obtain ⟨first, more, rfl, digit⟩ : ∃ first more, spelling = first :: more ∧
      isDigit first = true := by
    obtain @⟨whole, fraction, exponent, _, _, isWhole, _, _⟩ := spells
    obtain ⟨first, others, rfl⟩ := List.exists_cons_of_ne_nil isWhole.nonempty
    exact ⟨first, _, rfl, isWhole.all first List.mem_cons_self⟩
  obtain ⟨solid, notQuote, notObject, notList⟩ := not_special_of_isDigit digit
  refine ⟨.number number, ?_, rfl, same⟩
  rw [List.cons_append] at read ⊢
  rw [readHead, skipBlanks_cons solid]
  simp only [if_neg notQuote, if_neg notObject, if_neg notList, digit, if_true, read, ok_bind,
    pure_eq_ok]

/-- A scalar is read up to its end; only a number has to be followed by something that ends it. -/
theorem readHead_of_scalar {token rest : Bytes} {datum : Datum} (isScalar : Scalar token datum)
    (ends : datum.isNumber → endsNumber rest) :
    ∃ head, readHead (token ++ rest) = .ok (head, rest) ∧ head.isScalar ∧
      head.scalar = datum := by
  have isNumber {negative : Bool} {spelled : NumberToken}
      (denotes : Denotes negative spelled datum) : datum.isNumber := by
    cases denotes <;> rfl
  cases isScalar with
  | null => exact ⟨.null, readHead_null rest, rfl, rfl⟩
  | boolTrue => exact ⟨.bool true, readHead_true rest, rfl, rfl⟩
  | boolFalse => exact ⟨.bool false, readHead_false rest, rfl, rfl⟩
  | positive spells denotes => exact readHead_of_spells spells denotes (ends (isNumber denotes))
  | negative spells denotes =>
      obtain ⟨number, same, read⟩ :=
        readNumber_of_spells spells denotes (ends (isNumber denotes))
      refine ⟨.number number, ?_, rfl, same⟩
      rw [List.cons_append, readHead, skipBlanks_cons (by decide)]
      simp only [if_neg (show ¬ minus = quote by decide),
        if_neg (show ¬ minus = openObject by decide), if_neg (show ¬ minus = openList by decide),
        if_neg (show ¬ isDigit minus = true by decide), if_true, read, ok_bind, pure_eq_ok]
  | @text bytes text isText =>
      obtain @⟨raw, _, content⟩ := isText
      have read : readText (raw ++ quote :: rest) = .ok (text, rest) :=
        readText_eq_ok.2 ⟨raw, content, rfl⟩
      refine ⟨.text text, ?_, rfl, rfl⟩
      rw [List.append_assoc, List.cons_append, readHead, skipBlanks_cons (by decide)]
      simp only [if_true, List.singleton_append, read, ok_bind, pure_eq_ok]

end Heads

end Switchboard.Json
