import Switchboard.Json.Skip
import Switchboard.Proofs.Except
import Switchboard.Proofs.Json.Grammar

/-
This file shows that the digits of a number are read exactly as the grammar spells them, and that
they are skipped where they are read.
-/

namespace Switchboard.Json

section Numbers

variable {bytes rest : Bytes}

theorem startsWithDigit_dropWhile (bytes : Bytes) :
    startsWithDigit (bytes.dropWhile isDigit) = false := by
  induction bytes with
  | nil => rfl
  | cons byte bytes inductionHypothesis =>
      rw [List.dropWhile_cons]
      split
      · exact inductionHypothesis
      · next notDigit => exact eq_false_of_ne_true notDigit

/-- The digits behind a first one are taken as long as there are any. -/
theorem areDigits_takeWhile {first : UInt8} (digit : isDigit first = true) (bytes : Bytes) :
    AreDigits (first :: bytes.takeWhile isDigit) := by
  refine ⟨List.cons_ne_nil _ _, List.forall_mem_cons.2 ⟨digit, ?_⟩⟩
  exact fun byte member => List.mem_takeWhile_imp member

theorem exists_digit_of_startsWithDigit (starts : startsWithDigit bytes = true) :
    ∃ first more, bytes = first :: more ∧ isDigit first = true := by
  cases bytes with
  | nil => cases starts
  | cons first more => exact ⟨first, more, rfl, starts⟩

theorem readWhole_eq_ok {whole : Bytes} :
    readWhole bytes = .ok (whole, rest) ↔
      IsWhole whole ∧ startsWithDigit rest = false ∧ bytes = whole ++ rest := by
  constructor
  · intro read
    cases bytes with
    | nil => cases read
    | cons first bytes =>
        rw [readWhole] at read
        split at read
        · cases read
        · next digit =>
            rw [Bool.not_eq_false] at digit
            split at read
            · cases read
            · next single =>
                rw [Except.ok.injEq, Prod.mk.injEq] at read
                obtain ⟨rfl, rfl⟩ := read
                refine ⟨⟨areDigits_takeWhile digit bytes, ?_⟩, startsWithDigit_dropWhile bytes, ?_⟩
                · intro more same
                  rw [List.cons.injEq] at same
                  rw [Bool.and_eq_true, decide_eq_true_eq] at single
                  have stops : startsWithDigit bytes = false :=
                    eq_false_of_ne_true fun starts => single ⟨same.1, starts⟩
                  have nothing : ([] ++ bytes).takeWhile isDigit = [] :=
                    takeWhile_isDigit_append (fun _ member => absurd member List.not_mem_nil) stops
                  rw [← same.2]
                  exact nothing
                · rw [List.cons_append, List.takeWhile_append_dropWhile]
  · rintro ⟨isWhole, stops, rfl⟩
    obtain ⟨first, more, same⟩ := List.exists_cons_of_ne_nil isWhole.nonempty
    have all := isWhole.all
    rw [same] at all ⊢
    obtain ⟨digit, others⟩ := List.forall_mem_cons.1 all
    have single : (first = zero && startsWithDigit (more ++ rest)) = false := by
      by_cases isZero : first = zero
      · rw [isWhole.leading more (by rw [same, isZero]), List.nil_append, stops, Bool.and_false]
      · rw [decide_eq_false isZero, Bool.false_and]
    rw [List.cons_append, readWhole, digit, single, takeWhile_isDigit_append others stops,
      dropWhile_isDigit_append others stops]
    rfl

theorem spellsFraction_of_readFraction {digits : Bytes}
    (read : readFraction bytes = .ok (digits, rest)) :
    ∃ run, SpellsFraction run digits ∧ bytes = run ++ rest := by
  rw [readFraction.eq_def] at read
  split at read
  · rw [Except.ok.injEq, Prod.mk.injEq] at read
    obtain ⟨rfl, rfl⟩ := read
    exact ⟨[], .absent, rfl⟩
  · next byte more =>
      split at read
      · rw [Except.ok.injEq, Prod.mk.injEq] at read
        obtain ⟨rfl, rfl⟩ := read
        exact ⟨[], .absent, rfl⟩
      · next isPoint =>
          rw [not_not] at isPoint
          split at read
          · next starts =>
              rw [Except.ok.injEq, Prod.mk.injEq] at read
              obtain ⟨rfl, rfl⟩ := read
              obtain ⟨first, others, rfl, digit⟩ := exists_digit_of_startsWithDigit starts
              have all := areDigits_takeWhile digit others
              rw [List.takeWhile_cons_of_pos digit, List.dropWhile_cons_of_pos digit, isPoint]
              refine ⟨_, .digits all, ?_⟩
              rw [List.cons_append, List.cons_append, List.takeWhile_append_dropWhile]
          · split at read <;> cases read

theorem readFraction_of_spellsFraction {run digits : Bytes} (spelled : SpellsFraction run digits)
    (stops : startsWithDigit rest = false) (noPoint : ∀ more, rest ≠ point :: more) :
    readFraction (run ++ rest) = .ok (digits, rest) := by
  cases spelled with
  | absent =>
      rw [List.nil_append]
      cases rest with
      | nil => rfl
      | cons byte more =>
          have other : byte ≠ point := fun same => noPoint more (by rw [same])
          rw [readFraction.eq_def]
          exact if_pos other
  | digits all =>
      obtain ⟨first, more, same⟩ := List.exists_cons_of_ne_nil all.nonempty
      have starts : startsWithDigit (digits ++ rest) = true := by
        rw [same]
        exact all.all first (by rw [same]; exact List.mem_cons_self)
      rw [List.cons_append, readFraction.eq_def]
      simp only [ne_eq, not_true_eq_false, if_false, starts, if_true,
        takeWhile_isDigit_append all.all stops, dropWhile_isDigit_append all.all stops]

/-- The sign of an exponent stands in front of its digits, if it is there. -/
theorem readExponentSign_cases (bytes : Bytes) :
    (readExponentSign bytes = (true, bytes)) ∨
      ∃ sign more, (sign = plus ∨ sign = minus) ∧ bytes = sign :: more ∧
        readExponentSign bytes = (decide (sign = plus), more) := by
  cases bytes with
  | nil => exact .inl rfl
  | cons byte bytes =>
      by_cases isPlus : byte = plus
      · refine .inr ⟨byte, bytes, .inl isPlus, rfl, ?_⟩
        rw [readExponentSign, if_pos isPlus, decide_eq_true isPlus]
      · by_cases isMinus : byte = minus
        · refine .inr ⟨byte, bytes, .inr isMinus, rfl, ?_⟩
          rw [readExponentSign, if_neg isPlus, if_pos isMinus, decide_eq_false isPlus]
        · refine .inl ?_
          rw [readExponentSign, if_neg isPlus, if_neg isMinus]

theorem spellsExponent_of_readExponent {parts : Option (Bool × Bytes)}
    (read : readExponent bytes = .ok (parts, rest)) :
    ∃ run, SpellsExponent run parts ∧ bytes = run ++ rest := by
  cases bytes with
  | nil =>
      rw [readExponent, Except.ok.injEq, Prod.mk.injEq] at read
      obtain ⟨rfl, rfl⟩ := read
      exact ⟨[], .absent, rfl⟩
  | cons letter bytes =>
      rw [readExponent] at read
      split at read
      · next isLetter =>
          rw [Bool.or_eq_true, decide_eq_true_eq, decide_eq_true_eq] at isLetter
          simp only at read
          split at read
          · cases read
          · next digit more behind =>
              split at read
              · next isFirst =>
                  rw [Except.ok.injEq, Prod.mk.injEq] at read
                  obtain ⟨rfl, rfl⟩ := read
                  have all := areDigits_takeWhile isFirst more
                  obtain noSign | ⟨sign, others, isSign, rfl, signed⟩ :=
                    readExponentSign_cases bytes
                  · rw [noSign] at behind ⊢
                    refine ⟨_, .unsigned isLetter all, ?_⟩
                    rw [show bytes = digit :: more from behind, List.cons_append, List.cons_append,
                      List.takeWhile_append_dropWhile]
                  · rw [signed] at behind ⊢
                    refine ⟨_, .signed isLetter isSign all, ?_⟩
                    rw [show others = digit :: more from behind, List.cons_append,
                      List.cons_append, List.cons_append, List.takeWhile_append_dropWhile]
              · cases read
      · rw [Except.ok.injEq, Prod.mk.injEq] at read
        obtain ⟨rfl, rfl⟩ := read
        exact ⟨[], .absent, rfl⟩

theorem readExponent_of_spellsExponent {run : Bytes} {parts : Option (Bool × Bytes)}
    (spelled : SpellsExponent run parts) (ends : endsNumber rest) :
    readExponent (run ++ rest) = .ok (parts, rest) := by
  have stops := not_startsWithDigit ends
  -- both forms with digits read them alike, once it is known what the sign is
  have read {letter first : UInt8} {others after : Bytes} {positive : Bool}
      (isLetter : letter = letterE ∨ letter = 0x45)
      (digit : isDigit first = true) (all : ∀ byte ∈ others, isDigit byte = true)
      (signed : readExponentSign after = (positive, first :: (others ++ rest))) :
      readExponent (letter :: after) = .ok (some (positive, first :: others), rest) := by
    have marked : (decide (letter = letterE) || decide (letter = 0x45)) = true := by
      rw [Bool.or_eq_true, decide_eq_true_eq, decide_eq_true_eq]
      exact isLetter
    rw [readExponent, marked, signed]
    simp only [if_true, digit, takeWhile_isDigit_append all stops,
      dropWhile_isDigit_append all stops]
  cases spelled with
  | absent =>
      rw [List.nil_append]
      exact readExponent_of_endsNumber ends
  | unsigned isLetter all =>
      obtain ⟨first, others, rfl⟩ := List.exists_cons_of_ne_nil all.nonempty
      obtain ⟨digit, more⟩ := List.forall_mem_cons.1 all.all
      refine read isLetter digit more ?_
      obtain noSign | ⟨sign, after, isSign, same, _⟩ :=
        readExponentSign_cases (first :: others ++ rest)
      · exact noSign
      · rw [List.cons_append, List.cons.injEq] at same
        rcases isSign with isPlus | isMinus
        · rw [same.1, isPlus] at digit
          cases digit
        · rw [same.1, isMinus] at digit
          cases digit
  | @signed letter sign digits isLetter isSign all =>
      obtain ⟨first, others, rfl⟩ := List.exists_cons_of_ne_nil all.nonempty
      obtain ⟨digit, more⟩ := List.forall_mem_cons.1 all.all
      refine read isLetter digit more ?_
      rcases isSign with rfl | rfl <;> rfl

theorem spells_of_readNumberToken {token : NumberToken}
    (read : readNumberToken bytes = .ok (token, rest)) :
    ∃ spelling, Spells spelling token ∧ bytes = spelling ++ rest := by
  rw [readNumberToken] at read
  obtain ⟨⟨whole, behindWhole⟩, first, later⟩ := bind_eq_ok.1 read
  obtain ⟨⟨fraction, behindFraction⟩, second, last⟩ := bind_eq_ok.1 later
  obtain ⟨⟨exponent, behind⟩, third, ended⟩ := bind_eq_ok.1 last
  simp only [pure_eq_ok, Except.ok.injEq, Prod.mk.injEq] at ended
  obtain ⟨rfl, rfl⟩ := ended
  obtain ⟨isWhole, _, rfl⟩ := readWhole_eq_ok.1 first
  obtain ⟨fractionRun, isFraction, rfl⟩ := spellsFraction_of_readFraction second
  obtain ⟨exponentRun, isExponent, rfl⟩ := spellsExponent_of_readExponent third
  refine ⟨_, .parts isWhole isFraction isExponent, ?_⟩
  simp only [List.append_assoc]

/-- A spelled number is read up to the byte that ends it. -/
theorem readNumberToken_of_spells {spelling : Bytes} {token : NumberToken}
    (spelled : Spells spelling token) (ends : endsNumber rest) :
    readNumberToken (spelling ++ rest) = .ok (token, rest) := by
  obtain @⟨whole, fraction, exponent, _, _, isWhole, isFraction, isExponent⟩ := spelled
  have behindFraction : startsWithDigit (exponent ++ rest) = false ∧
      ∀ more, exponent ++ rest ≠ point :: more := by
    cases isExponent with
    | absent =>
        refine ⟨not_startsWithDigit ends, fun more same => ?_⟩
        rw [List.nil_append] at same
        rw [same] at ends
        cases ends
    | unsigned isLetter all =>
        rcases isLetter with rfl | rfl <;> exact ⟨rfl, fun more same => by cases same⟩
    | signed isLetter isSign all =>
        rcases isLetter with rfl | rfl <;> exact ⟨rfl, fun more same => by cases same⟩
  have behindWhole : startsWithDigit (fraction ++ (exponent ++ rest)) = false := by
    cases isFraction with
    | absent => exact behindFraction.1
    | digits all => rfl
  rw [List.append_assoc, List.append_assoc, readNumberToken,
    readWhole_eq_ok.2 ⟨isWhole, behindWhole, rfl⟩]
  simp only [ok_bind,
    readFraction_of_spellsFraction isFraction behindFraction.1 behindFraction.2,
    readExponent_of_spellsExponent isExponent ends, pure_eq_ok]

end Numbers

section Skip

variable {bytes rest : Bytes}

theorem skipWhole_of_readWhole {whole : Bytes} (read : readWhole bytes = .ok (whole, rest)) :
    skipWhole bytes = .ok ((), rest) := by
  cases bytes with
  | nil => cases read
  | cons first bytes =>
      rw [readWhole] at read
      rw [skipWhole]
      split at read
      · cases read
      · next digit =>
          rw [if_neg digit]
          split at read
          · cases read
          · next single =>
              cases read
              exact if_neg single

theorem skipFraction_of_readFraction {digits : Bytes}
    (read : readFraction bytes = .ok (digits, rest)) : skipFraction bytes = .ok ((), rest) := by
  cases bytes with
  | nil =>
      cases read
      rfl
  | cons byte bytes =>
      rw [readFraction.eq_def] at read
      rw [skipFraction]
      dsimp only at read
      split at read
      · next notPoint =>
          cases read
          exact if_pos notPoint
      · next isPoint =>
          rw [if_neg isPoint]
          split at read
          · next starts =>
              cases read
              exact if_pos starts
          · split at read <;> cases read

theorem skipExponent_of_readExponent {parts : Option (Bool × Bytes)}
    (read : readExponent bytes = .ok (parts, rest)) : skipExponent bytes = .ok ((), rest) := by
  cases bytes with
  | nil =>
      cases read
      rfl
  | cons letter bytes =>
      rw [readExponent] at read
      rw [skipExponent]
      generalize readExponentSign bytes = signed at read ⊢
      obtain ⟨positive, digits⟩ := signed
      by_cases isLetter : (letter = letterE || letter = 0x45) = true
      · rw [if_pos isLetter] at read ⊢
        cases digits with
        | nil => cases read
        | cons digit digits =>
            dsimp only at read ⊢
            by_cases isFirst : isDigit digit = true
            · rw [if_pos isFirst] at read ⊢
              cases read
              rfl
            · rw [if_neg isFirst] at read
              cases read
      · rw [if_neg isLetter] at read ⊢
        cases read
        rfl

/-- What is read as a number can be skipped as well. -/
theorem skipNumber_of_readNumberToken {token : NumberToken}
    (read : readNumberToken bytes = .ok (token, rest)) : skipNumber bytes = .ok ((), rest) := by
  rw [readNumberToken] at read
  obtain ⟨⟨whole, behindWhole⟩, first, later⟩ := bind_eq_ok.1 read
  obtain ⟨⟨fraction, behindFraction⟩, second, last⟩ := bind_eq_ok.1 later
  obtain ⟨⟨exponent, behind⟩, third, ended⟩ := bind_eq_ok.1 last
  simp only [pure_eq_ok, Except.ok.injEq, Prod.mk.injEq] at ended
  obtain ⟨_, rfl⟩ := ended
  rw [skipNumber, skipWhole_of_readWhole first]
  simp only [ok_bind, skipFraction_of_readFraction second, skipExponent_of_readExponent third]

end Skip

end Switchboard.Json
