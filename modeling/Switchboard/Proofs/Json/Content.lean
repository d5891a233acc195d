import Switchboard.Proofs.Except
import Switchboard.Proofs.Json.Grammar
import Switchboard.Proofs.Text.Validity

/-
This file shows that the texts of a JSON payload are read exactly as the grammar spells them.
-/

namespace Switchboard.Json

open Text.Utf8

theorem readFourHex_eq_ok {bytes rest : Bytes} {unit : Nat} :
    readFourHex bytes = .ok (unit, rest) ↔
      ∃ digits, SpellsUnit digits unit ∧ bytes = digits ++ rest := by
  constructor
  · intro read
    match bytes with
    | first :: second :: third :: fourth :: bytes =>
        simp only [readFourHex] at read
        split at read
        · next one two three four isOne isTwo isThree isFour =>
            rw [Except.ok.injEq, Prod.mk.injEq] at read
            obtain ⟨rfl, rfl⟩ := read
            have weighed : ((one * 16 + two) * 16 + three) * 16 + four =
                one * 0x1000 + two * 0x100 + three * 0x10 + four := by omega
            rw [weighed]
            exact ⟨_, .digits isOne isTwo isThree isFour, rfl⟩
        · cases read
    | [] | [_] | [_, _] | [_, _, _] => cases read
  · rintro ⟨digits, ⟨isOne, isTwo, isThree, isFour⟩, rfl⟩
    simp only [List.cons_append, List.nil_append, readFourHex, isOne, isTwo, isThree, isFour,
      Except.ok.injEq, Prod.mk.injEq, and_true]
    omega

theorem readTrailingSurrogate_eq_ok {bytes rest : Bytes} {unit : Nat} :
    readTrailingSurrogate bytes = .ok (unit, rest) ↔
      ∃ digits, SpellsUnit digits unit ∧ isTrailingSurrogate unit = true ∧
        bytes = backslash :: letterU :: digits ++ rest := by
  constructor
  · intro read
    rw [readTrailingSurrogate.eq_def] at read
    split at read
    · cases read
    · split at read
      · cases read
      · next first more isBackslash =>
          split at read
          · cases read
          · split at read
            · cases read
            · next second more isLetter =>
                split at read
                · cases read
                · next unit after digits =>
                    split at read
                    · next trailing =>
                        rw [Except.ok.injEq, Prod.mk.injEq] at read
                        obtain ⟨rfl, rfl⟩ := read
                        obtain ⟨spelling, spelled, rfl⟩ := readFourHex_eq_ok.1 digits
                        rw [not_not] at isBackslash isLetter
                        exact ⟨spelling, spelled, trailing, by rw [isBackslash, isLetter]; rfl⟩
                    · cases read
  · rintro ⟨digits, spelled, trailing, rfl⟩
    have read : readFourHex (digits ++ rest) = .ok (unit, rest) :=
      readFourHex_eq_ok.2 ⟨digits, spelled, rfl⟩
    simp only [List.cons_append, readTrailingSurrogate, ne_eq, not_true_eq_false, if_false, read,
      trailing, if_true]

theorem readNumericEscape_eq_ok {bytes value rest : Bytes} :
    readNumericEscape bytes = .ok (value, rest) ↔
      ∃ run, NumericEscape run value ∧ bytes = run ++ rest := by
  rw [readNumericEscape]
  constructor
  · intro read
    obtain ⟨⟨unit, more⟩, digits, ended⟩ := bind_eq_ok.1 read
    obtain ⟨spelling, spelled, rfl⟩ := readFourHex_eq_ok.1 digits
    simp only at ended
    split at ended
    · cases ended
    · next notTrailing =>
        rw [Bool.not_eq_true] at notTrailing
        split at ended
        · next leading =>
            obtain ⟨⟨trailing, after⟩, second, paired⟩ := bind_eq_ok.1 ended
            obtain ⟨others, otherSpelled, isTrailing, rfl⟩ := readTrailingSurrogate_eq_ok.1 second
            rw [pure_eq_ok, Except.ok.injEq, Prod.mk.injEq] at paired
            obtain ⟨rfl, rfl⟩ := paired
            refine ⟨_, .pair spelled leading otherSpelled isTrailing, ?_⟩
            simp only [List.append_assoc, List.cons_append]
        · next notLeading =>
            rw [Bool.not_eq_true] at notLeading
            rw [pure_eq_ok, Except.ok.injEq, Prod.mk.injEq] at ended
            obtain ⟨rfl, rfl⟩ := ended
            exact ⟨spelling, .single spelled notLeading notTrailing, rfl⟩
  · rintro ⟨run, escape, rfl⟩
    cases escape with
    | single spelled notLeading notTrailing =>
        rw [readFourHex_eq_ok.2 ⟨_, spelled, rfl⟩, ok_bind]
        simp only [notLeading, notTrailing, Bool.false_eq_true, if_false, pure_eq_ok]
    | @pair first second leading trailing isFirst isLeading isSecond isTrailing =>
        have notTrailing : isTrailingSurrogate leading = false := by
          simp only [isLeadingSurrogate, isTrailingSurrogate, Bool.and_eq_true,
            Bool.and_eq_false_iff, decide_eq_true_eq, decide_eq_false_iff_not] at isLeading ⊢
          omega
        have one : readFourHex (first ++ backslash :: letterU :: second ++ rest) =
            .ok (leading, backslash :: letterU :: second ++ rest) :=
          readFourHex_eq_ok.2 ⟨first, isFirst, by rw [List.append_assoc]⟩
        have two : readTrailingSurrogate (backslash :: letterU :: second ++ rest) =
            .ok (trailing, rest) :=
          readTrailingSurrogate_eq_ok.2 ⟨second, isSecond, isTrailing, rfl⟩
        rw [one, ok_bind]
        simp only [notTrailing, isLeading, Bool.false_eq_true, if_false, if_true, two, ok_bind,
          pure_eq_ok]

theorem readEscape_eq_ok {bytes value rest : Bytes} :
    readEscape bytes = .ok (value, rest) ↔ ∃ run, Escape run value ∧ bytes = run ++ rest := by
  constructor
  · intro read
    cases bytes with
    | nil => cases read
    | cons mark bytes =>
        rw [readEscape] at read
        split at read
        · next named =>
            rw [Except.ok.injEq, Prod.mk.injEq] at read
            obtain ⟨rfl, rfl⟩ := read
            exact ⟨[mark], .simple named, rfl⟩
        · split at read
          · next isLetter =>
              obtain ⟨run, escape, rfl⟩ := readNumericEscape_eq_ok.1 read
              exact ⟨letterU :: run, .numeric escape, by rw [isLetter]; rfl⟩
          · cases read
  · rintro ⟨run, escape, rfl⟩
    cases escape with
    | simple named => simp only [List.cons_append, List.nil_append, readEscape, named]
    | numeric escape =>
        have unnamed : simpleEscape? letterU = none := by decide
        rw [List.cons_append, readEscape, unnamed]
        exact readNumericEscape_eq_ok.2 ⟨_, escape, rfl⟩

/-- Content that is read stands in front of a closing quote. -/
theorem content_of_readContent {bound bytes content rest : Bytes}
    (read : readContent bound bytes = .ok (content, rest)) :
    ∃ raw, Content raw content ∧ bytes = raw ++ quote :: rest := by
  induction bound generalizing bytes content with
  | nil =>
      cases bytes <;> cases read
  | cons mark bound inductionHypothesis =>
      cases bytes with
      | nil => cases read
      | cons byte bytes =>
          rw [readContent] at read
          split at read
          · next isQuote =>
              rw [Except.ok.injEq, Prod.mk.injEq] at read
              obtain ⟨rfl, rfl⟩ := read
              exact ⟨[], .empty, by rw [isQuote]; rfl⟩
          · next notQuote =>
              split at read
              · next isBackslash =>
                  obtain ⟨⟨value, after⟩, escaped, later⟩ := bind_eq_ok.1 read
                  obtain ⟨⟨others, last⟩, more, ended⟩ := bind_eq_ok.1 later
                  simp only [pure_eq_ok, Except.ok.injEq, Prod.mk.injEq] at ended
                  obtain ⟨rfl, rfl⟩ := ended
                  obtain ⟨run, escape, rfl⟩ := readEscape_eq_ok.1 escaped
                  obtain ⟨raw, inside, same⟩ := inductionHypothesis more
                  refine ⟨_, .more (.escaped escape) inside, ?_⟩
                  simp only [same, isBackslash, List.cons_append, List.append_assoc]
              · next notBackslash =>
                  split at read
                  · cases read
                  · next notControl =>
                      obtain ⟨⟨others, last⟩, more, ended⟩ := bind_eq_ok.1 read
                      simp only [pure_eq_ok, Except.ok.injEq, Prod.mk.injEq] at ended
                      obtain ⟨rfl, rfl⟩ := ended
                      obtain ⟨raw, inside, same⟩ := inductionHypothesis more
                      refine ⟨_, .more (.plain ⟨notQuote, notBackslash, notControl⟩) inside, ?_⟩
                      rw [same]
                      rfl

/-- Content is read up to the closing quote if the bound has room for it. -/
theorem readContent_of_content {raw content : Bytes} (inside : Content raw content)
    {bound : Bytes} (room : raw.length < bound.length) (rest : Bytes) :
    readContent bound (raw ++ quote :: rest) = .ok (content, rest) := by
  induction inside generalizing bound with
  | empty =>
      cases bound with
      | nil => simp at room
      | cons mark bound => rw [List.nil_append, readContent, if_pos rfl]
  | more standsFor inside inductionHypothesis =>
      rw [List.length_append] at room
      cases standsFor with
      | @plain byte isPlain =>
          rw [List.append_assoc]
          refine readContent_plain (List.forall_mem_singleton.2 isPlain) (by omega) ?_
          refine inductionHypothesis ?_
          rw [List.length_drop]
          omega
      | @escaped run value escape =>
          rw [List.length_cons] at room
          rw [List.append_assoc, List.cons_append]
          refine readContent_escape (readEscape_eq_ok.2 ⟨run, escape, rfl⟩) (by omega) ?_
          refine inductionHypothesis ?_
          rw [List.length_drop]
          omega

/-- A text is read up to its closing quote, after the opening one. -/
theorem readText_eq_ok {bytes rest : Bytes} {text : String} :
    readText bytes = .ok (text, rest) ↔
      ∃ raw, Content raw (encode text) ∧ bytes = raw ++ quote :: rest := by
  rw [readText]
  constructor
  · intro read
    obtain ⟨⟨content, after⟩, inside, decoded⟩ := bind_eq_ok.1 read
    simp only at decoded
    split at decoded
    · next found whole =>
        rw [pure_eq_ok, Except.ok.injEq, Prod.mk.injEq] at decoded
        obtain ⟨rfl, rfl⟩ := decoded
        rw [decode_eq_ok.1 whole]
        exact content_of_readContent inside
    · cases decoded
  · rintro ⟨raw, inside, rfl⟩
    have room : raw.length < (raw ++ quote :: rest).length := by
      rw [List.length_append, List.length_cons]
      omega
    rw [readContent_of_content inside room, ok_bind]
    simp only [decode_encode, pure_eq_ok]

/-- A written text is one of the texts that the grammar derives. -/
theorem isText_writeText (text : String) : IsText (writeText text) text := by
  obtain ⟨raw, content, same⟩ := readText_eq_ok.1 (readText_flatMap_writeChar text [])
  rw [writeText, List.append_cancel_right same]
  exact .quoted content

end Switchboard.Json
