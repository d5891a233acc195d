import Switchboard.Json.Text
import Switchboard.Json.Writer
import Switchboard.Proofs.Text.Utf8

/-
This file shows that the texts of a JSON payload read back as they were written.
-/

namespace Switchboard.Json

open Text.Utf8

/-- These bytes stand for themselves in a text. -/
def IsPlainContent (byte : UInt8) : Prop :=
  byte ≠ quote ∧ byte ≠ backslash ∧ ¬ byte < 0x20

theorem hexValue_hexDigit (value : Nat) (small : value < 16) :
    hexValue? (hexDigit value) = some value := by
  revert value
  decide

/-- A control character is escaped by its code, which is no half of a surrogate pair. -/
theorem readNumericEscape_control {code : Nat} (control : code < 0x20) (rest : Bytes) :
    readNumericEscape (zero :: zero :: hexDigit (code / 16) :: hexDigit (code % 16) :: rest) =
      .ok (encodeChar (Char.ofNat code), rest) := by
  have digits : readFourHex
      (zero :: zero :: hexDigit (code / 16) :: hexDigit (code % 16) :: rest) =
        .ok (code, rest) := by
    have nought : hexValue? zero = some 0 := by decide
    have value : ((0 * 16 + 0) * 16 + code / 16) * 16 + code % 16 = code := by omega
    simp only [readFourHex, nought, hexValue_hexDigit (code / 16) (by omega),
      hexValue_hexDigit (code % 16) (by omega), value]
  have notTrailing : isTrailingSurrogate code = false := by
    simp only [isTrailingSurrogate, Bool.and_eq_false_iff, decide_eq_false_iff_not]
    omega
  have notLeading : isLeadingSurrogate code = false := by
    simp only [isLeadingSurrogate, Bool.and_eq_false_iff, decide_eq_false_iff_not]
    omega
  simp only [readNumericEscape, digits, bind, Except.bind, notTrailing, notLeading,
    Bool.false_eq_true, if_false]
  rfl

/-- Plain bytes are taken over one by one, and each of them takes one element of the bound. -/
theorem readContent_plain {raw bound rest content after : Bytes}
    (plain : ∀ byte ∈ raw, IsPlainContent byte) (room : raw.length ≤ bound.length)
    (more : readContent (bound.drop raw.length) rest = .ok (content, after)) :
    readContent bound (raw ++ rest) = .ok (raw ++ content, after) := by
  induction raw generalizing bound with
  | nil => exact more
  | cons byte raw inductionHypothesis =>
      obtain ⟨notQuote, notBackslash, notControl⟩ := plain byte List.mem_cons_self
      cases bound with
      | nil => simp at room
      | cons mark bound =>
          have tail := inductionHypothesis
            (fun other member => plain other (List.mem_cons_of_mem _ member))
            (Nat.le_of_succ_le_succ room) more
          rw [List.cons_append, readContent, if_neg notQuote, if_neg notBackslash,
            if_neg notControl, tail]
          rfl

/-- An escape takes one element of the bound, whatever its length. -/
theorem readContent_escape {escape value bound rest content after : Bytes}
    (escaped : readEscape (escape ++ rest) = .ok (value, rest)) (room : 1 ≤ bound.length)
    (more : readContent (bound.drop 1) rest = .ok (content, after)) :
    readContent bound (backslash :: (escape ++ rest)) = .ok (value ++ content, after) := by
  cases bound with
  | nil => simp at room
  | cons mark bound =>
      rw [List.drop_succ_cons, List.drop_zero] at more
      rw [readContent, if_neg (by decide), if_pos rfl, escaped]
      simp only [bind, Except.bind, more]
      rfl

/-- A character that is not escaped is written as bytes that stand for themselves. -/
theorem isPlainContent_of_mem_encodeChar {character : Char} (notQuote : character.toNat ≠ 0x22)
    (notBackslash : character.toNat ≠ 0x5C) (notControl : ¬ character.toNat < 0x20) {byte : UInt8}
    (member : byte ∈ encodeChar character) : IsPlainContent byte := by
  simp only [IsPlainContent, quote, backslash, ne_eq, ← UInt8.toNat_inj, UInt8.lt_iff_toNat_lt,
    UInt8.reduceToNat]
  by_cases ascii : character.toNat < 0x80
  · rw [encodeChar_ascii ascii, List.mem_singleton] at member
    rw [member, toNat_byte character.toNat (by omega)]
    exact ⟨notQuote, notBackslash, notControl⟩
  · have high := le_of_mem_encodeChar ascii member
    omega

/-- A character that is escaped by a letter or a mark is one byte that its escape names. -/
theorem readEscape_simple {character : Char} {mark : UInt8} (ascii : character.toNat < 0x80)
    (named : simpleEscape? mark = some (UInt8.ofNat character.toNat)) (rest : Bytes) :
    readEscape ([mark] ++ rest) = .ok (encodeChar character, rest) := by
  rw [encodeChar_ascii ascii]
  simp only [List.cons_append, List.nil_append, readEscape, named]

/-- A character is escaped by a mark, escaped by its code, or written as it is. -/
theorem writeChar_cases (character : Char) :
    (∃ mark, character.toNat < 0x80 ∧ simpleEscape? mark = some (UInt8.ofNat character.toNat) ∧
      writeChar character = [backslash, mark]) ∨
    (character.toNat < 0x20 ∧ writeChar character = [backslash, letterU, zero, zero,
      hexDigit (character.toNat / 16), hexDigit (character.toNat % 16)]) ∨
    (character.toNat ≠ 0x22 ∧ character.toNat ≠ 0x5C ∧ ¬ character.toNat < 0x20 ∧
      writeChar character = encodeChar character) := by
  have marked {code : Nat} {mark : UInt8} (same : character.toNat = code) (ascii : code < 0x80)
      (named : simpleEscape? mark = some (UInt8.ofNat code)) :
      ∃ other, character.toNat < 0x80 ∧
        simpleEscape? other = some (UInt8.ofNat character.toNat) ∧
        [backslash, mark] = [backslash, other] :=
    ⟨mark, by omega, by rw [same, named], rfl⟩
  simp only [writeChar]
  split
  · next same => exact .inl (marked same (by decide) rfl)
  split
  · next same => exact .inl (marked same (by decide) rfl)
  split
  · next same => exact .inl (marked same (by decide) rfl)
  split
  · next same => exact .inl (marked same (by decide) rfl)
  split
  · next same => exact .inl (marked same (by decide) rfl)
  split
  · next same => exact .inl (marked same (by decide) rfl)
  split
  · next same => exact .inl (marked same (by decide) rfl)
  split
  · next control => exact .inr (.inl ⟨control, rfl⟩)
  · next notQuote notBackslash _ _ _ _ _ notControl =>
      exact .inr (.inr ⟨notQuote, notBackslash, notControl, rfl⟩)

/-- A text with one more character in front is read with that character in front. -/
theorem readContent_writeChar {character : Char} {rest content after : Bytes} {room : Nat}
    (more : ∀ bound : Bytes, room ≤ bound.length → readContent bound rest = .ok (content, after))
    (bound : Bytes) (enough : (writeChar character).length + room ≤ bound.length) :
    readContent bound (writeChar character ++ rest) =
      .ok (encodeChar character ++ content, after) := by
  have tail (taken : Nat) (fits : taken + room ≤ bound.length) :
      readContent (bound.drop taken) rest = .ok (content, after) :=
    more _ (by rw [List.length_drop]; omega)
  obtain ⟨mark, ascii, named, written⟩ | ⟨control, written⟩ |
    ⟨notQuote, notBackslash, notControl, written⟩ := writeChar_cases character
  · rw [written] at enough ⊢
    simp only [List.length_cons, List.length_nil] at enough
    exact readContent_escape (readEscape_simple ascii named rest) (by omega) (tail 1 (by omega))
  · rw [written] at enough ⊢
    simp only [List.length_cons, List.length_nil] at enough
    have escaped := readNumericEscape_control control rest
    rw [Char.ofNat_toNat] at escaped
    exact readContent_escape escaped (by omega) (tail 1 (by omega))
  · rw [written] at enough ⊢
    have plain (byte : UInt8) (member : byte ∈ encodeChar character) : IsPlainContent byte :=
      isPlainContent_of_mem_encodeChar notQuote notBackslash notControl member
    exact readContent_plain plain (by omega) (tail _ enough)

/-- The content of a text runs to the closing quote. -/
theorem readContent_flatMap_writeChar (characters : List Char) (rest bound : Bytes)
    (room : (characters.flatMap writeChar).length + 1 ≤ bound.length) :
    readContent bound (characters.flatMap writeChar ++ quote :: rest) =
      .ok (encodeChars characters, rest) := by
  induction characters generalizing bound with
  | nil =>
      cases bound with
      | nil => simp at room
      | cons mark bound => rw [List.flatMap_nil, List.nil_append, readContent, if_pos rfl]; rfl
  | cons character characters inductionHypothesis =>
      rw [List.flatMap_cons, List.length_append, Nat.add_assoc] at room
      rw [List.flatMap_cons, List.append_assoc]
      exact readContent_writeChar inductionHypothesis bound room

/-- A text that was written is read back after its opening quote. -/
theorem readText_flatMap_writeChar (text : String) (rest : Bytes) :
    readText (text.toList.flatMap writeChar ++ quote :: rest) = .ok (text, rest) := by
  have room : (text.toList.flatMap writeChar).length + 1 ≤
      (text.toList.flatMap writeChar ++ quote :: rest).length := by
    rw [List.length_append, List.length_cons]
    omega
  have whole : Text.Utf8.decode (encodeChars text.toList) = .ok text := decode_encode text
  simp only [readText, readContent_flatMap_writeChar text.toList rest _ room, bind, Except.bind,
    whole]
  rfl

theorem writeText_append (text : String) (rest : Bytes) :
    writeText text ++ rest = quote :: (text.toList.flatMap writeChar ++ quote :: rest) := by
  rw [writeText, List.cons_append, List.append_assoc, List.singleton_append]

end Switchboard.Json
