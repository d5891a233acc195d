import Switchboard.Text.Utf8

/-
This file shows that texts written as UTF-8 read back as themselves, character by character.
-/

namespace Switchboard.Text.Utf8

/-- Codes of characters leave out the surrogates. -/
theorem code_lt (character : Char) :
    character.toNat < 0xD800 ∨ 0xDFFF < character.toNat ∧ character.toNat < 0x110000 :=
  character.valid

section Pieces

variable {first second third fourth : UInt8} (rest : Bytes)

theorem pieces_one (lead : first < 0x80) :
    pieces (first :: rest) = .character (Char.ofNat first.toNat) :: pieces rest := by
  rw [pieces.eq_def]
  simp only [if_pos lead]

theorem pieces_two (least : 0xC2 ≤ first) (greatest : first ≤ 0xDF)
    (continues : isContinuation second) :
    pieces (first :: second :: rest) = .character (twoByteChar first second) :: pieces rest := by
  have notOne : ¬ first < 0x80 := UInt8.not_lt.2 (UInt8.le_trans (by decide) least)
  rw [pieces.eq_def]
  simp only [if_neg notOne, least, greatest, continues, decide_true, Bool.and_self, if_true]

/-- After its first two bytes a form of three bytes lacks a third one or has a right or wrong one. -/
theorem pieces_leadOfThree (least : 0xE0 ≤ first) (greatest : first ≤ 0xEF)
    (continues : isSecondOfThree first second) :
    pieces (first :: second :: rest) =
      match rest with
      | [] => [.cutOff]
      | third :: rest =>
        if isContinuation third then .character (threeByteChar first second third) :: pieces rest
        else .malformed 2 :: pieces (third :: rest) := by
  have notOne : ¬ first < 0x80 := UInt8.not_lt.2 (UInt8.le_trans (by decide) least)
  have notTwo : ¬ first ≤ 0xDF := UInt8.not_le.2 (UInt8.lt_of_lt_of_le (by decide) least)
  rw [pieces.eq_def]
  simp only [if_neg notOne, notTwo, least, greatest, continues, decide_true, decide_false,
    Bool.and_self, Bool.and_false, if_true, if_false, Bool.false_eq_true]
  cases rest <;> rfl

theorem pieces_leadOfFour (least : 0xF0 ≤ first) (greatest : first ≤ 0xF4)
    (continues : isSecondOfFour first second) :
    pieces (first :: second :: rest) =
      match rest with
      | [] => [.cutOff]
      | third :: rest =>
        if isContinuation third then
          match rest with
          | [] => [.cutOff]
          | fourth :: rest =>
            if isContinuation fourth then
              .character (fourByteChar first second third fourth) :: pieces rest
            else .malformed 3 :: pieces (fourth :: rest)
        else .malformed 2 :: pieces (third :: rest) := by
  have notOne : ¬ first < 0x80 := UInt8.not_lt.2 (UInt8.le_trans (by decide) least)
  have notTwo : ¬ first ≤ 0xDF := UInt8.not_le.2 (UInt8.lt_of_lt_of_le (by decide) least)
  have notThree : ¬ first ≤ 0xEF := UInt8.not_le.2 (UInt8.lt_of_lt_of_le (by decide) least)
  rw [pieces.eq_def]
  simp only [if_neg notOne, notTwo, notThree, least, greatest, continues, decide_true,
    decide_false, Bool.and_self, Bool.and_false, if_true, if_false, Bool.false_eq_true]
  rcases rest with _ | ⟨third, _ | ⟨fourth, rest⟩⟩ <;> rfl

theorem pieces_three (least : 0xE0 ≤ first) (greatest : first ≤ 0xEF)
    (continues : isSecondOfThree first second) (ends : isContinuation third) :
    pieces (first :: second :: third :: rest) =
      .character (threeByteChar first second third) :: pieces rest := by
  rw [pieces_leadOfThree _ least greatest continues]
  exact if_pos ends

theorem pieces_four (least : 0xF0 ≤ first) (greatest : first ≤ 0xF4)
    (continues : isSecondOfFour first second) (goesOn : isContinuation third)
    (ends : isContinuation fourth) :
    pieces (first :: second :: third :: fourth :: rest) =
      .character (fourByteChar first second third fourth) :: pieces rest := by
  rw [pieces_leadOfFour _ least greatest continues]
  exact (if_pos goesOn).trans (if_pos ends)

end Pieces

/-- A byte below 256 keeps its number. -/
theorem toNat_byte (number : Nat) (small : number < 256) : (UInt8.ofNat number).toNat = number :=
  UInt8.toNat_ofNat_of_lt' small

theorem isContinuation_byte {low : Nat} (small : low < 64) :
    isContinuation (UInt8.ofNat (0x80 + low)) := by
  simp only [isContinuation, UInt8.le_iff_toNat_le, toNat_byte (0x80 + low) (by omega),
    UInt8.reduceToNat, Bool.and_eq_true, decide_eq_true_eq]
  omega

/-- Overlong forms and surrogates are excluded by the second byte. -/
theorem isSecondOfThree_byte (high middle : Nat) (leadSmall : high < 16) (small : middle < 64)
    (notOverlong : high = 0 → 32 ≤ middle) (noSurrogate : high = 13 → middle < 32) :
    isSecondOfThree (UInt8.ofNat (0xE0 + high)) (UInt8.ofNat (0x80 + middle)) := by
  simp only [isSecondOfThree, isContinuation, ← UInt8.toNat_inj, UInt8.le_iff_toNat_le,
    toNat_byte (0xE0 + high) (by omega), toNat_byte (0x80 + middle) (by omega),
    UInt8.reduceToNat]
  split
  · simp only [Bool.and_eq_true, decide_eq_true_eq]
    omega
  · split <;> simp only [Bool.and_eq_true, decide_eq_true_eq] <;> omega

/-- Overlong forms and codes past the last character are excluded by the second byte. -/
theorem isSecondOfFour_byte (high middle : Nat) (leadSmall : high < 5) (small : middle < 64)
    (notOverlong : high = 0 → 16 ≤ middle) (notPast : high = 4 → middle < 16) :
    isSecondOfFour (UInt8.ofNat (0xF0 + high)) (UInt8.ofNat (0x80 + middle)) := by
  simp only [isSecondOfFour, isContinuation, ← UInt8.toNat_inj, UInt8.le_iff_toNat_le,
    toNat_byte (0xF0 + high) (by omega), toNat_byte (0x80 + middle) (by omega),
    UInt8.reduceToNat]
  split
  · simp only [Bool.and_eq_true, decide_eq_true_eq]
    omega
  · split <;> simp only [Bool.and_eq_true, decide_eq_true_eq] <;> omega

theorem twoByteChar_bytes {high low : Nat} (leadSmall : high < 32) (small : low < 64) :
    twoByteChar (UInt8.ofNat (0xC0 + high)) (UInt8.ofNat (0x80 + low)) =
      Char.ofNat (high * 64 + low) := by
  rw [twoByteChar, toNat_byte (0xC0 + high) (by omega),
    toNat_byte (0x80 + low) (by omega), Nat.add_sub_cancel_left, Nat.add_sub_cancel_left]

theorem threeByteChar_bytes {high middle low : Nat} (leadSmall : high < 16)
    (middleSmall : middle < 64) (small : low < 64) :
    threeByteChar (UInt8.ofNat (0xE0 + high)) (UInt8.ofNat (0x80 + middle))
      (UInt8.ofNat (0x80 + low)) = Char.ofNat (high * 4096 + middle * 64 + low) := by
  rw [threeByteChar, toNat_byte (0xE0 + high) (by omega),
    toNat_byte (0x80 + middle) (by omega), toNat_byte (0x80 + low) (by omega),
    Nat.add_sub_cancel_left, Nat.add_sub_cancel_left, Nat.add_sub_cancel_left]

theorem fourByteChar_bytes {high middle low last : Nat} (leadSmall : high < 8)
    (middleSmall : middle < 64) (small : low < 64) (lastSmall : last < 64) :
    fourByteChar (UInt8.ofNat (0xF0 + high)) (UInt8.ofNat (0x80 + middle))
      (UInt8.ofNat (0x80 + low)) (UInt8.ofNat (0x80 + last)) =
      Char.ofNat (high * 262144 + middle * 4096 + low * 64 + last) := by
  rw [fourByteChar, toNat_byte (0xF0 + high) (by omega),
    toNat_byte (0x80 + middle) (by omega), toNat_byte (0x80 + low) (by omega),
    toNat_byte (0x80 + last) (by omega), Nat.add_sub_cancel_left, Nat.add_sub_cancel_left,
    Nat.add_sub_cancel_left, Nat.add_sub_cancel_left]

/-- The lead byte of a longer form lies in the range of that form. -/
theorem byte_mem_range (least greatest : UInt8) (lead : Nat) (above : least.toNat ≤ lead)
    (below : lead ≤ greatest.toNat) : least ≤ UInt8.ofNat lead ∧ UInt8.ofNat lead ≤ greatest := by
  have fits : lead < 256 := Nat.lt_of_le_of_lt below greatest.toNat_lt
  rw [UInt8.le_iff_toNat_le, UInt8.le_iff_toNat_le, toNat_byte lead fits]
  exact ⟨above, below⟩

/-- A character is written in one of four forms, and each form says what its bytes may be. -/
inductive Form (character : Char) : Bytes → Prop where
  | one {first : UInt8} (lead : first < 0x80) (same : Char.ofNat first.toNat = character) :
    Form character [first]
  | two {first second : UInt8} (least : 0xC2 ≤ first) (greatest : first ≤ 0xDF)
    (continues : isContinuation second) (same : twoByteChar first second = character) :
    Form character [first, second]
  | three {first second third : UInt8} (least : 0xE0 ≤ first) (greatest : first ≤ 0xEF)
    (continues : isSecondOfThree first second) (ends : isContinuation third)
    (same : threeByteChar first second third = character) : Form character [first, second, third]
  | four {first second third fourth : UInt8} (least : 0xF0 ≤ first) (greatest : first ≤ 0xF4)
    (continues : isSecondOfFour first second) (goesOn : isContinuation third)
    (ends : isContinuation fourth) (same : fourByteChar first second third fourth = character) :
    Form character [first, second, third, fourth]

theorem form_encodeChar (character : Char) : Form character (encodeChar character) := by
  have bound := code_lt character
  rw [encodeChar]
  by_cases one : character.toNat < 0x80
  · have value := toNat_byte character.toNat (by omega)
    have lead : UInt8.ofNat character.toNat < 0x80 := by
      rw [UInt8.lt_iff_toNat_lt, value]
      exact one
    rw [if_pos one]
    exact .one lead (by rw [value, Char.ofNat_toNat])
  by_cases two : character.toNat < 0x800
  · have lead := byte_mem_range 0xC2 0xDF (0xC0 + character.toNat / 64)
      (by simp only [UInt8.reduceToNat]; omega) (by simp only [UInt8.reduceToNat]; omega)
    rw [if_neg one, if_pos two]
    refine .two lead.1 lead.2 (isContinuation_byte (by omega)) ?_
    rw [twoByteChar_bytes (by omega) (by omega), Nat.div_add_mod', Char.ofNat_toNat]
  by_cases three : character.toNat < 0x10000
  · have lead := byte_mem_range 0xE0 0xEF (0xE0 + character.toNat / 4096)
      (by simp only [UInt8.reduceToNat]; omega) (by simp only [UInt8.reduceToNat]; omega)
    have second := isSecondOfThree_byte (character.toNat / 4096) (character.toNat / 64 % 64)
      (by omega) (by omega) (by omega) (by omega)
    have code : character.toNat / 4096 * 4096 + character.toNat / 64 % 64 * 64 +
        character.toNat % 64 = character.toNat := by omega
    rw [if_neg one, if_neg two, if_pos three]
    refine .three lead.1 lead.2 second (isContinuation_byte (by omega)) ?_
    rw [threeByteChar_bytes (by omega) (by omega) (by omega), code, Char.ofNat_toNat]
  · have lead := byte_mem_range 0xF0 0xF4 (0xF0 + character.toNat / 262144)
      (by simp only [UInt8.reduceToNat]; omega) (by simp only [UInt8.reduceToNat]; omega)
    have second := isSecondOfFour_byte (character.toNat / 262144)
      (character.toNat / 4096 % 64) (by omega) (by omega) (by omega) (by omega)
    have code : character.toNat / 262144 * 262144 + character.toNat / 4096 % 64 * 4096 +
        character.toNat / 64 % 64 * 64 + character.toNat % 64 = character.toNat := by omega
    rw [if_neg one, if_neg two, if_neg three]
    refine .four lead.1 lead.2 second (isContinuation_byte (by omega))
      (isContinuation_byte (by omega)) ?_
    rw [fourByteChar_bytes (by omega) (by omega) (by omega) (by omega), code, Char.ofNat_toNat]

/-- The bytes of a character are read as one piece, whatever follows them. -/
theorem pieces_encodeChar (character : Char) (rest : Bytes) :
    pieces (encodeChar character ++ rest) = .character character :: pieces rest := by
  have form := form_encodeChar character
  generalize encodeChar character = bytes at form
  cases form with
  | one lead same => rw [List.cons_append, List.nil_append, pieces_one rest lead, same]
  | two least greatest continues same =>
      rw [List.cons_append, List.cons_append, List.nil_append,
        pieces_two rest least greatest continues, same]
  | three least greatest continues ends same =>
      rw [List.cons_append, List.cons_append, List.cons_append, List.nil_append,
        pieces_three rest least greatest continues ends, same]
  | four least greatest continues goesOn ends same =>
      rw [List.cons_append, List.cons_append, List.cons_append, List.cons_append, List.nil_append,
        pieces_four rest least greatest continues goesOn ends, same]

/-- The characters of ASCII are their own bytes. -/
theorem encodeChar_ascii {character : Char} (ascii : character.toNat < 0x80) :
    encodeChar character = [UInt8.ofNat character.toNat] := by
  rw [encodeChar, if_pos ascii]

/-- All other characters have no byte of ASCII. -/
theorem le_of_mem_encodeChar {character : Char} (notAscii : ¬ character.toNat < 0x80)
    {byte : UInt8} (member : byte ∈ encodeChar character) : 0x80 ≤ byte.toNat := by
  have bound := code_lt character
  rw [encodeChar, if_neg notAscii] at member
  split at member
  · simp only [List.mem_cons, List.not_mem_nil, or_false] at member
    rcases member with same | same <;> rw [same, UInt8.toNat_ofNat'] <;> omega
  · split at member <;> simp only [List.mem_cons, List.not_mem_nil, or_false] at member
    · rcases member with same | same | same <;> rw [same, UInt8.toNat_ofNat'] <;> omega
    · rcases member with same | same | same | same <;> rw [same, UInt8.toNat_ofNat'] <;> omega

theorem encodeChars_append (first second : List Char) :
    encodeChars (first ++ second) = encodeChars first ++ encodeChars second :=
  List.flatMap_append

theorem encodeChars_cons (character : Char) (characters : List Char) :
    encodeChars (character :: characters) = encodeChar character ++ encodeChars characters :=
  List.flatMap_cons

theorem pieces_encodeChars (characters : List Char) (rest : Bytes) :
    pieces (encodeChars characters ++ rest) = characters.map Piece.character ++ pieces rest := by
  induction characters with
  | nil => rfl
  | cons character characters inductionHypothesis =>
      rw [encodeChars_cons, List.append_assoc, pieces_encodeChar, inductionHypothesis,
        List.map_cons, List.cons_append]

theorem charsOfPieces_characters (index : Nat) (characters : List Char) :
    charsOfPieces index (characters.map Piece.character) = .ok characters := by
  induction characters generalizing index with
  | nil => rfl
  | cons character characters inductionHypothesis =>
      rw [List.map_cons, charsOfPieces, inductionHypothesis]

/-- Every piece of a text that was written is one of its characters. -/
theorem pieces_encode (text : String) :
    pieces (encode text) = text.toList.map Piece.character := by
  have whole := pieces_encodeChars text.toList []
  rwa [List.append_nil, pieces, List.append_nil] at whole

/-- A text that was written reads back as itself. -/
@[simp] theorem decode_encode (text : String) : decode (encode text) = .ok text := by
  rw [decode, pieces_encode, charsOfPieces_characters]
  exact congrArg Except.ok String.ofList_toList

/-- Lenient reading has nothing to replace in a text that was written. -/
theorem decodeLenient_encode (text : String) : decodeLenient (encode text) = text := by
  rw [decodeLenient, pieces_encode, List.map_map]
  exact (congrArg String.ofList (List.map_id _)).trans String.ofList_toList

theorem encode_append (first second : String) :
    encode (first ++ second) = encode first ++ encode second := by
  rw [encode, encode, encode, String.toList_append, encodeChars_append]

theorem length_encode_append (first second : String) :
    (encode (first ++ second)).length = (encode first).length + (encode second).length := by
  rw [encode_append, List.length_append]

theorem length_encodeChar_le (character : Char) : (encodeChar character).length ≤ 4 := by
  rw [encodeChar]
  split
  · exact Nat.le_add_left 1 3
  split
  · exact Nat.le_add_left 2 2
  split
  · exact Nat.le_add_left 3 1
  · exact Nat.le_refl 4

/-- No character takes more than four bytes. -/
theorem length_encodeChars_le (characters : List Char) :
    (encodeChars characters).length ≤ 4 * characters.length := by
  induction characters with
  | nil => decide
  | cons character characters inductionHypothesis =>
      have one := length_encodeChar_le character
      rw [encodeChars_cons, List.length_append, List.length_cons]
      omega

/-- Different texts are written as different bytes. -/
theorem encode_inj {first second : String} : encode first = encode second ↔ first = second := by
  constructor
  · intro same
    have read := congrArg decode same
    rw [decode_encode, decode_encode] at read
    exact Except.ok.inj read
  · exact congrArg encode

end Switchboard.Text.Utf8
