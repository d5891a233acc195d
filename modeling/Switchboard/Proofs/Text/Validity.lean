import Switchboard.Proofs.Text.Utf8

/-
This file shows that bytes which read as a text are the bytes that the text is written as.
-/

namespace Switchboard.Text.Utf8

/-- A code that leaves out the surrogates is the code of its character. -/
theorem toNat_ofNat {code : Nat} (valid : code < 0xD800 ∨ 0xDFFF < code ∧ code < 0x110000) :
    (Char.ofNat code).toNat = code := by
  rw [Char.ofNat, dif_pos valid]
  rfl

/-- A byte is known by its number. -/
theorem ofNat_eq {number : Nat} (byte : UInt8) (same : number = byte.toNat) :
    UInt8.ofNat number = byte := by
  rw [same, UInt8.ofNat_toNat]

section Characters

variable {first second third fourth : UInt8}

theorem isContinuation_iff {byte : UInt8} :
    isContinuation byte ↔ 0x80 ≤ byte.toNat ∧ byte.toNat ≤ 0xBF := by
  simp only [isContinuation, Bool.and_eq_true, decide_eq_true_eq, UInt8.le_iff_toNat_le,
    UInt8.reduceToNat]

/-- The second byte of a longer character continues it, and its range depends on the first. -/
theorem isSecondOfThree_iff : isSecondOfThree first second ↔
    (0x80 ≤ second.toNat ∧ second.toNat ≤ 0xBF) ∧ (first.toNat = 0xE0 → 0xA0 ≤ second.toNat) ∧
      (first.toNat = 0xED → second.toNat ≤ 0x9F) := by
  simp only [isSecondOfThree, isContinuation, ← UInt8.toNat_inj, UInt8.le_iff_toNat_le,
    UInt8.reduceToNat]
  split
  · simp only [Bool.and_eq_true, decide_eq_true_eq]
    omega
  · split <;> simp only [Bool.and_eq_true, decide_eq_true_eq] <;> omega

theorem isSecondOfFour_iff : isSecondOfFour first second ↔
    (0x80 ≤ second.toNat ∧ second.toNat ≤ 0xBF) ∧ (first.toNat = 0xF0 → 0x90 ≤ second.toNat) ∧
      (first.toNat = 0xF4 → second.toNat ≤ 0x8F) := by
  simp only [isSecondOfFour, isContinuation, ← UInt8.toNat_inj, UInt8.le_iff_toNat_le,
    UInt8.reduceToNat]
  split
  · simp only [Bool.and_eq_true, decide_eq_true_eq]
    omega
  · split <;> simp only [Bool.and_eq_true, decide_eq_true_eq] <;> omega

theorem encodeChar_oneByte (lead : first < 0x80) :
    encodeChar (Char.ofNat first.toNat) = [first] := by
  rw [UInt8.lt_iff_toNat_lt] at lead
  simp only [UInt8.reduceToNat] at lead
  rw [encodeChar, toNat_ofNat (.inl (by omega)), if_pos lead, UInt8.ofNat_toNat]

theorem encodeChar_twoByteChar (least : 0xC2 ≤ first) (greatest : first ≤ 0xDF)
    (continues : isContinuation second) :
    encodeChar (twoByteChar first second) = [first, second] := by
  rw [UInt8.le_iff_toNat_le] at least greatest
  rw [isContinuation_iff] at continues
  simp only [UInt8.reduceToNat] at least greatest
  rw [twoByteChar, encodeChar, toNat_ofNat (.inl (by omega)), if_neg (by omega),
    if_pos (by omega), ofNat_eq first (by omega), ofNat_eq second (by omega)]

theorem encodeChar_threeByteChar (least : 0xE0 ≤ first) (greatest : first ≤ 0xEF)
    (continues : isSecondOfThree first second) (ends : isContinuation third) :
    encodeChar (threeByteChar first second third) = [first, second, third] := by
  rw [UInt8.le_iff_toNat_le] at least greatest
  rw [isSecondOfThree_iff] at continues
  rw [isContinuation_iff] at ends
  simp only [UInt8.reduceToNat] at least greatest
  rw [threeByteChar, encodeChar, toNat_ofNat (by omega), if_neg (by omega), if_neg (by omega),
    if_pos (by omega), ofNat_eq first (by omega), ofNat_eq second (by omega),
    ofNat_eq third (by omega)]

theorem encodeChar_fourByteChar (least : 0xF0 ≤ first) (greatest : first ≤ 0xF4)
    (continues : isSecondOfFour first second) (goesOn : isContinuation third)
    (ends : isContinuation fourth) :
    encodeChar (fourByteChar first second third fourth) = [first, second, third, fourth] := by
  rw [UInt8.le_iff_toNat_le] at least greatest
  rw [isSecondOfFour_iff] at continues
  rw [isContinuation_iff] at goesOn ends
  simp only [UInt8.reduceToNat] at least greatest
  rw [fourByteChar, encodeChar, toNat_ofNat (by omega), if_neg (by omega), if_neg (by omega),
    if_neg (by omega), ofNat_eq first (by omega), ofNat_eq second (by omega),
    ofNat_eq third (by omega), ofNat_eq fourth (by omega)]

end Characters

/-- Pieces that are all whole characters are read as these. -/
theorem charsOfPieces_eq_ok {found : List Piece} {index : Nat} {characters : List Char} :
    charsOfPieces index found = .ok characters ↔ found = characters.map .character := by
  constructor
  · intro read
    induction found generalizing index characters with
    | nil =>
        rw [charsOfPieces, Except.ok.injEq] at read
        rw [← read, List.map_nil]
    | cons piece found inductionHypothesis =>
        cases piece with
        | malformed length => cases read
        | cutOff => cases read
        | character value =>
            rw [charsOfPieces] at read
            split at read
            · next rest others =>
                rw [Except.ok.injEq] at read
                rw [← read, List.map_cons, inductionHypothesis others]
            · cases read
  · rintro rfl
    exact charsOfPieces_characters index characters

/-- A whole character in front takes its own bytes. -/
theorem encodeChars_of_cons {character : Char} {found : List Piece} {characters : List Char}
    {run rest : Bytes} (whole : .character character :: found = characters.map .character)
    (own : encodeChar character = run)
    (later : ∀ others : List Char, found = others.map .character → encodeChars others = rest) :
    encodeChars characters = run ++ rest := by
  obtain ⟨first, others, rfl, same, more⟩ := List.map_eq_cons_iff.1 whole.symm
  rw [Piece.character.injEq] at same
  rw [encodeChars_cons, same, own, later others more.symm]

theorem ne_characters {piece : Piece} (broken : ∀ character, Piece.character character ≠ piece)
    (found : List Piece) (characters : List Char) :
    piece :: found ≠ characters.map .character := by
  intro whole
  obtain ⟨first, _, _, same, _⟩ := List.map_eq_cons_iff.1 whole.symm
  exact broken first same

/-- The bytes of whole characters are those of the characters. -/
theorem encodeChars_of_pieces {bytes : Bytes} {characters : List Char}
    (whole : pieces bytes = characters.map .character) : encodeChars characters = bytes := by
  fun_induction pieces bytes generalizing characters with
  | case1 =>
      rw [eq_comm, List.map_eq_nil_iff] at whole
      rw [whole]
      rfl
  | case2 first rest lead inductionHypothesis =>
      exact encodeChars_of_cons whole (encodeChar_oneByte lead) fun _ => inductionHypothesis
  | case4 first _ lead second rest continues inductionHypothesis =>
      rw [Bool.and_eq_true, decide_eq_true_eq, decide_eq_true_eq] at lead
      exact encodeChars_of_cons whole (encodeChar_twoByteChar lead.1 lead.2 continues)
        fun _ => inductionHypothesis
  | case8 first _ _ lead second continues third rest ends inductionHypothesis =>
      rw [Bool.and_eq_true, decide_eq_true_eq, decide_eq_true_eq] at lead
      exact encodeChars_of_cons whole (encodeChar_threeByteChar lead.1 lead.2 continues ends)
        fun _ => inductionHypothesis
  | case14 first _ _ _ lead second continues third goesOn fourth rest ends inductionHypothesis =>
      rw [Bool.and_eq_true, decide_eq_true_eq, decide_eq_true_eq] at lead
      exact encodeChars_of_cons whole
        (encodeChar_fourByteChar lead.1 lead.2 continues goesOn ends) fun _ => inductionHypothesis
  -- every other case starts with a piece that is no whole character
  | _ => exact absurd whole (ne_characters (fun _ same => by cases same) _ _)

/-- Bytes read as a text exactly if they are what the text is written as. -/
theorem decode_eq_ok {bytes : Bytes} {text : String} :
    decode bytes = .ok text ↔ encode text = bytes := by
  constructor
  · intro read
    rw [decode] at read
    split at read
    · next characters whole =>
        rw [Except.ok.injEq] at read
        rw [← read, encode, String.toList_ofList]
        exact encodeChars_of_pieces (charsOfPieces_eq_ok.1 whole)
    · cases read
  · rintro rfl
    exact decode_encode text

end Switchboard.Text.Utf8
