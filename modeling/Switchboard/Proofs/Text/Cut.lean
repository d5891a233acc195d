import Mathlib.Data.List.Infix
import Switchboard.Proofs.Text.Utf8

/-
This file says what is read when the bytes of a text are cut at a limit: the characters before the
cut, and one replacement character if the cut goes through a character.
-/

namespace Switchboard.Text.Utf8

section Pieces

variable {first second third : UInt8}

/-- The first byte of a longer form is a character that is cut off. -/
theorem pieces_lead (least : 0xC2 ≤ first) (greatest : first ≤ 0xF4) :
    pieces [first] = [.cutOff] := by
  simp only [UInt8.le_iff_toNat_le, UInt8.reduceToNat] at least greatest
  have notOne : ¬ first < 0x80 := by
    simp only [UInt8.lt_iff_toNat_lt, UInt8.reduceToNat]
    omega
  rw [pieces.eq_def]
  simp only [if_neg notOne, UInt8.le_iff_toNat_le, UInt8.reduceToNat, Bool.and_eq_true,
    decide_eq_true_eq]
  split
  · rfl
  split
  · rfl
  · rw [if_pos (by omega)]

theorem pieces_threeOfFour (least : 0xF0 ≤ first) (greatest : first ≤ 0xF4)
    (continues : isSecondOfFour first second) (goesOn : isContinuation third) :
    pieces [first, second, third] = [.cutOff] := by
  rw [pieces_leadOfFour _ least greatest continues]
  exact if_pos goesOn

/-- Whatever the end leaves of a character is one piece. -/
theorem pieces_take_encodeChar {character : Char} {count : Nat} (begun : 0 < count)
    (broken : count < (encodeChar character).length) :
    pieces ((encodeChar character).take count) = [.cutOff] := by
  have form := form_encodeChar character
  generalize encodeChar character = bytes at form broken
  cases form with
  | one lead same =>
      rw [List.length_singleton] at broken
      omega
  | two least greatest continues same =>
      have only : count = 1 := by
        simp only [List.length_cons, List.length_nil] at broken
        omega
      rw [only]
      exact pieces_lead least (UInt8.le_trans greatest (by decide))
  | three least greatest continues ends same =>
      obtain rfl | rfl : count = 1 ∨ count = 2 := by
        simp only [List.length_cons, List.length_nil] at broken
        omega
      · exact pieces_lead (UInt8.le_trans (by decide) least) (UInt8.le_trans greatest (by decide))
      · exact pieces_leadOfThree [] least greatest continues
  | four least greatest continues goesOn ends same =>
      obtain rfl | rfl | rfl : count = 1 ∨ count = 2 ∨ count = 3 := by
        simp only [List.length_cons, List.length_nil] at broken
        omega
      · exact pieces_lead (UInt8.le_trans (by decide) least) greatest
      · exact pieces_leadOfFour [] least greatest continues
      · exact pieces_threeOfFour least greatest continues goesOn

/-- No piece is made of nothing. -/
theorem length_pieces_le (bytes : Bytes) : (pieces bytes).length ≤ bytes.length := by
  fun_induction pieces bytes <;> simp only [List.length_cons, List.length_nil] at * <;> omega

end Pieces

section Starts

/-- A text breaks between two of its characters, or at one of its ends, after this many bytes. -/
def IsBoundary (text : String) (index : Nat) : Prop :=
  ∃ before : String, before.toList <+: text.toList ∧ (encode before).length = index

/-- This start of a text stays within a limit of bytes, and no longer one does. -/
structure IsLongestStart (text : String) (limit : Nat) (start : String) : Prop where
  starts : start.toList <+: text.toList
  fits : (encode start).length ≤ limit
  longest : ∀ other : String, other.toList <+: text.toList → (encode other).length ≤ limit →
    other.toList <+: start.toList

/-- One character of a text that is too long is the first to pass the limit. -/
theorem exists_cut {characters : List Char} {limit : Nat}
    (long : limit < (encodeChars characters).length) :
    ∃ kept next rest, characters = kept ++ next :: rest ∧ (encodeChars kept).length ≤ limit ∧
      limit < (encodeChars kept).length + (encodeChar next).length := by
  induction characters generalizing limit with
  | nil => exact absurd long (Nat.not_lt_zero limit)
  | cons character characters inductionHypothesis =>
      by_cases inside : limit < (encodeChar character).length
      · refine ⟨[], character, characters, rfl, Nat.zero_le limit, ?_⟩
        rw [encodeChars, List.flatMap_nil, List.length_nil, Nat.zero_add]
        exact inside
      · rw [encodeChars_cons, List.length_append] at long
        have later : limit - (encodeChar character).length < (encodeChars characters).length := by
          omega
        obtain ⟨kept, next, rest, whole, fits, full⟩ := inductionHypothesis later
        refine ⟨character :: kept, next, rest, by rw [whole, List.cons_append], ?_, ?_⟩
        · rw [encodeChars_cons, List.length_append]
          omega
        · rw [encodeChars_cons, List.length_append]
          omega

section Cut

variable {text : String} {limit : Nat} {kept rest : List Char} {next : Char}
  (whole : text.toList = kept ++ next :: rest) (fits : (encodeChars kept).length ≤ limit)
  (full : limit < (encodeChars kept).length + (encodeChar next).length)
include whole fits full

/-- The characters before the one that passes the limit are the longest start within it. -/
theorem isLongestStart_of_cut : IsLongestStart text limit (String.ofList kept) := by
  refine ⟨?_, ?_, ?_⟩
  · rw [String.toList_ofList, whole]
    exact List.prefix_append kept (next :: rest)
  · rw [encode, String.toList_ofList]
    exact fits
  · intro other starts within
    rw [String.toList_ofList]
    rw [whole] at starts
    obtain isStart | ⟨more, longer⟩ :=
      List.prefix_or_prefix_of_prefix starts (List.prefix_append kept _)
    · exact isStart
    -- a start that goes past these characters holds the next one, which passes the limit
    rw [← longer, List.prefix_append_right_inj] at starts
    cases more with
    | nil =>
        rw [List.append_nil] at longer
        exact longer ▸ List.prefix_refl kept
    | cons character more =>
        rw [List.cons_prefix_cons] at starts
        rw [encode, ← longer, starts.1, encodeChars_append, encodeChars_cons, List.length_append,
          List.length_append] at within
        omega

/-- What is read before the limit are these characters, and a replacement for a broken one. -/
theorem decodeLenient_of_cut : decodeLenient ((encode text).take limit) =
    if (encodeChars kept).length = limit then String.ofList kept
    else String.ofList (kept ++ [replacement]) := by
  have bytes : (encode text).take limit =
      encodeChars kept ++ (encodeChar next).take (limit - (encodeChars kept).length) := by
    rw [encode, whole, encodeChars_append, encodeChars_cons, List.take_append,
      List.take_of_length_le fits, List.take_append_of_le_length (by omega)]
  have characters : (kept.map Piece.character).map Piece.lenient = kept := by
    rw [List.map_map]
    exact List.map_id kept
  rw [decodeLenient, bytes, pieces_encodeChars, List.map_append, characters]
  split
  · next exactly =>
      rw [exactly, Nat.sub_self, List.take_zero, pieces, List.map_nil, List.append_nil]
  · next inside =>
      rw [pieces_take_encodeChar (by omega) (by omega)]
      rfl

end Cut

/-- A limit is a boundary when the longest start within it is as long as it allows. -/
theorem IsLongestStart.isBoundary_iff {text start : String} {limit : Nat}
    (longest : IsLongestStart text limit start) :
    IsBoundary text limit ↔ (encode start).length = limit := by
  constructor
  · rintro ⟨before, starts, rfl⟩
    have within := longest.longest before starts (Nat.le_refl _)
    exact Nat.le_antisymm longest.fits (within.flatMap encodeChar).length_le
  · intro exactly
    exact ⟨start, longest.starts, exactly⟩

/--
A text that is cut at a limit reads as its longest start within the limit, and one replacement
character follows if the limit is no boundary between characters.
-/
theorem exists_decodeLenient_take {text : String} {limit : Nat}
    (long : limit < (encode text).length) :
    ∃ start, IsLongestStart text limit start ∧
      (IsBoundary text limit → decodeLenient ((encode text).take limit) = start) ∧
      (¬ IsBoundary text limit →
        decodeLenient ((encode text).take limit) = start ++ String.ofList [replacement]) := by
  obtain ⟨kept, next, rest, whole, fits, full⟩ := exists_cut long
  have longest := isLongestStart_of_cut whole fits full
  have read := decodeLenient_of_cut whole fits full
  refine ⟨String.ofList kept, longest, ?_, ?_⟩ <;>
    rw [longest.isBoundary_iff, encode, String.toList_ofList, read]
  · intro exactly
    rw [if_pos exactly]
  · intro inside
    rw [if_neg inside, String.ofList_append]

end Starts

end Switchboard.Text.Utf8
