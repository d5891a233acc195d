import Switchboard.Proofs.Url.Ipv4
import Switchboard.Url.Ipv6

/-
This file shows that a sixteen-byte address is read back from its shortest form.
-/

namespace Switchboard.Url.Ipv6

section Pieces

theorem ne_of_mem_pieceText {piece : UInt16} {character : Char}
    (member : character ∈ pieceText piece) : character ≠ ':' ∧ character ≠ '.' := by
  obtain ⟨digit, small, rfl⟩ := exists_digit_of_mem_toDigits (by decide) member
  have all : ∀ digit < 16, digit.digitChar ≠ ':' ∧ digit.digitChar ≠ '.' := by decide
  exact all digit small

theorem pieceText_ne_nil (piece : UInt16) : pieceText piece ≠ [] := Nat.toDigits_ne_nil

theorem piece?_pieceText (piece : UInt16) : piece? (pieceText piece) = some piece := by
  have short : (pieceText piece).length ≤ 4 :=
    (Nat.length_toDigits_le_iff (by decide) (by decide)).2 (UInt16.toNat_lt piece)
  rw [piece?, if_neg (not_or.2 ⟨pieceText_ne_nil piece, by omega⟩), pieceText,
    numberIn?_toDigits (by decide) (by decide), Option.map_some, UInt16.ofNat_toNat]

theorem tail?_pieceText (piece : UInt16) : tail? (pieceText piece) = some [piece] := by
  have noDot : (pieceText piece).contains '.' = false := by
    rw [List.contains_eq_mem, decide_eq_false_iff_not]
    exact fun isDot => (ne_of_mem_pieceText isDot).2 rfl
  rw [tail?, noDot, piece?_pieceText]
  rfl

theorem pieces?_pieceTexts (pieces : List UInt16) :
    pieces? (pieces.map pieceText) = some pieces :=
  Domain.mapM_map_eq_some fun piece _ => piece?_pieceText piece

theorem piecesWithTail?_pieceTexts (pieces : List UInt16) :
    piecesWithTail? (pieces.map pieceText) = some pieces := by
  induction pieces with
  | nil => rfl
  | cons piece pieces inductionHypothesis =>
      cases pieces with
      | nil => exact tail?_pieceText piece
      | cons second pieces =>
          rw [List.map_cons] at inductionHypothesis
          rw [List.map_cons, List.map_cons, piecesWithTail?.eq_def]
          dsimp only
          rw [piece?_pieceText, inductionHypothesis]

theorem splitAt_joinPieces {pieces : List UInt16} (some : pieces ≠ []) :
    Domain.splitAt ':' (joinPieces pieces) = pieces.map pieceText := by
  refine Domain.splitAt_intercalate (by rwa [Ne, List.map_eq_nil_iff]) fun part isPart isColon => ?_
  obtain ⟨piece, _, rfl⟩ := List.mem_map.1 isPart
  exact (ne_of_mem_pieceText isColon).1 rfl

theorem joinPieces_cons (piece second : UInt16) (pieces : List UInt16) :
    joinPieces (piece :: second :: pieces) =
      pieceText piece ++ ':' :: joinPieces (second :: pieces) := by
  rw [joinPieces, List.map_cons, List.map_cons, List.intercalate_cons_cons, List.append_assoc]
  rfl

theorem joinPieces_singleton (piece : UInt16) : joinPieces [piece] = pieceText piece :=
  List.intercalate_singleton

/-- Pieces start with a digit if there are any. -/
theorem exists_joinPieces (piece : UInt16) (pieces : List UInt16) :
    ∃ character text, joinPieces (piece :: pieces) = character :: text ∧ character ≠ ':' := by
  obtain ⟨character, text, isText⟩ := List.exists_cons_of_ne_nil (pieceText_ne_nil piece)
  have noColon : character ≠ ':' :=
    (ne_of_mem_pieceText (show character ∈ pieceText piece from isText ▸ List.mem_cons_self)).1
  cases pieces with
  | nil => exact ⟨character, text, (joinPieces_singleton piece).trans isText, noColon⟩
  | cons second pieces =>
      rw [joinPieces_cons, isText]
      exact ⟨character, _, rfl, noColon⟩

theorem splitPieces_joinPieces (pieces : List UInt16) :
    splitPieces (joinPieces pieces) = pieces.map pieceText := by
  cases pieces with
  | nil => rfl
  | cons piece pieces =>
      rw [← splitAt_joinPieces (List.cons_ne_nil piece pieces)]
      obtain ⟨character, text, isText, _⟩ := exists_joinPieces piece pieces
      rw [isText]
      rfl

theorem mem_joinPieces {pieces : List UInt16} {character : Char}
    (member : character ∈ joinPieces pieces) :
    character = ':' ∨ ∃ digit < 16, character = digit.digitChar := by
  rcases Domain.mem_intercalate member with isColon | ⟨part, isPart, inPart⟩
  · exact .inl isColon
  · obtain ⟨piece, _, rfl⟩ := List.mem_map.1 isPart
    exact .inr (exists_digit_of_mem_toDigits (by decide) inPart)

/-- An address is written in hexadecimal digits and colons. -/
theorem mem_text {address : Ipv6} {character : Char} (member : character ∈ address.text) :
    character = ':' ∨ ∃ digit < 16, character = digit.digitChar := by
  rw [text] at member
  dsimp only at member
  split at member
  · exact mem_joinPieces member
  · rcases List.mem_append.1 member with inFront | behind
    · exact mem_joinPieces inFront
    rcases List.mem_cons.1 behind with isColon | behind
    · exact .inl isColon
    rcases List.mem_cons.1 behind with isColon | inBack
    · exact .inl isColon
    · exact mem_joinPieces inBack

end Pieces

section Gap

/-- What stands before a part of a text belongs to its first part. -/
def prepend (before : List Char) (parts : List Char × List Char) : List Char × List Char :=
  (before ++ parts.1, parts.2)

theorem splitAtGap_cons {character : Char} {text : List Char}
    (noGap : ∀ rest, character :: text ≠ ':' :: ':' :: rest) :
    splitAtGap (character :: text) = (splitAtGap text).map (prepend [character]) := by
  rw [splitAtGap.eq_def]
  split
  · next rest same => exact absurd same (noGap rest)
  · next same => cases same
  · next first rest _ same =>
      cases same
      cases splitAtGap text <;> rfl

/-- A part without colons does not reach the gap. -/
theorem splitAtGap_append {part : List Char} (noColon : ∀ character ∈ part, character ≠ ':')
    (text : List Char) : splitAtGap (part ++ text) = (splitAtGap text).map (prepend part) := by
  induction part with
  | nil => exact (Option.map_id_fun ▸ rfl)
  | cons character part inductionHypothesis =>
      obtain ⟨first, later⟩ := List.forall_mem_cons.1 noColon
      have noGap : ∀ rest, character :: (part ++ text) ≠ ':' :: ':' :: rest :=
        fun rest same => first (List.cons.inj same).1
      rw [List.cons_append, splitAtGap_cons noGap, inductionHypothesis later, Option.map_map]
      rfl

/-- Pieces with colons between them do not reach the gap either. -/
theorem splitAtGap_joinPieces (pieces : List UInt16) (text : List Char) :
    splitAtGap (joinPieces pieces ++ text) =
      (splitAtGap text).map (prepend (joinPieces pieces)) := by
  induction pieces with
  | nil =>
      have noColon : ∀ character ∈ ([] : List Char), character ≠ ':' :=
        fun _ absent => absurd absent List.not_mem_nil
      exact splitAtGap_append noColon text
  | cons piece pieces inductionHypothesis =>
      have noColon : ∀ character ∈ pieceText piece, character ≠ ':' :=
        fun character member => (ne_of_mem_pieceText member).1
      cases pieces with
      | nil => rw [joinPieces_singleton, splitAtGap_append noColon]
      | cons second pieces =>
          obtain ⟨character, rest, isText, notColon⟩ := exists_joinPieces second pieces
          have noGap : ∀ more, ':' :: (joinPieces (second :: pieces) ++ text) ≠
              ':' :: ':' :: more := by
            intro more same
            rw [isText] at same
            exact notColon (List.cons.inj (List.cons.inj same).2).1
          rw [joinPieces_cons, List.append_assoc, List.cons_append, splitAtGap_append noColon,
            splitAtGap_cons noGap, inductionHypothesis, Option.map_map, Option.map_map]
          congr 1
          funext parts
          simp only [Function.comp, prepend, List.append_assoc, List.cons_append, List.nil_append]

end Gap

section Run

theorem eq_of_zeroRun (pieces : List UInt16) :
    pieces = List.replicate (zeroRun pieces) 0 ++ pieces.drop (zeroRun pieces) := by
  induction pieces with
  | nil => rfl
  | cons piece rest inductionHypothesis =>
      rw [zeroRun] at inductionHypothesis ⊢
      rw [List.takeWhile_cons]
      split
      · next zero =>
          rw [List.length_cons, List.replicate_succ, List.drop_succ_cons, List.cons_append,
            ← inductionHypothesis, of_decide_eq_true zero]
      · rfl

/-- The longest run of zeros stands where it was found. -/
theorem eq_of_longestRun {pieces : List UInt16} {before length : Nat}
    (isRun : longestRun pieces = (before, length)) :
    pieces = pieces.take before ++ List.replicate length 0 ++ pieces.drop (before + length) := by
  induction pieces generalizing before with
  | nil =>
      cases isRun
      rfl
  | cons piece rest inductionHypothesis =>
      cases inner : longestRun rest with
      | mk innerBefore innerLength =>
          rw [longestRun, inner] at isRun
          dsimp only at isRun
          split at isRun
          · rw [Prod.mk.injEq] at isRun
            rw [← isRun.1, ← isRun.2, List.take_zero, List.nil_append, Nat.zero_add]
            exact eq_of_zeroRun _
          · rw [Prod.mk.injEq] at isRun
            rw [isRun.2] at inner
            have later := inductionHypothesis inner
            rw [← isRun.1, List.take_succ_cons, Nat.succ_add, List.drop_succ_cons,
              List.cons_append, List.cons_append, ← later]

/-- A text without a gap is split at its colons only. -/
theorem read?_joinPieces {pieces : List UInt16} (eight : pieces.length = 8) :
    read? (joinPieces pieces) = some ⟨pieces, eight⟩ := by
  have notEmpty : pieces ≠ [] := List.length_pos_iff.1 (by omega)
  have noGap := splitAtGap_joinPieces pieces []
  rw [List.append_nil] at noGap
  rw [read?, noGap]
  simp only [splitAtGap, Option.map_none, splitAt_joinPieces notEmpty, piecesWithTail?_pieceTexts]
  exact dif_pos eight

/-- A gap is filled with the zeros that are missing. -/
theorem read?_gap {front back : List UInt16} {zeros : Nat} (some : 0 < zeros)
    (eight : (front ++ List.replicate zeros 0 ++ back).length = 8) :
    read? (joinPieces front ++ ':' :: ':' :: joinPieces back) =
      .some ⟨front ++ List.replicate zeros 0 ++ back, eight⟩ := by
  have gap : splitAtGap (joinPieces front ++ ':' :: ':' :: joinPieces back) =
      .some (joinPieces front, joinPieces back) := by
    rw [splitAtGap_joinPieces, splitAtGap]
    simp only [Option.map_some, prepend, List.append_nil]
  have total := eight
  rw [List.length_append, List.length_append, List.length_replicate] at total
  have missing : 8 - front.length - back.length = zeros := by omega
  rw [read?, gap]
  dsimp only
  rw [splitPieces_joinPieces, splitPieces_joinPieces, pieces?_pieceTexts,
    piecesWithTail?_pieceTexts]
  dsimp only
  rw [if_pos (by omega), missing]
  exact dif_pos eight

/-- A sixteen-byte address is read back from its shortest form. -/
theorem read?_text (address : Ipv6) : read? address.text = some address := by
  obtain ⟨pieces, eight⟩ := address
  cases isRun : longestRun pieces with
  | mk before length =>
      rw [text]
      dsimp only
      rw [isRun]
      dsimp only
      split
      · exact read?_joinPieces eight
      · have whole := eq_of_longestRun isRun
        have filled := eight
        rw [whole] at filled
        rw [read?_gap (by omega) filled, Option.some.injEq, Ipv6.mk.injEq]
        exact whole.symm

end Run

end Switchboard.Url.Ipv6
