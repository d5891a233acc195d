import Switchboard.Domain.Mapping
import Switchboard.Proofs.Domain.Composition

/-
This file shows that mapped characters are kept when they are mapped again.
-/

namespace Switchboard.Domain

section Rows

/-- All codes of a span change in the same way. -/
inductive Change where
  | keep
  | drop
  | raise (offset : Nat)
  | lower (offset : Nat)
  | alternate

def Change.image (first code : Nat) : Change → List Char
  | .keep => [Char.ofNat code]
  | .drop => []
  | .raise offset => [Char.ofNat (code + offset)]
  | .lower offset => [Char.ofNat (code - offset)]
  | .alternate => [Char.ofNat (if (code - first) % 2 = 0 then code + 1 else code)]

/-- A row either changes a span of codes or lists the image of each of its codes. -/
inductive SpelledRow where
  | span (first last : Nat) (change : Change)
  | listed (first : Nat) (images : List (List Char))

def SpelledRow.image (code : Nat) : SpelledRow → Option (List Char)
  | .span first last change =>
    if first ≤ code ∧ code ≤ last then some (change.image first code) else none
  | .listed first images => if first ≤ code then images[code - first]? else none

def Row.spell : Row → SpelledRow
  | .kept first last => .span first last .keep
  | .dropped first last => .span first last .drop
  | .raised first last offset => .span first last (.raise offset)
  | .lowered first last offset => .span first last (.lower offset)
  | .alternating first last => .span first last .alternate
  | .each first targets => .listed first (targets.toList.map fun target => [target])
  | .replaced first targets => .listed first (targets.map String.toList)

theorem image_spell (code : Nat) (row : Row) : row.spell.image code = row.image code := by
  cases row with
  | each first targets => rw [Row.spell, SpelledRow.image, Row.image, List.getElem?_map]
  | replaced first targets => rw [Row.spell, SpelledRow.image, Row.image, List.getElem?_map]
  | _ => rfl

def SpelledRow.first : SpelledRow → Nat
  | .span first _ _ => first
  | .listed first _ => first

/-- No code from here on belongs to the row. -/
def SpelledRow.limit : SpelledRow → Nat
  | .span _ last _ => last + 1
  | .listed first images => first + images.length

theorem SpelledRow.bounds_of_image {row : SpelledRow} {code : Nat} {characters : List Char}
    (isImage : row.image code = some characters) : row.first ≤ code ∧ code < row.limit := by
  cases row with
  | span first last change =>
      rw [SpelledRow.image] at isImage
      split at isImage
      · next inside => exact ⟨inside.1, Nat.lt_succ_of_le inside.2⟩
      · cases isImage
  | listed first images =>
      rw [SpelledRow.image] at isImage
      split at isImage
      · next above =>
          obtain ⟨inside, _⟩ := List.getElem?_eq_some_iff.1 isImage
          rw [SpelledRow.first, SpelledRow.limit]
          omega
      · cases isImage

/-- Each row starts behind the one before it, and all of them lie between two codes. -/
def areApart (low high : Nat) : List SpelledRow → Bool
  | [] => low ≤ high
  | row :: rows => low ≤ row.first && row.first ≤ row.limit && areApart row.limit high rows

theorem areApart_cons {low high : Nat} {row : SpelledRow} {rows : List SpelledRow} :
    areApart low high (row :: rows) ↔
      (low ≤ row.first ∧ row.first ≤ row.limit) ∧ areApart row.limit high rows := by
  simp only [areApart, Bool.and_eq_true, decide_eq_true_eq]

theorem areApart_append {low middle high : Nat} {rows others : List SpelledRow}
    (first : areApart low middle rows) (second : areApart middle high others) :
    areApart low high (rows ++ others) := by
  induction rows generalizing low with
  | nil =>
      have below : low ≤ middle := of_decide_eq_true first
      cases others with
      | nil => exact decide_eq_true (Nat.le_trans below (of_decide_eq_true second))
      | cons row others =>
          obtain ⟨bounds, later⟩ := areApart_cons.1 second
          exact areApart_cons.2 ⟨⟨Nat.le_trans below bounds.1, bounds.2⟩, later⟩
  | cons row rows inductionHypothesis =>
      obtain ⟨bounds, later⟩ := areApart_cons.1 first
      exact areApart_cons.2 ⟨bounds, inductionHypothesis later⟩

theorem le_first_of_areApart {low high : Nat} {rows : List SpelledRow}
    (apart : areApart low high rows) {row : SpelledRow} (member : row ∈ rows) :
    low ≤ row.first := by
  induction rows generalizing low with
  | nil => exact absurd member List.not_mem_nil
  | cons other rows inductionHypothesis =>
      obtain ⟨bounds, later⟩ := areApart_cons.1 apart
      rcases List.mem_cons.1 member with isFirst | inRest
      · rw [isFirst]
        exact bounds.1
      · exact Nat.le_trans (Nat.le_trans bounds.1 bounds.2) (inductionHypothesis later inRest)

/-- A code has its image in one row only. -/
theorem findSome?_of_areApart {low high code : Nat} {rows : List SpelledRow}
    (apart : areApart low high rows) {row : SpelledRow} (member : row ∈ rows)
    {characters : List Char} (isImage : row.image code = some characters) :
    rows.findSome? (SpelledRow.image code) = some characters := by
  induction rows generalizing low with
  | nil => exact absurd member List.not_mem_nil
  | cons other rows inductionHypothesis =>
      have later := (areApart_cons.1 apart).2
      rcases List.mem_cons.1 member with isFirst | inRest
      · rw [List.findSome?_cons, ← isFirst, isImage]
      · have none : other.image code = .none := by
          cases otherImage : other.image code with
          | none => rfl
          | some others =>
              have behind := le_first_of_areApart later inRest
              have start := (SpelledRow.bounds_of_image isImage).1
              have stop := (SpelledRow.bounds_of_image otherImage).2
              omega
        rw [List.findSome?_cons, none]
        exact inductionHypothesis later inRest

end Rows

section Cover

/-- A row may keep all codes of a range. -/
def SpelledRow.keeps (low high : Nat) : SpelledRow → Bool
  | .span first last .keep => first ≤ low && high ≤ last
  | .span first last .alternate => low = high && first ≤ low && high ≤ last && (low - first) % 2 = 1
  | _ => false

theorem SpelledRow.image_of_keeps {row : SpelledRow} {low high code : Nat}
    (keeps : row.keeps low high) (above : low ≤ code) (below : code ≤ high) :
    row.image code = some [Char.ofNat code] := by
  cases row with
  | listed first images => cases keeps
  | span first last change =>
      cases change with
      | keep =>
          simp only [SpelledRow.keeps, Bool.and_eq_true, decide_eq_true_eq] at keeps
          exact if_pos ⟨Nat.le_trans keeps.1 above, Nat.le_trans below keeps.2⟩
      | alternate =>
          simp only [SpelledRow.keeps, Bool.and_eq_true, decide_eq_true_eq] at keeps
          rw [SpelledRow.image, if_pos (by omega), Change.image, if_neg (by omega)]
      | _ => cases keeps

/-- The rows that keep codes stand in a search tree. -/
inductive Tree where
  | leaf
  | node (left : Tree) (row : SpelledRow) (right : Tree)

def Tree.rows : Tree → List SpelledRow
  | .leaf => []
  | .node left row right => left.rows ++ row :: right.rows

/-- A tree of a given height takes rows from the front of a list. -/
def Tree.build : Nat → List SpelledRow → Tree × List SpelledRow
  | 0, rows => (.leaf, rows)
  | height + 1, rows =>
    match Tree.build height rows with
    | (left, []) => (left, [])
    | (left, row :: rows) =>
      match Tree.build height rows with
      | (right, rows) => (.node left row right, rows)

theorem Tree.rows_build (height : Nat) (rows : List SpelledRow) :
    (build height rows).1.rows ++ (build height rows).2 = rows := by
  induction height generalizing rows with
  | zero => rfl
  | succ height inductionHypothesis =>
      have left := inductionHypothesis rows
      rw [build]
      split
      · next tree isLeft => rwa [isLeft] at left
      · next tree row rest isLeft =>
          rw [isLeft] at left
          have right := inductionHypothesis rest
          dsimp only
          rw [Tree.rows, List.append_assoc, List.cons_append, right, left]

/-- The search goes left or right by the first codes of the rows. -/
def Tree.covers (low high : Nat) : Tree → Bool
  | .leaf => false
  | .node left row right =>
    if row.keeps low high then true
    else if low < row.first then left.covers low high else right.covers low high

theorem Tree.exists_keeps_of_covers {tree : Tree} {low high : Nat}
    (covers : tree.covers low high) : ∃ row ∈ tree.rows, row.keeps low high := by
  induction tree with
  | leaf => cases covers
  | node left row right leftHypothesis rightHypothesis =>
      rw [Tree.covers] at covers
      split at covers
      · next keeps => exact ⟨row, List.mem_append_right _ List.mem_cons_self, keeps⟩
      · split at covers
        · obtain ⟨found, member, keeps⟩ := leftHypothesis covers
          exact ⟨found, List.mem_append_left _ member, keeps⟩
        · obtain ⟨found, member, keeps⟩ := rightHypothesis covers
          exact ⟨found, List.mem_append_right _ (List.mem_cons_of_mem _ member), keeps⟩

end Cover

section Table

/-- The codes of a range are those of characters. -/
def areScalars (low high : Nat) : Bool := high < 0xD800 || (0xDFFF < low && high < 0x110000)

/-- All characters that a row makes of others are kept by a row of the tree. -/
def SpelledRow.isSettled (tree : Tree) : SpelledRow → Bool
  | .span _ _ .keep => true
  | .span _ _ .drop => true
  | .span first last (.raise offset) =>
    areScalars (first + offset) (last + offset) && tree.covers (first + offset) (last + offset)
  | .span first last (.lower offset) =>
    offset ≤ first && areScalars (first - offset) (last - offset) &&
      tree.covers (first - offset) (last - offset)
  | .span first last .alternate => areScalars first last && (last - first) % 2 = 1
  | .listed _ images =>
    images.all fun image => image.all fun character =>
      tree.covers character.toNat character.toNat

def SpelledRow.keepsAny : SpelledRow → Bool
  | .span _ _ .keep => true
  | .span _ _ .alternate => true
  | _ => false

def keptTree : Tree := (Tree.build 10 ((mappingRows.map Row.spell).filter SpelledRow.keepsAny)).1

def areSettled (low high : Nat) (rows : List SpelledRow) : Bool :=
  areApart low high rows && rows.all (SpelledRow.isSettled keptTree)

section Spelled

variable {rows : List Row} {spelled : List SpelledRow} (same : rows.map Row.spell = spelled)

include same in
theorem map_spell_each {first : Nat} {targets : List Char} :
    (.each first (String.ofList targets) :: rows).map Row.spell =
      .listed first (targets.map fun target => [target]) :: spelled := by
  rw [List.map_cons, same, Row.spell, String.toList_ofList]

include same in
theorem map_spell_replaced {first : Nat} {targets : List String} {images : List (List Char)}
    (sameImages : targets.map String.toList = images) :
    (.replaced first targets :: rows).map Row.spell = .listed first images :: spelled := by
  rw [List.map_cons, same, Row.spell, sameImages]

include same in
theorem map_spell_span {row : Row} {first last : Nat} {change : Change}
    (isSpan : row.spell = .span first last change) :
    (row :: rows).map Row.spell = .span first last change :: spelled := by
  rw [List.map_cons, same, isSpan]

omit same in
theorem map_toList_cons {target : List Char} {targets : List String} {images : List (List Char)}
    (sameImages : targets.map String.toList = images) :
    (String.ofList target :: targets).map String.toList = target :: images := by
  rw [List.map_cons, sameImages, String.toList_ofList]

end Spelled

theorem areSettled_of_same {low high : Nat} {rows : List Row} {spelled : List SpelledRow}
    (same : rows.map Row.spell = spelled) (settled : areSettled low high spelled = true) :
    areSettled low high (rows.map Row.spell) = true := by
  rw [same, settled]

set_option maxRecDepth 8000 in
theorem areSettled_alphabetRows : areSettled 0 0x2000 (alphabetRows.map Row.spell) = true := by
  -- The characters are listed first, because the kernel is slow to read them from a text.
  apply areSettled_of_same
  · repeat' first
      | apply map_toList_cons
      | apply map_spell_span ?_ rfl
      | apply map_spell_each
      | apply map_spell_replaced
      | exact List.map_nil
  · decide +kernel

set_option maxRecDepth 8000 in
theorem areSettled_symbolRows : areSettled 0x2000 0x3000 (symbolRows.map Row.spell) = true := by
  apply areSettled_of_same
  · repeat' first
      | apply map_toList_cons
      | apply map_spell_span ?_ rfl
      | apply map_spell_each
      | apply map_spell_replaced
      | exact List.map_nil
  · decide +kernel

set_option maxRecDepth 8000 in
theorem areSettled_ideographRows :
    areSettled 0x3000 0x10000 (ideographRows.map Row.spell) = true := by
  apply areSettled_of_same
  · repeat' first
      | apply map_toList_cons
      | apply map_spell_span ?_ rfl
      | apply map_spell_each
      | apply map_spell_replaced
      | exact List.map_nil
  · decide +kernel

set_option maxRecDepth 8000 in
theorem areSettled_supplementRows :
    areSettled 0x10000 0x110000 (supplementRows.map Row.spell) = true := by
  apply areSettled_of_same
  · repeat' first
      | apply map_toList_cons
      | apply map_spell_span ?_ rfl
      | apply map_spell_each
      | apply map_spell_replaced
      | exact List.map_nil
  · decide +kernel

def spelledRows : List SpelledRow := mappingRows.map Row.spell

theorem mapChar_eq (character : Char) :
    mapChar character = spelledRows.findSome? (SpelledRow.image character.toNat) := by
  rw [mapChar, spelledRows, List.findSome?_map]
  congr 1
  funext row
  exact (image_spell character.toNat row).symm

theorem areSettled_spelledRows :
    areApart 0 0x110000 spelledRows ∧ ∀ row ∈ spelledRows, row.isSettled keptTree := by
  have alphabet := areSettled_alphabetRows
  have symbols := areSettled_symbolRows
  have ideographs := areSettled_ideographRows
  have supplement := areSettled_supplementRows
  simp only [areSettled, Bool.and_eq_true, List.all_eq_true]
    at alphabet symbols ideographs supplement
  rw [spelledRows, mappingRows, List.map_append, List.map_append, List.map_append]
  constructor
  · exact areApart_append (areApart_append (areApart_append alphabet.1 symbols.1) ideographs.1)
      supplement.1
  · simp only [List.forall_mem_append]
    exact ⟨⟨⟨alphabet.2, symbols.2⟩, ideographs.2⟩, supplement.2⟩

end Table

section Kept

variable {character : Char}

/-- A kept character stands for itself. -/
def IsKept (character : Char) : Prop := mapChar character = some [character]

theorem isKept_of_image {row : SpelledRow} (member : row ∈ spelledRows)
    (isImage : row.image character.toNat = some [character]) : IsKept character := by
  rw [IsKept, mapChar_eq]
  exact findSome?_of_areApart areSettled_spelledRows.1 member isImage

theorem isKept_of_covers {low high : Nat} (covers : keptTree.covers low high)
    (above : low ≤ character.toNat) (below : character.toNat ≤ high) : IsKept character := by
  obtain ⟨row, member, keeps⟩ := Tree.exists_keeps_of_covers covers
  have inRows : row ∈ spelledRows := by
    have built := Tree.rows_build 10 (spelledRows.filter SpelledRow.keepsAny)
    refine (List.mem_filter.1 (show row ∈ spelledRows.filter SpelledRow.keepsAny from ?_)).1
    rw [← built]
    exact List.mem_append_left _ member
  refine isKept_of_image inRows ?_
  rw [SpelledRow.image_of_keeps keeps above below, Char.ofNat_toNat]

/-- A code of a range of characters is that of a character. -/
theorem isValidChar_of_areScalars {low high code : Nat} (scalars : areScalars low high)
    (above : low ≤ code) (below : code ≤ high) : code.isValidChar := by
  simp only [areScalars, Bool.or_eq_true, Bool.and_eq_true, decide_eq_true_eq] at scalars
  rw [Nat.isValidChar]
  omega

theorem isKept_ofNat {low high code : Nat} (scalars : areScalars low high)
    (covers : keptTree.covers low high) (above : low ≤ code) (below : code ≤ high) :
    IsKept (Char.ofNat code) := by
  have same := toNat_ofNat (isValidChar_of_areScalars scalars above below)
  exact isKept_of_covers covers (by rwa [same]) (by rwa [same])

/-- The characters that stand for another one are kept. -/
theorem isKept_of_mem_mapChar {target : Char} {targets : List Char}
    (mapped : mapChar character = some targets) (member : target ∈ targets) : IsKept target := by
  have isImage := mapped
  rw [mapChar_eq] at isImage
  obtain ⟨row, inRows, isImage⟩ := List.exists_of_findSome?_eq_some isImage
  have settled := areSettled_spelledRows.2 row inRows
  cases row with
  | listed first images =>
      rw [SpelledRow.image] at isImage
      split at isImage
      · have covers := List.all_eq_true.1 settled targets (List.mem_of_getElem? isImage)
        exact isKept_of_covers (List.all_eq_true.1 covers target member) (Nat.le_refl _)
          (Nat.le_refl _)
      · cases isImage
  | span first last change =>
      rw [SpelledRow.image] at isImage
      split at isImage
      · next inside =>
          rw [Option.some.injEq] at isImage
          rw [← isImage] at member
          cases change with
          | keep =>
              rw [Change.image, Char.ofNat_toNat] at isImage member
              rw [List.mem_singleton.1 member, IsKept, mapped, ← isImage]
          | drop => exact absurd member List.not_mem_nil
          | raise offset =>
              simp only [SpelledRow.isSettled, Bool.and_eq_true] at settled
              rw [List.mem_singleton.1 member]
              exact isKept_ofNat settled.1 settled.2 (by omega) (by omega)
          | lower offset =>
              simp only [SpelledRow.isSettled, Bool.and_eq_true, decide_eq_true_eq] at settled
              rw [List.mem_singleton.1 member]
              exact isKept_ofNat settled.1.2 settled.2 (by omega) (by omega)
          | alternate =>
              simp only [SpelledRow.isSettled, Bool.and_eq_true, decide_eq_true_eq] at settled
              rw [List.mem_singleton.1 member]
              refine isKept_of_image inRows ?_
              have keeps (code : Nat) (above : first ≤ code) (below : code ≤ last)
                  (odd : (code - first) % 2 = 1) :
                  (SpelledRow.span first last .alternate).image (Char.ofNat code).toNat =
                    some [Char.ofNat code] := by
                have valid := isValidChar_of_areScalars settled.1 above below
                rw [toNat_ofNat valid, SpelledRow.image, if_pos ⟨above, below⟩, Change.image,
                  if_neg (by omega)]
              split
              · exact keeps _ (by omega) (by omega) (by omega)
              · exact keeps _ inside.1 inside.2 (by omega)
      · cases isImage

theorem mapChars_cons (character : Char) (text : List Char) :
    mapChars (character :: text) =
      (mapChar character).bind fun image => (mapChars text).map (image ++ ·) := by
  rw [mapChars, mapChars, List.mapM_cons]
  cases mapChar character with
  | none => rfl
  | some image => cases text.mapM mapChar <;> rfl

theorem isKept_of_mem_mapChars {text mapped : List Char} (isMapped : mapChars text = some mapped) :
    ∀ character ∈ mapped, IsKept character := by
  induction text generalizing mapped with
  | nil =>
      cases isMapped
      exact fun _ absent => absurd absent List.not_mem_nil
  | cons character text inductionHypothesis =>
      rw [mapChars_cons] at isMapped
      obtain ⟨image, isImage, isMapped⟩ := Option.bind_eq_some_iff.1 isMapped
      obtain ⟨rest, isRest, rfl⟩ := Option.map_eq_some_iff.1 isMapped
      exact List.forall_mem_append.2
        ⟨fun target member => isKept_of_mem_mapChar isImage member, inductionHypothesis isRest⟩

theorem mapChars_of_isKept {text : List Char} (kept : ∀ character ∈ text, IsKept character) :
    mapChars text = some text := by
  induction text with
  | nil => rfl
  | cons character text inductionHypothesis =>
      obtain ⟨first, later⟩ := List.forall_mem_cons.1 kept
      rw [IsKept] at first
      rw [mapChars_cons, first, inductionHypothesis later]
      rfl

def areCovered (rows : List (Char × Char × Char)) : Bool :=
  rows.all fun row => keptTree.covers row.1.toNat row.1.toNat &&
    keptTree.covers row.2.1.toNat row.2.1.toNat && keptTree.covers row.2.2.toNat row.2.2.toNat

set_option maxRecDepth 4000 in
theorem areCovered_composites : areCovered composites = true := by
  apply check_composites
  · repeat' first | exact List.map_nil | apply map_spell_cons
  · decide +kernel

theorem isKept_of_mem_composites {letter mark composite : Char}
    (member : (letter, mark, composite) ∈ composites) :
    IsKept letter ∧ IsKept mark ∧ IsKept composite := by
  have covered := List.all_eq_true.1 areCovered_composites _ member
  simp only [Bool.and_eq_true] at covered
  obtain ⟨⟨ofLetter, ofMark⟩, ofComposite⟩ := covered
  exact ⟨isKept_of_covers ofLetter (Nat.le_refl _) (Nat.le_refl _),
    isKept_of_covers ofMark (Nat.le_refl _) (Nat.le_refl _),
    isKept_of_covers ofComposite (Nat.le_refl _) (Nat.le_refl _)⟩

theorem areCovered_syllables :
    (keptTree.covers 0x1100 0x1112 && keptTree.covers 0x1161 0x1175 &&
      keptTree.covers 0x11A8 0x11C2 && keptTree.covers 0xAC00 0xD7A3) = true := by
  decide +kernel

theorem isKept_ofNat_of_isSyllablePart {code : Nat} (part : isSyllablePart code) :
    IsKept (Char.ofNat code) := by
  have covered := areCovered_syllables
  simp only [Bool.and_eq_true] at covered
  rcases isSyllablePart_iff.1 part with (leading | middle) | trailing
  · exact isKept_ofNat (by decide) covered.1.1.1 leading.1 leading.2
  · exact isKept_ofNat (by decide) covered.1.1.2 middle.1 middle.2
  · exact isKept_ofNat (by decide) covered.1.2 trailing.1 trailing.2

theorem isKept_ofNat_of_isSyllable {code : Nat} (syllable : isSyllable code) :
    IsKept (Char.ofNat code) := by
  have covered := areCovered_syllables
  simp only [Bool.and_eq_true] at covered
  obtain ⟨above, below⟩ := isSyllable_iff.1 syllable
  exact isKept_ofNat (by decide) covered.2 above (Nat.le_of_lt_succ below)

/-- Taking apart and composing lead from kept characters to kept ones. -/
theorem isClosed_isKept : IsClosed IsKept where
  parts taken _ := by
    rcases decomposePair_eq_some taken with ⟨first, second, syllable, isLetter, isMark⟩ | member
    · obtain ⟨part, other⟩ := parts_of_decomposeHangul syllable
      rw [isLetter, isMark]
      refine ⟨?_, isKept_ofNat_of_isSyllablePart part⟩
      rcases other with firstPart | ⟨firstSyllable, _⟩
      · exact isKept_ofNat_of_isSyllablePart firstPart
      · exact isKept_ofNat_of_isSyllable firstSyllable
    · obtain ⟨letter, mark, _⟩ := isKept_of_mem_composites member
      exact ⟨letter, mark⟩
  composite {letter mark composite} composed _ _ := by
    have taken := decomposePair_of_composePair composed
    rcases decomposePair_eq_some taken with ⟨first, second, syllable, _, _⟩ | member
    · rw [← Char.ofNat_toNat composite]
      exact isKept_ofNat_of_isSyllable (isSyllable_of_decomposeHangul syllable)
    · exact (isKept_of_mem_composites member).2.2

theorem areCovered_ascii : (keptTree.covers 0x0 0x40 && keptTree.covers 0x5B 0x7F) = true := by
  decide +kernel

/-- All ASCII characters but the capital letters are kept. -/
theorem isKept_of_ascii (ascii : character.toNat ≤ 0x40 ∨
    (0x5B ≤ character.toNat ∧ character.toNat ≤ 0x7F)) : IsKept character := by
  have covered := areCovered_ascii
  rw [Bool.and_eq_true] at covered
  rcases ascii with low | high
  · exact isKept_of_covers covered.1 (Nat.zero_le _) low
  · exact isKept_of_covers covered.2 high.1 high.2

end Kept

end Switchboard.Domain
