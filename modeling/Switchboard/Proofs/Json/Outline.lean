import Switchboard.Proofs.Json.Content
import Switchboard.Proofs.Json.Walk
import Switchboard.Proofs.Json.Writer

/-
This file says what a JSON value looks like from outside: how its brackets and separators stand,
whatever its texts hold and whatever its numbers denote.
-/

namespace Switchboard.Json

section Outlines

/-- An escape has the right form, but it may be half a character, and the bytes may be no text. -/
inductive LooseContent : Bytes → Prop where
  | empty : LooseContent []
  | plain {byte : UInt8} {raw : Bytes} (isPlain : IsPlainContent byte) (rest : LooseContent raw) :
    LooseContent (byte :: raw)
  | simple {mark value : UInt8} {raw : Bytes} (named : simpleEscape? mark = some value)
    (rest : LooseContent raw) : LooseContent (backslash :: mark :: raw)
  | numeric {digits raw : Bytes} {unit : Nat} (spelled : SpellsUnit digits unit)
    (rest : LooseContent raw) : LooseContent (backslash :: letterU :: (digits ++ raw))

/-- A bare value has no brackets. -/
inductive Bare : Bytes → Prop where
  | null : Bare nullLiteral
  | boolTrue : Bare trueLiteral
  | boolFalse : Bare falseLiteral
  | positive {bytes : Bytes} {token : NumberToken} (spelled : Spells bytes token) : Bare bytes
  | negative {bytes : Bytes} {token : NumberToken} (spelled : Spells bytes token) :
    Bare (minus :: bytes)
  | text {raw : Bytes} (content : LooseContent raw) : Bare (quote :: (raw ++ [quote]))

def Frame.opening : Frame → UInt8
  | .list => openList
  | .object => openObject

/-- A value in a list has blanks in front, and a value in an object has its key there as well. -/
inductive Lead : Frame → Bytes → Prop where
  | item {blanks : Bytes} (all : AreBlanks blanks) : Lead .list blanks
  | entry {before raw between after : Bytes} (isBefore : AreBlanks before)
    (isKey : LooseContent raw) (isBetween : AreBlanks between) (isAfter : AreBlanks after) :
    Lead .object (before ++ quote :: (raw ++ quote :: (between ++ colon :: after)))

/-- It does not count what the value means. -/
inductive Member (frame : Frame) (value : Bytes → Prop) : Bytes → Unit → Prop where
  | led {lead token after : Bytes} (isLead : Lead frame lead) (isValue : value token)
    (isAfter : AreBlanks after) : Member frame value (lead ++ (token ++ after)) ()

inductive Enclosed (value : Bytes → Prop) : Bytes → Prop where
  | empty (frame : Frame) {blanks : Bytes} (all : AreBlanks blanks) :
    Enclosed value (frame.opening :: (blanks ++ [frame.close]))
  | members (frame : Frame) {inner : Bytes} {units : List Unit}
    (isInner : Separated (Member frame value) inner units) :
    Enclosed value (frame.opening :: (inner ++ [frame.close]))

/-- An outline nests at most this many brackets. -/
def Outline : Nat → Bytes → Prop
  | 0, bytes => Bare bytes
  | depth + 1, bytes => Bare bytes ∨ Enclosed (Outline depth) bytes

theorem Bare.outline {bytes : Bytes} (bare : Bare bytes) (depth : Nat) : Outline depth bytes := by
  cases depth with
  | zero => exact bare
  | succ depth => exact .inl bare

end Outlines

section Starts

theorem Spells.exists_cons {bytes : Bytes} {token : NumberToken} (spelled : Spells bytes token) :
    ∃ first more, bytes = first :: more ∧ isDigit first = true := by
  obtain @⟨whole, fraction, exponent, _, _, isWhole, _, _⟩ := spelled
  obtain ⟨first, others, rfl⟩ := List.exists_cons_of_ne_nil isWhole.nonempty
  exact ⟨first, _, rfl, isWhole.all first List.mem_cons_self⟩

theorem Bare.startsItem {bytes : Bytes} (bare : Bare bytes) : StartsItem bytes := by
  cases bare with
  | null | boolTrue | boolFalse => exact ⟨_, _, rfl, by decide, by decide⟩
  | positive spelled =>
      obtain ⟨first, more, rfl, digit⟩ := spelled.exists_cons
      have starts : StartsValue .null first := startsValue_of_isDigit digit
      exact ⟨first, more, rfl, starts.solid, starts.notClose⟩
  | negative spelled => exact ⟨minus, _, rfl, by decide, by decide⟩
  | text content => exact ⟨quote, _, rfl, by decide, by decide⟩

theorem startsItem_opening (frame : Frame) (rest : Bytes) :
    StartsItem (frame.opening :: rest) := by
  cases frame with
  | list => exact ⟨openList, rest, rfl, by decide, by decide⟩
  | object => exact ⟨openObject, rest, rfl, by decide, by decide⟩

theorem Outline.startsItem {depth : Nat} {bytes : Bytes} (outline : Outline depth bytes) :
    StartsItem bytes := by
  cases depth with
  | zero => exact Bare.startsItem outline
  | succ depth =>
      obtain bare | enclosed := outline
      · exact bare.startsItem
      · cases enclosed with
        | empty frame _ => exact startsItem_opening frame _
        | members frame _ => exact startsItem_opening frame _

end Starts

section Values

theorem Content.loose {raw content : Bytes} (inside : Content raw content) : LooseContent raw := by
  induction inside with
  | empty => exact .empty
  | more standsFor _ inductionHypothesis =>
      cases standsFor with
      | plain isPlain => exact .plain isPlain inductionHypothesis
      | escaped escape =>
          cases escape with
          | simple named => exact .simple named inductionHypothesis
          | numeric escape =>
              cases escape with
              | single spelled _ _ => exact .numeric spelled inductionHypothesis
              | pair isFirst _ isSecond _ =>
                  rw [List.cons_append, List.cons_append, List.append_assoc]
                  exact .numeric isFirst (.numeric isSecond inductionHypothesis)

theorem IsText.bare {bytes : Bytes} {text : String} (isText : IsText bytes text) : Bare bytes := by
  obtain ⟨content⟩ := isText
  exact .text content.loose

theorem Scalar.bare {bytes : Bytes} {datum : Datum} (scalar : Scalar bytes datum) : Bare bytes := by
  cases scalar with
  | null => exact .null
  | boolTrue => exact .boolTrue
  | boolFalse => exact .boolFalse
  | positive spelled _ => exact .positive spelled
  | negative spelled _ => exact .negative spelled
  | text isText => exact isText.bare

theorem Container.enclosed {value : Bytes → Datum → Prop} {outline : Bytes → Prop}
    (implies : ∀ bytes datum, value bytes datum → outline bytes) {bytes : Bytes} {datum : Datum}
    (container : Container value bytes datum) : Enclosed outline bytes := by
  cases container with
  | emptyList all => exact .empty .list all
  | emptyObject all => exact .empty .object all
  | @list inner items isInner =>
      have members : Separated (Member .list outline) inner (items.map fun _ => ()) := by
        refine isInner.map fun run item padded => ?_
        obtain ⟨isBefore, isToken, isAfter⟩ := padded
        exact .led (.item isBefore) (implies _ _ isToken) isAfter
      exact .members .list members
  | @object inner entries _ isInner _ =>
      suffices members : Separated (Member .object outline) inner (entries.map fun _ => ()) from
        .members .object members
      refine isInner.map fun run entry padded => ?_
      obtain ⟨isBefore, isEntry, isAfter⟩ := padded
      obtain ⟨⟨content⟩, isBetween, isBehind, isValue⟩ := isEntry
      have member := Member.led (.entry isBefore content.loose isBetween isBehind)
        (implies _ _ isValue) isAfter
      simp only [List.append_assoc, List.cons_append, List.nil_append] at member ⊢
      exact member

/-- Every value of the grammar has an outline. -/
theorem Value.outline {depth : Nat} {bytes : Bytes} {datum : Datum}
    (isValue : Value depth bytes datum) : Outline depth bytes := by
  induction depth generalizing bytes datum with
  | zero => exact Scalar.bare isValue
  | succ depth inductionHypothesis =>
      obtain scalar | container := isValue
      · exact .inl scalar.bare
      · exact .inr (container.enclosed fun _ _ isInner => inductionHypothesis isInner)

end Values

section Written

theorem IsNumeral.exists_spells {numeral : Bytes} (isNumeral : IsNumeral numeral) :
    ∃ token, Spells numeral token := by
  obtain ⟨isWhole, isFraction, isExponent⟩ := isNumeral
  rw [List.append_assoc]
  cases isFraction with
  | absent =>
      cases isExponent with
      | absent => exact ⟨_, .parts isWhole .absent .absent⟩
      | digits isSign all => exact ⟨_, .parts isWhole .absent (.signed (.inl rfl) isSign all)⟩
  | digits digits =>
      cases isExponent with
      | absent => exact ⟨_, .parts isWhole (.digits digits) .absent⟩
      | digits isSign all =>
          exact ⟨_, .parts isWhole (.digits digits) (.signed (.inl rfl) isSign all)⟩

theorem member_item {value : Bytes → Prop} {token : Bytes} (isValue : value token) :
    Member .list value token () := by
  have member := Member.led (.item areBlanks_nil) isValue areBlanks_nil
  rwa [List.nil_append, List.append_nil] at member

theorem member_spellEntry (key : String) {value : Bytes → Prop} {token : Bytes}
    (isValue : value token) : Member .object value (spellEntry (key, token)) () := by
  have isText := isText_writeText key
  rw [spellEntry]
  generalize writeText key = name at isText
  obtain ⟨content⟩ := isText
  have member := Member.led (.entry areBlanks_nil content.loose areBlanks_nil areBlanks_nil)
    isValue areBlanks_nil
  simp only [List.append_assoc, List.cons_append, List.nil_append, List.append_nil] at member ⊢
  exact member

theorem bare_writeInt (value : Int) : Bare (writeInt value) := by
  obtain ⟨token, spelled⟩ := (isNumeral_writeNat value.natAbs).exists_spells
  rw [writeInt]
  split
  · exact .negative spelled
  · exact .positive spelled

theorem bare_writeFloat (value : Binary64) : Bare (writeFloat value) := by
  obtain isNull | ⟨numeral, isNumeral, positive | negative⟩ := writeFloat_cases value
  · rw [isNull]
    exact .null
  · obtain ⟨token, spelled⟩ := isNumeral.exists_spells
    rw [positive]
    exact .positive spelled
  · obtain ⟨token, spelled⟩ := isNumeral.exists_spells
    rw [negative]
    exact .negative spelled

/-- Every written datum has an outline, whether or not the format keeps the datum. -/
theorem outline_write (depth : Nat) {datum : Datum} (shallow : datum.depth ≤ depth)
    {payload : Bytes} (written : write datum = .ok payload) : Outline depth payload := by
  match datum with
  | .null =>
      rw [write, Except.ok.injEq] at written
      rw [← written]
      exact Bare.null.outline depth
  | .bool true =>
      rw [write, Except.ok.injEq] at written
      rw [← written]
      exact Bare.boolTrue.outline depth
  | .bool false =>
      rw [write, Except.ok.injEq] at written
      rw [← written]
      exact Bare.boolFalse.outline depth
  | .int value =>
      rw [write, Except.ok.injEq] at written
      rw [← written]
      exact (bare_writeInt value).outline depth
  | .float value =>
      rw [write, Except.ok.injEq] at written
      rw [← written]
      exact (bare_writeFloat value).outline depth
  | .text value =>
      rw [write, Except.ok.injEq] at written
      rw [← written]
      exact (isText_writeText value).bare.outline depth
  | .list items =>
      obtain ⟨inner, rfl, within⟩ := Shape.exists_depth_of_le shallow
      rw [Datum.listDepth_le_iff] at within
      obtain ⟨parts, rfl, all, rfl⟩ := write_list_eq_ok written
      cases parts with
      | nil => exact .inr (.empty .list areBlanks_nil)
      | cons first parts =>
          have members := separated_intercalate fun part (member : part ∈ first :: parts) =>
            member_item (outline_write inner (within _ (List.mem_map_of_mem member))
              (all part member))
          exact .inr (.members .list members)
  | .object entries =>
      obtain ⟨inner, rfl, within⟩ := Shape.exists_depth_of_le shallow
      rw [Datum.entriesDepth_le_iff] at within
      obtain ⟨parts, rfl, all, rfl⟩ := write_object_eq_ok written
      cases parts with
      | nil => exact .inr (.empty .object areBlanks_nil)
      | cons first parts =>
          have members := separated_intercalate fun entry (member : entry ∈ first :: parts) =>
            member_spellEntry entry.1 (outline_write inner
              (within _ (List.mem_map_of_mem member)) (all entry member))
          exact .inr (.members .object members)
  | .pairs [] =>
      obtain ⟨inner, rfl⟩ := Nat.exists_eq_add_of_le' (Nat.le_of_succ_le shallow)
      rw [write, Except.ok.injEq] at written
      rw [← written]
      exact .inr (.empty .object areBlanks_nil)
  | .pairs (_ :: _) => simp [write] at written

end Written

end Switchboard.Json
