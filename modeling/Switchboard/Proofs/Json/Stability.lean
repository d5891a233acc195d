import Switchboard.Proofs.Json.Acceptance
import Switchboard.Proofs.Stability

/-
This file shows that more bytes behind a JSON value, and more room for its brackets, never change
what is read. Only a number may go on in the bytes that are added.
-/

namespace Switchboard.Json

/-- What follows a number does not belong to it. -/
def EndsNumber (behind : Bytes) : Prop := endsNumber behind = true

section Numbers

/-- A run of digits that has ended does not go on. -/
theorem not_startsWithDigit_append {rest behind : Bytes} (stops : startsWithDigit rest = false)
    (ends : rest = [] → EndsNumber behind) : startsWithDigit (rest ++ behind) = false := by
  cases rest with
  | nil => exact not_startsWithDigit (ends rfl)
  | cons byte rest => exact stops

theorem digits_append {bytes behind : Bytes}
    (ends : bytes.dropWhile isDigit = [] → EndsNumber behind) :
    (bytes ++ behind).takeWhile isDigit = bytes.takeWhile isDigit ∧
      (bytes ++ behind).dropWhile isDigit = bytes.dropWhile isDigit ++ behind := by
  have all : ∀ byte ∈ bytes.takeWhile isDigit, isDigit byte = true :=
    fun _ member => List.mem_takeWhile_imp member
  have stops := not_startsWithDigit_append (startsWithDigit_dropWhile bytes) ends
  have parts : bytes ++ behind =
      bytes.takeWhile isDigit ++ (bytes.dropWhile isDigit ++ behind) := by
    rw [← List.append_assoc, List.takeWhile_append_dropWhile]
  constructor
  · rw [parts, takeWhile_isDigit_append all stops]
  · rw [parts, dropWhile_isDigit_append all stops]

theorem widens_readWhole : Widens EndsNumber readWhole readWhole := by
  intro bytes whole rest read
  obtain ⟨isWhole, stops, rfl⟩ := readWhole_eq_ok.1 read
  refine ⟨List.suffix_append _ _, fun behind ends => ?_⟩
  exact readWhole_eq_ok.2 ⟨isWhole, not_startsWithDigit_append stops ends, List.append_assoc ..⟩

theorem widens_readFraction : Widens EndsNumber readFraction readFraction := by
  intro bytes digits rest read
  cases bytes with
  | nil =>
      cases read
      exact ⟨List.suffix_refl _, fun behind ends => readFraction_of_endsNumber (ends rfl)⟩
  | cons byte bytes =>
      rw [readFraction.eq_def] at read
      dsimp only at read
      split at read
      · next other =>
          cases read
          refine ⟨List.suffix_refl _, fun behind _ => ?_⟩
          exact if_pos other
      next isPoint =>
      split at read
      · next starts =>
          cases read
          have isSuffix := (List.dropWhile_suffix isDigit).trans (List.suffix_cons byte bytes)
          refine ⟨isSuffix, fun behind ends => ?_⟩
          obtain ⟨taken, dropped⟩ := digits_append ends
          obtain ⟨first, more, rfl, digit⟩ := exists_digit_of_startsWithDigit starts
          dsimp only
          rw [List.cons_append, readFraction.eq_def]
          dsimp only
          rw [if_neg isPoint, taken, dropped]
          exact if_pos digit
      · split at read <;> cases read

/-- A sign is read alike when there is something behind it. -/
theorem readExponentSign_append {bytes digits : Bytes} {positive : Bool} {digit : UInt8}
    (signed : readExponentSign bytes = (positive, digit :: digits)) (behind : Bytes) :
    readExponentSign (bytes ++ behind) = (positive, digit :: (digits ++ behind)) := by
  cases bytes with
  | nil => cases signed
  | cons byte bytes =>
      rw [List.cons_append]
      rw [readExponentSign] at signed ⊢
      split at signed
      · next isPlus =>
          cases signed
          exact if_pos isPlus
      next notPlus =>
      rw [if_neg notPlus]
      split at signed
      · next isMinus =>
          cases signed
          exact if_pos isMinus
      · next notMinus =>
          cases signed
          exact if_neg notMinus

theorem widens_readExponent : Widens EndsNumber readExponent readExponent := by
  intro bytes parts rest read
  obtain ⟨run, _, same⟩ := spellsExponent_of_readExponent read
  have isSuffix : rest <:+ bytes := same ▸ List.suffix_append run rest
  refine ⟨isSuffix, fun behind ends => ?_⟩
  cases bytes with
  | nil =>
      cases read
      exact readExponent_of_endsNumber (ends rfl)
  | cons letter bytes =>
      rw [readExponent] at read
      split at read
      · next isLetter =>
          generalize signed : readExponentSign bytes = sign at read
          obtain ⟨positive, digits⟩ := sign
          dsimp only at read
          split at read
          · cases read
          next digit digits =>
          split at read
          · next isFirst =>
              cases read
              obtain ⟨taken, dropped⟩ := digits_append ends
              dsimp only
              rw [List.cons_append, readExponent, if_pos isLetter,
                readExponentSign_append signed behind]
              dsimp only
              rw [if_pos isFirst, taken, dropped]
          · cases read
      · next other =>
          cases read
          exact if_neg other

theorem widens_readNumberToken : Widens EndsNumber readNumberToken readNumberToken := by
  intro bytes
  refine (widens_readWhole bytes).bind fun whole rest _ => ?_
  refine (widens_readFraction rest).bind fun fraction rest _ => ?_
  exact (widens_readExponent rest).bind fun exponent rest _ => .ok _

theorem widens_readNumber (negative : Bool) :
    Widens EndsNumber (readNumber negative) (readNumber negative) := by
  intro bytes
  refine (widens_readNumberToken bytes).bind fun token rest _ => ?_
  dsimp only
  cases token.evaluate negative with
  | ok number => exact .ok number
  | error unread => exact .error _

/-- Skipping a part of a number succeeds where reading it does. -/
def Skips {α : Type} (skip : Reader Unit) (read : Reader α) : Prop :=
  ∀ bytes rest, skip bytes = .ok ((), rest) ↔ ∃ value, read bytes = .ok (value, rest)

theorem skips_readWhole : Skips skipWhole readWhole := by
  intro bytes rest
  cases bytes with
  | nil => simp [skipWhole, readWhole]
  | cons first bytes =>
      rw [skipWhole, readWhole]
      split
      · simp
      · split <;> simp

theorem skips_readFraction : Skips skipFraction readFraction := by
  intro bytes rest
  cases bytes with
  | nil => simp [skipFraction, readFraction]
  | cons byte bytes =>
      rw [skipFraction, readFraction.eq_def]
      dsimp only
      split
      · simp
      split
      · simp
      · cases bytes <;> simp

theorem skips_readExponent : Skips skipExponent readExponent := by
  intro bytes rest
  cases bytes with
  | nil => simp [skipExponent, readExponent]
  | cons byte bytes =>
      rw [skipExponent, readExponent]
      split
      · obtain ⟨positive, digits⟩ := readExponentSign bytes
        cases digits with
        | nil => simp
        | cons digit digits =>
            dsimp only
            split <;> simp
      · simp

/-- What holds for the bytes that a part is read from holds when the part is skipped. -/
theorem Skips.widens {α : Type} {skip : Reader Unit} {read : Reader α} (skips : Skips skip read)
    (widens : Widens EndsNumber read read) : Widens EndsNumber skip skip := by
  intro bytes _ rest skipped
  obtain ⟨value, same⟩ := (skips bytes rest).1 skipped
  obtain ⟨isSuffix, unchanged⟩ := widens bytes value rest same
  exact ⟨isSuffix, fun behind ends => (skips _ _).2 ⟨value, unchanged behind ends⟩⟩

theorem widens_skipNumber : Widens EndsNumber skipNumber skipNumber := by
  intro bytes
  refine (skips_readWhole.widens widens_readWhole bytes).bind fun _ rest _ => ?_
  refine (skips_readFraction.widens widens_readFraction rest).bind fun _ rest _ => ?_
  exact skips_readExponent.widens widens_readExponent rest

end Numbers

section Texts

theorem widens_readText : Widens Anything readText readText := by
  intro bytes text rest read
  obtain ⟨raw, content, rfl⟩ := readText_eq_ok.1 read
  have isSuffix : rest <:+ raw ++ quote :: rest :=
    (List.suffix_cons quote rest).trans (List.suffix_append _ _)
  refine ⟨isSuffix, fun behind _ => readText_eq_ok.2 ⟨raw, content, ?_⟩⟩
  rw [List.append_assoc, List.cons_append]

theorem widens_readFourHex : Widens Anything readFourHex readFourHex := by
  intro bytes unit rest read
  obtain ⟨digits, spelled, rfl⟩ := readFourHex_eq_ok.1 read
  refine ⟨List.suffix_append _ _, fun behind _ => readFourHex_eq_ok.2 ⟨digits, spelled, ?_⟩⟩
  rw [List.append_assoc]

theorem widens_skipEscape : Widens Anything skipEscape skipEscape := by
  intro bytes
  cases bytes with
  | nil => exact .error _
  | cons byte rest =>
      refine .behind ?_
      simp only [List.cons_append, skipEscape]
      cases simpleEscape? byte with
      | some value => exact .ok ()
      | none =>
          refine .ite (fun _ => ?_) fun _ => .error _
          exact (widens_readFourHex rest).bind fun _ _ _ => .ok ()

/-- The closing quote ends a skipped text, whatever room the bound has left. -/
theorem stable_skipContent (bound : Bytes) (room : Bytes → Bytes) (bytes : Bytes) :
    Stable Anything bytes (skipContent bound bytes)
      fun behind => skipContent (bound ++ room behind) (bytes ++ behind) := by
  induction bound generalizing bytes with
  | nil => cases bytes <;> exact .error _
  | cons mark bound inductionHypothesis =>
      cases bytes with
      | nil => exact .error _
      | cons byte rest =>
          refine .behind ?_
          refine .ite (fun _ => .ok ()) fun _ => ?_
          refine .ite (fun _ => ?_) fun _ => .ite (fun _ => .error _) fun _ => ?_
          · exact (widens_skipEscape rest).bind fun _ rest _ => inductionHypothesis rest
          · exact inductionHypothesis rest

theorem widens_skipText : Widens Anything skipText skipText :=
  fun bytes => stable_skipContent bytes id bytes

theorem widens_readLiteral (expected : Bytes) :
    Widens Anything (readLiteral expected) (readLiteral expected) := by
  intro bytes
  induction expected generalizing bytes with
  | nil => exact .ok ()
  | cons byte expected inductionHypothesis =>
      cases bytes with
      | nil => exact .error _
      | cons first rest =>
          refine .behind ?_
          exact .ite (fun _ => inductionHypothesis rest) fun _ => .error _

end Texts

section Blanks

variable {bytes more : Bytes} {byte : UInt8} (skipped : skipBlanks bytes = byte :: more)
include skipped

theorem suffix_of_skipBlanks : byte :: more <:+ bytes :=
  skipped ▸ List.dropWhile_suffix isBlank

theorem suffix_behind_blanks : more <:+ bytes :=
  (List.suffix_cons byte more).trans (suffix_of_skipBlanks skipped)

/-- The byte behind the blanks stays the same when more bytes follow. -/
theorem skipBlanks_append_of_cons (behind : Bytes) :
    skipBlanks (bytes ++ behind) = byte :: (more ++ behind) := by
  rw [skipBlanks] at skipped ⊢
  rw [List.dropWhile_append, skipped]
  rfl

end Blanks

section Marks

theorem widens_nextItem (first : Bool) : Widens Anything (nextItem first) (nextItem first) := by
  intro bytes
  unfold nextItem
  cases skipped : skipBlanks bytes with
  | nil => exact .error _
  | cons byte more =>
      simp only [skipBlanks_append_of_cons skipped]
      refine .of_suffix (suffix_of_skipBlanks skipped) ?_
      refine .ite (fun _ => .ok _) fun _ => .ite (fun _ => .ok _) fun _ => ?_
      refine .ite (fun _ => ?_) fun _ => .error _
      cases behindComma : skipBlanks more with
      | nil => exact .error _
      | cons start others =>
          simp only [skipBlanks_append_of_cons behindComma]
          refine .behind (.of_suffix (suffix_of_skipBlanks behindComma) ?_)
          exact .ite (fun _ => .error _) fun _ => .ok _

theorem widens_nextKey (first : Bool) : Widens Anything (nextKey first) (nextKey first) := by
  intro bytes
  unfold nextKey
  cases skipped : skipBlanks bytes with
  | nil => exact .error _
  | cons byte more =>
      simp only [skipBlanks_append_of_cons skipped]
      refine .of_suffix (suffix_of_skipBlanks skipped) ?_
      refine .ite (fun _ => .ok _) fun _ => .ite (fun _ => ?_) fun _ => ?_
      · exact .ite (fun _ => .behind (.ok _)) fun _ => .error _
      refine .ite (fun _ => ?_) fun _ => .error _
      cases behindComma : skipBlanks more with
      | nil => exact .error _
      | cons start others =>
          simp only [skipBlanks_append_of_cons behindComma]
          refine .behind (.of_suffix (suffix_behind_blanks behindComma) ?_)
          refine .ite (fun _ => .ok _) fun _ => ?_
          exact .ite (fun _ => .error _) fun _ => .error _

theorem widens_readColon : Widens Anything readColon readColon := by
  intro bytes
  unfold readColon
  cases skipped : skipBlanks bytes with
  | nil => exact .error _
  | cons byte more =>
      simp only [skipBlanks_append_of_cons skipped]
      refine .of_suffix (suffix_behind_blanks skipped) ?_
      exact .ite (fun _ => .ok ()) fun _ => .error _

theorem widens_readListEnd : Widens Anything readListEnd readListEnd := by
  intro bytes
  unfold readListEnd
  cases skipped : skipBlanks bytes with
  | nil => exact .error _
  | cons byte more =>
      simp only [skipBlanks_append_of_cons skipped]
      refine .of_suffix (suffix_behind_blanks skipped) ?_
      refine .ite (fun _ => .ok ()) fun _ => .ite (fun _ => .of_stopped ?_) fun _ => .error _
      intro output
      cases skipBlanks more with
      | nil => simp
      | cons start others =>
          dsimp only
          split <;> simp

theorem widens_readObjectEnd : Widens Anything readObjectEnd readObjectEnd := by
  intro bytes
  unfold readObjectEnd
  cases skipped : skipBlanks bytes with
  | nil => exact .error _
  | cons byte more =>
      simp only [skipBlanks_append_of_cons skipped]
      refine .of_suffix (suffix_behind_blanks skipped) ?_
      exact .ite (fun _ => .ok ()) fun _ => .ite (fun _ => .error _) fun _ => .error _

end Marks

section Skipping

theorem widens_skipToValue (frame : Frame) :
    Widens Anything frame.skipToValue frame.skipToValue := by
  intro bytes
  cases frame with
  | list => exact .ok ()
  | object =>
      dsimp only [Frame.skipToValue]
      cases skipped : skipBlanks bytes with
      | nil => exact .error _
      | cons byte more =>
          simp only [skipBlanks_append_of_cons skipped]
          refine .of_suffix (suffix_behind_blanks skipped) ?_
          refine .ite (fun _ => .error _) fun _ => ?_
          refine (widens_skipText more).bind fun _ rest _ => ?_
          dsimp only
          cases behindKey : skipBlanks rest with
          | nil => exact .error _
          | cons start others =>
              simp only [skipBlanks_append_of_cons behindKey]
              refine .of_suffix (suffix_behind_blanks behindKey) ?_
              exact .ite (fun _ => .ok ()) fun _ => .error _

theorem widens_skipAfterValue (frames : List Frame) :
    Widens Anything (skipAfterValue frames) (skipAfterValue frames) := by
  induction frames with
  | nil => exact fun bytes => .ok []
  | cons frame outer inductionHypothesis =>
      intro bytes
      unfold skipAfterValue
      cases skipped : skipBlanks bytes with
      | nil => exact .error _
      | cons byte more =>
          simp only [skipBlanks_append_of_cons skipped]
          refine .of_suffix (suffix_behind_blanks skipped) ?_
          refine .ite (fun _ => ?_) fun _ => .ite (fun _ => inductionHypothesis more) fun _ => .error _
          exact (widens_skipToValue frame more).bind fun _ rest _ => .ok _

theorem widens_skipOpened (frame : Frame) (outer : List Frame) :
    Widens Anything (skipOpened frame outer) (skipOpened frame outer) := by
  intro bytes
  unfold skipOpened
  cases skipped : skipBlanks bytes with
  | nil => exact .error _
  | cons byte more =>
      simp only [skipBlanks_append_of_cons skipped]
      refine .of_suffix (suffix_of_skipBlanks skipped) ?_
      refine .ite (fun _ => ?_) fun _ => ?_
      · exact (widens_skipAfterValue outer more).behind
      · exact (widens_skipToValue frame (byte :: more)).bind fun _ rest _ => .ok _

/-- Only a number that is skipped may need something behind it. -/
theorem widens_skipStep (frames : List Frame) :
    Widens EndsNumber (skipStep frames) (skipStep frames) := by
  intro bytes
  unfold skipStep
  have after := widens_skipAfterValue frames
  cases skipped : skipBlanks bytes with
  | nil => exact .error _
  | cons byte more =>
      simp only [skipBlanks_append_of_cons skipped]
      refine .of_suffix (suffix_of_skipBlanks skipped) ?_
      refine .ite (fun _ => .behind (.closed ?_)) fun _ => .ite (fun _ => .behind (.closed ?_))
        fun _ => .ite (fun _ => .behind (.closed ?_)) fun _ => .ite (fun _ => ?_) fun _ =>
        .ite (fun _ => .behind ?_) fun _ => .ite (fun _ => .behind (.closed ?_)) fun _ =>
        .ite (fun _ => .behind (.closed ?_)) fun _ => .ite (fun _ => .behind (.closed ?_))
        fun _ => .error _
      · exact (widens_skipText more).bind fun _ rest _ => after rest
      · exact widens_skipOpened .object frames more
      · exact widens_skipOpened .list frames more
      · exact (widens_skipNumber (byte :: more)).bind fun _ rest _ => (after rest).closed
      · exact (widens_skipNumber more).bind fun _ rest _ => (after rest).closed
      · exact (widens_readLiteral _ more).bind fun _ rest _ => after rest
      · exact (widens_readLiteral _ more).bind fun _ rest _ => after rest
      · exact (widens_readLiteral _ more).bind fun _ rest _ => after rest

theorem stable_skipSteps (bound : Bytes) (room : Bytes → Bytes) (frames : List Frame)
    (bytes : Bytes) :
    Stable EndsNumber bytes (skipSteps bound frames bytes)
      fun behind => skipSteps (bound ++ room behind) frames (bytes ++ behind) := by
  induction bound generalizing frames bytes with
  | nil => exact .error _
  | cons mark bound inductionHypothesis =>
      refine (widens_skipStep frames bytes).bind fun remaining rest _ => ?_
      cases remaining with
      | nil => exact .ok ()
      | cons frame outer => exact inductionHypothesis (frame :: outer) rest

theorem widens_skipValue : Widens EndsNumber skipValue skipValue :=
  fun bytes => stable_skipSteps bytes id [] bytes

end Skipping

section Containers

variable {α : Type}

theorem nextItem_nil (first : Bool) : ∃ fault, nextItem first [] = .error fault := ⟨_, rfl⟩

theorem nextKey_nil (first : Bool) : ∃ fault, nextKey first [] = .error fault := ⟨_, rfl⟩

variable {exhausted : Cause} {next : Bool → Reader Next} {part partWide : Reader α}
  (nextNil : ∀ first, ∃ fault, next first [] = .error fault)
include nextNil

theorem readParts_nil (bound : Bytes) (first : Bool) :
    ∃ fault, readParts exhausted next part bound first [] = .error fault := by
  cases bound with
  | nil => exact ⟨_, rfl⟩
  | cons mark bound => exact exists_error_bind (nextNil first) _

/-- What follows a part ends it, so the parts of a container may have anything behind them. -/
theorem stable_readParts (nextWidens : ∀ first, Widens Anything (next first) (next first))
    (widens : Widens EndsNumber part partWide) (bound : Bytes) (room : Bytes → Bytes)
    (first : Bool) (bytes : Bytes) :
    Stable Anything bytes (readParts exhausted next part bound first bytes)
      fun behind => readParts exhausted next partWide (bound ++ room behind) first
        (bytes ++ behind) := by
  induction bound generalizing first bytes with
  | nil => exact .error _
  | cons mark bound inductionHypothesis =>
      refine (nextWidens first bytes).bind fun found rest _ => ?_
      cases found with
      | closed => exact .ok []
      | item =>
          refine (widens rest).bind_of_hungry (fun meaning rest _ => ?_) fun meaning => ?_
          · exact (inductionHypothesis false rest).bind fun _ _ _ => .ok _
          · exact exists_error_bind (readParts_nil nextNil bound false) _

end Containers

section Brackets

variable {item itemWide : Reader Datum} (widens : Widens EndsNumber item itemWide)
include widens

theorem widens_readList : Widens Anything (readList item) (readList itemWide) := by
  intro bytes
  simp only [readList, readItems_eq_readParts]
  refine (stable_readParts nextItem_nil widens_nextItem widens bytes id true bytes).bind
    fun items rest _ => ?_
  exact (widens_readListEnd rest).bind fun _ _ _ => .ok _

theorem widens_readEntry : Widens EndsNumber (readEntry item) (readEntry itemWide) := by
  intro bytes
  refine (widens_readText bytes).closed.bind fun key rest _ => ?_
  refine (widens_readColon rest).closed.bind fun _ rest _ => ?_
  exact (widens rest).bind fun held rest _ => .ok _

theorem widens_readDictionary :
    Widens Anything (readDictionary item) (readDictionary itemWide) := by
  intro bytes
  simp only [readDictionary, readEntries_eq_readParts]
  refine (stable_readParts nextKey_nil widens_nextKey (widens_readEntry widens) bytes id true
    bytes).bind fun entries rest _ => ?_
  exact (widens_readObjectEnd rest).bind fun _ _ _ => .ok _

end Brackets

theorem widens_readPairTable (expectedKey : String) :
    Widens Anything (readPairTable expectedKey) (readPairTable expectedKey) := by
  intro bytes
  refine (widens_nextKey true bytes).bind fun found rest _ => ?_
  cases found with
  | closed => exact (widens_readObjectEnd rest).bind fun _ _ _ => .ok _
  | item => exact (widens_readText rest).bind fun _ _ _ => .error _

section Fields

/-- Two field readers differ only in how far they read. -/
inductive FieldReader.Grows : FieldReader → FieldReader → Prop where
  | read {name : String} {defaulted : Bool} {narrow wide : Reader Datum}
    (widens : Widens EndsNumber narrow wide) :
    Grows ⟨name, defaulted, narrow⟩ ⟨name, defaulted, wide⟩

variable {fields fieldsWide : List FieldReader}
  (grows : List.Forall₂ FieldReader.Grows fields fieldsWide)
include grows

theorem widens_readPositional (expected : String) (index : Nat) (first : Bool) :
    Widens EndsNumber (readPositional expected index first fields)
      (readPositional expected index first fieldsWide) := by
  induction grows generalizing index first with
  | nil => exact fun bytes => .ok []
  | @cons field fieldWide fields fieldsWide head _ inductionHypothesis =>
      intro bytes
      obtain ⟨widens⟩ := head
      refine (widens_nextItem first bytes).closed.bind fun found rest _ => ?_
      cases found with
      | item =>
          refine (widens rest).bind fun value rest _ => ?_
          exact (inductionHypothesis (index + 1) false rest).bind fun _ _ _ => .ok _
      | closed =>
          refine .ite (fun _ => ?_) fun _ => .error _
          exact (inductionHypothesis (index + 1) first rest).bind fun _ _ _ => .ok _

theorem widens_readRecordList (expected : String) :
    Widens Anything (readRecordList expected fields) (readRecordList expected fieldsWide) := by
  intro bytes
  refine (widens_readPositional grows expected 0 true bytes).bind_of_hungry
    (fun entries rest _ => ?_) fun entries => ⟨_, rfl⟩
  exact (widens_readListEnd rest).bind fun _ _ _ => .ok _

theorem find?_of_grows (key : String) :
    Option.Rel FieldReader.Grows (FieldReader.find? key fields)
      (FieldReader.find? key fieldsWide) := by
  induction grows with
  | nil => exact .none
  | @cons field fieldWide fields fieldsWide head _ inductionHypothesis =>
      obtain @⟨name, _, _, _, widens⟩ := head
      rw [FieldReader.find?, FieldReader.find?]
      by_cases same : name = key
      · rw [if_pos same, if_pos same]
        exact .some (.read widens)
      · rw [if_neg same, if_neg same]
        exact inductionHypothesis

omit grows in
theorem readNamed_nil (bound : Bytes) (first : Bool) (found : List (String × Datum)) :
    ∃ fault, readNamed fields bound first found [] = .error fault := by
  cases bound with
  | nil => exact ⟨_, rfl⟩
  | cons mark bound => exact exists_error_bind (nextKey_nil first) _

theorem stable_readNamed (bound : Bytes) (room : Bytes → Bytes) (first : Bool)
    (found : List (String × Datum)) (bytes : Bytes) :
    Stable Anything bytes (readNamed fields bound first found bytes)
      fun behind => readNamed fieldsWide (bound ++ room behind) first found (bytes ++ behind) := by
  induction bound generalizing first found bytes with
  | nil => exact .error _
  | cons mark bound inductionHypothesis =>
      refine (widens_nextKey first bytes).bind fun next rest _ => ?_
      cases next with
      | closed => exact .ok found
      | item =>
          refine (widens_readText rest).bind fun key rest _ => ?_
          have related := find?_of_grows grows key
          dsimp only
          generalize FieldReader.find? key fields = field at related
          generalize FieldReader.find? key fieldsWide = fieldWide at related
          cases related with
          | none =>
              refine (widens_readColon rest).bind fun _ rest _ => ?_
              exact (widens_skipValue rest).bind_of_hungry
                (fun _ rest _ => inductionHypothesis false found rest)
                fun _ => readNamed_nil bound false found
          | some both =>
              obtain ⟨widens⟩ := both
              refine .ite (fun _ => .error _) fun _ => ?_
              refine (widens_readColon rest).bind fun _ rest _ => ?_
              exact (widens rest).bind_of_hungry
                (fun value rest _ => inductionHypothesis false _ rest)
                fun value => readNamed_nil bound false _

theorem widens_readRecordObject (declared : Fields) :
    Widens Anything (readRecordObject declared fields) (readRecordObject declared fieldsWide) := by
  intro bytes
  refine (stable_readNamed grows bytes id true [] bytes).bind fun found rest _ => ?_
  dsimp only
  cases declared.assemble found with
  | error mismatch => exact .error _
  | ok entries => exact (widens_readObjectEnd rest).bind fun _ _ _ => .ok _

end Fields

theorem widens_readPair (expected : String) {first firstWide second secondWide : Reader Datum}
    (firstWidens : Widens EndsNumber first firstWide)
    (secondWidens : Widens EndsNumber second secondWide) :
    Widens Anything (readPair expected first second) (readPair expected firstWide secondWide) := by
  intro bytes
  have grows : List.Forall₂ FieldReader.Grows
      [⟨"first", false, first⟩, ⟨"second", false, second⟩]
      [⟨"first", false, firstWide⟩, ⟨"second", false, secondWide⟩] :=
    .cons (.read firstWidens) (.cons (.read secondWidens) .nil)
  refine (widens_readPositional grows expected 0 true bytes).bind_of_hungry
    (fun items rest _ => ?_) fun items => ⟨_, rfl⟩
  exact (widens_readListEnd rest).bind fun _ _ _ => .ok _

section Values

/-- A digit and a minus sign start a number, and nothing else does. -/
def startsNumber : Bytes → Bool
  | [] => false
  | byte :: _ => isDigit byte || byte = minus

/-- Only a value that starts like a number has to be ended by what is behind it. -/
def EndsValue (bytes behind : Bytes) : Prop :=
  startsNumber (skipBlanks bytes) = true → endsNumber behind = true

/-- The wide reader returns every value that the narrow one does, also when more bytes follow. -/
def WidensValues (narrow wide : Reader Datum) : Prop :=
  ∀ bytes, Stable (EndsValue bytes) bytes (narrow bytes) fun behind => wide (bytes ++ behind)

theorem WidensValues.widens {narrow wide : Reader Datum} (values : WidensValues narrow wide) :
    Widens EndsNumber narrow wide :=
  fun bytes => (values bytes).weaken fun _ ends _ => ends

theorem stable_readHead (bytes : Bytes) :
    Stable (EndsValue bytes) bytes (readHead bytes) fun behind => readHead (bytes ++ behind) := by
  unfold readHead
  cases skipped : skipBlanks bytes with
  | nil => exact .error _
  | cons byte more =>
      simp only [skipBlanks_append_of_cons skipped]
      refine .of_suffix (suffix_of_skipBlanks skipped) ?_
      refine .ite (fun _ => .behind (.closed ?_)) fun _ => .ite (fun _ => .ok _) fun _ =>
        .ite (fun _ => .ok _) fun _ => .ite (fun digit => ?_) fun _ =>
        .ite (fun isMinus => .behind ?_) fun _ => .ite (fun _ => .behind (.closed ?_)) fun _ =>
        .ite (fun _ => .behind (.closed ?_)) fun _ => .ite (fun _ => .behind (.closed ?_))
        fun _ => .error _
      · exact (widens_readText more).bind fun _ _ _ => .ok _
      · have number (behind : Bytes) (ends : EndsValue bytes behind) : EndsNumber behind :=
          ends (by rw [skipped, startsNumber, digit, Bool.true_or])
        exact ((widens_readNumber false (byte :: more)).weaken number).bind fun _ _ _ => .ok _
      · have number (behind : Bytes) (ends : EndsValue bytes behind) : EndsNumber behind :=
          ends (by rw [skipped, startsNumber, decide_eq_true isMinus, Bool.or_true])
        exact ((widens_readNumber true more).weaken number).bind fun _ _ _ => .ok _
      · exact (widens_readLiteral _ more).bind fun _ _ _ => .ok _
      · exact (widens_readLiteral _ more).bind fun _ _ _ => .ok _
      · exact (widens_readLiteral _ more).bind fun _ _ _ => .ok _

/-- A bracket is left unread. -/
theorem exists_bracket_of_readHead {bytes rest : Bytes} {head : Head}
    (read : readHead bytes = .ok (head, rest)) (bracket : head.isScalar = false) :
    ∃ byte more, rest = byte :: more := by
  have isHead := isHead_of_readHead read
  generalize skipBlanks bytes = skipped at isHead
  cases isHead with
  | openList more => exact ⟨_, more, rfl⟩
  | openObject more => exact ⟨_, more, rfl⟩
  | scalar whole => exact absurd whole (by simp [bracket])

/-- What is behind a bracket that may be opened is read alike when there is more room. -/
theorem stable_enter {ends : Bytes → Prop} {inner outer : Nat} (roomier : inner ≤ outer)
    {inside insideWide : Nat → Reader Datum}
    (widens : ∀ less more, less ≤ more → Widens Anything (inside less) (insideWide more))
    {bytes rest : Bytes} {head : Head} (read : readHead bytes = .ok (head, rest))
    (bracket : head.isScalar = false) :
    Stable ends rest (enter inner inside rest)
      fun behind => enter outer insideWide (rest ++ behind) := by
  obtain ⟨byte, more, rfl⟩ := exists_bracket_of_readHead read bracket
  cases inner with
  | zero => exact .error _
  | succ inner =>
      obtain ⟨spare, rfl⟩ := Nat.exists_eq_add_of_lt roomier
      exact (widens inner (inner + spare) (by omega) more).closed.behind

theorem widens_readAny {inner outer : Nat} (roomier : inner ≤ outer) :
    WidensValues (readAny inner) (readAny outer) := by
  induction inner generalizing outer with
  | zero =>
      intro bytes
      cases outer with
      | zero | succ outer =>
          refine (stable_readHead bytes).bind fun head rest _ => ?_
          cases head with
          | openList | openObject => exact .error _
          | null | bool _ | number _ | text _ => exact .ok _
  | succ inner inductionHypothesis =>
      obtain ⟨spare, rfl⟩ := Nat.exists_eq_add_of_lt roomier
      have inside := (inductionHypothesis (show inner ≤ inner + spare by omega)).widens
      intro bytes
      refine (stable_readHead bytes).bind fun head rest read => ?_
      cases head with
      | openList =>
          obtain ⟨byte, more, rfl⟩ := exists_bracket_of_readHead read rfl
          exact (widens_readList inside more).closed.behind
      | openObject =>
          obtain ⟨byte, more, rfl⟩ := exists_bracket_of_readHead read rfl
          exact (widens_readDictionary inside more).closed.behind
      | null | bool _ | number _ | text _ => exact .ok _

theorem readHead_blank {bytes : Bytes} (nothing : skipBlanks bytes = []) :
    readHead bytes = .error (faultAt .endInValue []) := by
  rw [readHead, nothing]

/-- Every value takes at least one byte that is no blank. -/
theorem readShape_blank_ne_ok {shape : Shape} {depth : Nat} {bytes : Bytes}
    (nothing : skipBlanks bytes = []) {output : Datum × Bytes} :
    readShape shape depth bytes ≠ .ok output := by
  match shape with
  | .unit | .bool | .integer _ | .text | .list _ | .dictionary _ | .pair _ _ | .pairTable
  | .record _ _ =>
      simp [readShape, readHead_blank nothing]
  | .optional content =>
      rw [readShape, nothing]
      exact readShape_blank_ne_ok nothing
  | .any =>
      cases depth with
      | zero | succ depth =>
          simp [readShape, readAny, readHead_blank nothing]

mutual

/-- More bytes behind a value of any shape and more room inside leave the value as it was. -/
theorem widens_readShape (shape : Shape) {inner outer : Nat} (roomier : inner ≤ outer) :
    WidensValues (readShape shape inner) (readShape shape outer) := by
  intro bytes
  match shape with
  | .unit =>
      refine (stable_readHead bytes).bind fun head rest _ => ?_
      cases head with
      | null => exact .ok _
      | bool _ | number _ | text _ | openList | openObject => exact .error _
  | .bool =>
      refine (stable_readHead bytes).bind fun head rest _ => ?_
      cases head with
      | bool value => exact .ok _
      | null | number _ | text _ | openList | openObject => exact .error _
  | .integer type =>
      refine (stable_readHead bytes).bind fun head rest _ => ?_
      cases head with
      | number value =>
          cases value with
          | integer value =>
              dsimp only
              cases type.accept value with
              | ok value => exact .ok _
              | error mismatch => exact .error _
          | float value => exact .error _
      | null | bool _ | text _ | openList | openObject => exact .error _
  | .text =>
      refine (stable_readHead bytes).bind fun head rest _ => ?_
      cases head with
      | text value => exact .ok _
      | null | bool _ | number _ | openList | openObject => exact .error _
  | .optional content =>
      cases skipped : skipBlanks bytes with
      | nil => exact .of_stopped fun _ => readShape_blank_ne_ok skipped
      | cons byte more =>
          unfold readShape
          simp only [skipped, skipBlanks_append_of_cons skipped]
          refine .ite (fun _ => ?_) fun _ => widens_readShape content roomier bytes
          exact (stable_readHead bytes).bind fun head rest _ => .ok _
  | .list item =>
      refine (stable_readHead bytes).bind fun head rest read => ?_
      cases head with
      | openList =>
          refine stable_enter roomier (fun less more still => ?_) read rfl
          exact widens_readList (widens_readShape item still).widens
      | null | bool _ | number _ | text _ | openObject => exact .error _
  | .dictionary value =>
      refine (stable_readHead bytes).bind fun head rest read => ?_
      cases head with
      | openObject =>
          refine stable_enter roomier (fun less more still => ?_) read rfl
          exact widens_readDictionary (widens_readShape value still).widens
      | null | bool _ | number _ | text _ | openList => exact .error _
  | .pair first second =>
      refine (stable_readHead bytes).bind fun head rest read => ?_
      cases head with
      | openList =>
          refine stable_enter roomier (fun less more still => ?_) read rfl
          exact widens_readPair _ (widens_readShape first still).widens
            (widens_readShape second still).widens
      | null | bool _ | number _ | text _ | openObject => exact .error _
  | .pairTable =>
      refine (stable_readHead bytes).bind fun head rest read => ?_
      cases head with
      | openObject =>
          exact stable_enter roomier (fun _ _ _ => widens_readPairTable _) read rfl
      | null | bool _ | number _ | text _ | openList => exact .error _
  | .record name fields =>
      refine (stable_readHead bytes).bind fun head rest read => ?_
      cases head with
      | openList =>
          refine stable_enter roomier (fun less more still => ?_) read rfl
          exact widens_readRecordList (grows_readFields fields still) _
      | openObject =>
          refine stable_enter roomier (fun less more still => ?_) read rfl
          exact widens_readRecordObject (grows_readFields fields still) fields
      | null | bool _ | number _ | text _ => exact .error _
  | .any => exact widens_readAny roomier bytes

theorem grows_readFields (fields : Fields) {inner outer : Nat} (roomier : inner ≤ outer) :
    List.Forall₂ FieldReader.Grows (readFields fields inner) (readFields fields outer) := by
  match fields with
  | .nil => exact .nil
  | .cons name defaulted shape rest =>
      exact .cons (.read (widens_readShape shape roomier).widens) (grows_readFields rest roomier)

end

end Values

end Switchboard.Json
