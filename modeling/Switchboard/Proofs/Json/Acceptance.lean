import Switchboard.Codec
import Switchboard.Proofs.Json.Token
import Switchboard.Proofs.Json.Walk

/-
This file shows that a reader without expectations accepts exactly the grammar of JSON payloads.
-/

namespace Switchboard.Json

section Containers

variable {first : Bool} {bytes gap rest : Bytes}

theorem nextItem_eq_closed : nextItem first bytes = .ok (.closed, rest) ↔
    ∃ blanks more, AreBlanks blanks ∧ rest = closeList :: more ∧ bytes = blanks ++ rest := by
  constructor
  · intro found
    obtain ⟨blanks, all, same⟩ := exists_blanks bytes
    rw [nextItem] at found
    split at found
    · cases found
    next byte more skipped =>
    rw [skipped] at same
    split at found
    · next isClose =>
        rw [Except.ok.injEq, Prod.mk.injEq] at found
        exact ⟨blanks, more, all, by rw [← found.2, isClose], by rw [same, found.2]⟩
    split at found
    · cases found
    split at found
    · split at found
      · cases found
      · split at found <;> cases found
    · cases found
  · rintro ⟨blanks, more, all, rfl, rfl⟩
    rw [nextItem, skipBlanks_append all]
    rfl

/-- The gap before an item is what leads up to it. -/
theorem separates_of_nextItem (found : nextItem first bytes = .ok (.item, rest)) :
    ∃ gap, Separates first gap ∧ bytes = gap ++ rest := by
  obtain ⟨blanks, all, same⟩ := exists_blanks bytes
  rw [nextItem] at found
  split at found
  · cases found
  next byte more skipped =>
  rw [skipped] at same
  split at found
  · cases found
  split at found
  · next isFirst =>
      rw [Except.ok.injEq, Prod.mk.injEq] at found
      refine ⟨blanks, ?_, by rw [same, found.2]⟩
      rw [isFirst]
      exact all
  next later =>
  rw [Bool.not_eq_true] at later
  split at found
  · next isComma =>
      obtain ⟨between, isBetween, sameMore⟩ := exists_blanks more
      split at found
      · cases found
      next start others skippedMore =>
      rw [skippedMore] at sameMore
      split at found
      · cases found
      · rw [Except.ok.injEq, Prod.mk.injEq] at found
        refine ⟨blanks ++ comma :: between, ?_, ?_⟩
        · rw [later]
          exact ⟨blanks, between, all, isBetween, rfl⟩
        · rw [same, sameMore, isComma, ← found.2, List.append_assoc, List.cons_append]
  · cases found

theorem nextItem_of_separates (isGap : Separates first gap) {byte : UInt8}
    (solid : isBlank byte = false) (notClose : byte ≠ closeList) (rest : Bytes) :
    nextItem first (gap ++ byte :: rest) = .ok (.item, byte :: rest) := by
  cases first with
  | true =>
      rw [nextItem, skipBlanks_append isGap, skipBlanks_cons solid]
      simp only [if_neg notClose, if_true]
  | false =>
      obtain ⟨before, after, isBefore, isAfter, rfl⟩ := isGap
      rw [List.append_assoc, List.cons_append, nextItem, skipBlanks_append isBefore,
        skipBlanks_cons (by decide)]
      simp only [if_neg (show ¬ comma = closeList by decide), Bool.false_eq_true, if_false, if_true]
      rw [skipBlanks_append isAfter, skipBlanks_cons solid]
      simp only [if_neg notClose]

/-- A reader and a grammar for values belong together. -/
structure Reads (reader : Reader Datum) (value : Bytes → Datum → Prop) : Prop where
  starts : ∀ run datum, value run datum → StartsItem run
  blanks : ∀ before bytes, AreBlanks before → reader (before ++ bytes) = reader bytes
  sound : ∀ bytes datum rest, reader bytes = .ok (datum, rest) →
    ∃ before run, AreBlanks before ∧ value run datum ∧ bytes = before ++ (run ++ rest)
  complete : ∀ run datum rest, value run datum → (datum.isNumber → endsNumber rest) →
    reader (run ++ rest) = .ok (datum, rest)

variable {reader : Reader Datum} {value : Bytes → Datum → Prop}

theorem Separates.append (isGap : Separates first gap) {blanks : Bytes} (all : AreBlanks blanks) :
    Separates first (gap ++ blanks) := by
  cases first with
  | true => exact areBlanks_append isGap all
  | false =>
      obtain ⟨before, after, isBefore, isAfter, rfl⟩ := isGap
      refine ⟨before, after ++ blanks, isBefore, areBlanks_append isAfter all, ?_⟩
      rw [List.append_assoc, List.cons_append]

theorem Reads.walks_items (reads : Reads reader value) :
    Walks closeList nextItem reader value where
  ends _ := rfl
  nonempty run datum isValue := by
    exact (reads.starts run datum isValue).length_pos
  closed _ _ _ := nextItem_eq_closed
  sound first bytes inside datum rest found read := by
    obtain ⟨gap, isGap, rfl⟩ := separates_of_nextItem found
    obtain ⟨before, run, isBefore, isValue, rfl⟩ := reads.sound _ _ _ read
    refine ⟨gap ++ before, run, isGap.append isBefore, isValue, ?_⟩
    rw [List.append_assoc]
  complete first gap run datum rest isGap isValue ends := by
    obtain ⟨byte, more, rfl, solid, notClose⟩ := reads.starts run datum isValue
    exact ⟨_, nextItem_of_separates isGap solid notClose _,
      reads.complete _ _ _ isValue fun _ => ends⟩

theorem Reads.walks_entries (reads : Reads reader value) :
    Walks closeObject nextKey (readEntry reader) (Entry value) where
  ends _ := rfl
  nonempty _ _ isEntry := isEntry.length_pos
  closed _ _ _ := nextKey_eq_closed
  sound first bytes inside entry rest found read := by
    obtain ⟨gap, isGap, rfl⟩ := nextKey_eq_item.1 found
    rw [readEntry] at read
    obtain ⟨⟨key, behindKey⟩, isKey, later⟩ := bind_eq_ok.1 read
    obtain ⟨⟨_, behindColon⟩, isColon, last⟩ := bind_eq_ok.1 later
    obtain ⟨⟨datum, behind⟩, isValue, ended⟩ := bind_eq_ok.1 last
    simp only [pure_eq_ok, Except.ok.injEq, Prod.mk.injEq] at ended
    obtain ⟨rfl, rfl⟩ := ended
    obtain ⟨raw, content, rfl⟩ := readText_eq_ok.1 isKey
    obtain ⟨before, isBefore, rfl⟩ := readColon_eq_ok.1 isColon
    obtain ⟨after, run, isAfter, isRun, rfl⟩ := reads.sound _ _ _ isValue
    refine ⟨gap, _, isGap, .colon (.quoted content) isBefore isAfter isRun, ?_⟩
    simp only [List.append_assoc, List.cons_append, List.nil_append]
  complete first gap run entry rest isGap isEntry ends := by
    obtain ⟨key, datum⟩ := entry
    obtain ⟨inside, _, blanks, token, isValue, isBlank, opened, named, colon⟩ :=
      isEntry.opens isGap rest
    refine ⟨inside, opened, ?_⟩
    rw [readEntry, named, ok_bind]
    simp only [colon, ok_bind, reads.blanks _ _ isBlank,
      reads.complete _ _ _ isValue fun _ => ends, pure_eq_ok]

theorem Reads.sound_list (reads : Reads reader value) {datum : Datum}
    (read : readList reader bytes = .ok (datum, rest)) :
    ∃ inner, Container value (openList :: inner) datum ∧ bytes = inner ++ rest := by
  rw [readList] at read
  obtain ⟨⟨items, behind⟩, inside, later⟩ := bind_eq_ok.1 read
  rw [readItems_eq_readParts] at inside
  obtain ⟨inner, more, rfl, rfl, kind⟩ := reads.walks_items.sound_first inside
  simp only [readListEnd_close, ok_bind, pure_eq_ok, Except.ok.injEq, Prod.mk.injEq] at later
  obtain ⟨rfl, rfl⟩ := later
  refine ⟨inner ++ [closeList], ?_, by rw [List.append_assoc, List.singleton_append]⟩
  obtain ⟨all, rfl⟩ | separated := kind
  · exact .emptyList all
  · exact .list separated

theorem Reads.sound_dictionary (reads : Reads reader value) {datum : Datum}
    (read : readDictionary reader bytes = .ok (datum, rest)) :
    ∃ inner, Container value (openObject :: inner) datum ∧ bytes = inner ++ rest := by
  rw [readDictionary] at read
  obtain ⟨⟨entries, behind⟩, inside, later⟩ := bind_eq_ok.1 read
  rw [readEntries_eq_readParts] at inside
  obtain ⟨inner, more, rfl, rfl, kind⟩ := reads.walks_entries.sound_first inside
  simp only [readObjectEnd_close, ok_bind, pure_eq_ok, Except.ok.injEq, Prod.mk.injEq] at later
  obtain ⟨rfl, rfl⟩ := later
  refine ⟨inner ++ [closeObject], ?_, by rw [List.append_assoc, List.singleton_append]⟩
  obtain ⟨all, rfl⟩ | separated := kind
  · exact .emptyObject all
  · exact .object separated (isTable_ofList entries)

/-- A container is read up to its closing bracket, after the opening one. -/
theorem Reads.complete_container (reads : Reads reader value) {token : Bytes} {datum : Datum}
    (container : Container value token datum) (rest : Bytes) :
    (∃ inner, token = openList :: inner ∧ readList reader (inner ++ rest) = .ok (datum, rest)) ∨
      ∃ inner, token = openObject :: inner ∧
        readDictionary reader (inner ++ rest) = .ok (datum, rest) := by
  have long (inner : Bytes) (close : UInt8) :
      inner.length < (inner ++ close :: rest).length := by
    rw [List.length_append, List.length_cons]
    omega
  cases container with
  | @emptyList blanks all =>
      refine .inl ⟨_, rfl, ?_⟩
      rw [List.append_assoc, List.singleton_append, readList, readItems_eq_readParts,
        reads.walks_items.complete_empty all (Nat.zero_lt_of_lt (long blanks closeList))]
      rfl
  | @list inner items isInner =>
      refine .inl ⟨_, rfl, ?_⟩
      rw [List.append_assoc, List.singleton_append, readList, readItems_eq_readParts,
        reads.walks_items.complete_first isInner (long inner closeList)]
      rfl
  | @emptyObject blanks all =>
      refine .inr ⟨_, rfl, ?_⟩
      rw [List.append_assoc, List.singleton_append, readDictionary, readEntries_eq_readParts,
        reads.walks_entries.complete_empty all (Nat.zero_lt_of_lt (long blanks closeObject))]
      rfl
  | @object inner entries table isInner isTable =>
      refine .inr ⟨_, rfl, ?_⟩
      rw [List.append_assoc, List.singleton_append, readDictionary, readEntries_eq_readParts,
        reads.walks_entries.complete_first isInner (long inner closeObject), isTable_iff.1 isTable]
      rfl

end Containers

section Values

variable {depth : Nat} {bytes rest : Bytes} {datum : Datum}

/-- A scalar is read at any depth. -/
theorem readAny_of_scalar (depth : Nat) {run : Bytes} (scalar : Scalar run datum)
    (ends : datum.isNumber → endsNumber rest) :
    readAny depth (run ++ rest) = .ok (datum, rest) := by
  obtain ⟨head, read, whole, rfl⟩ := readHead_of_scalar scalar ends
  exact readAny_of_readHead depth read whole

/-- Every bracket that opens takes one of the depth. -/
theorem sound_readAny (depth : Nat)
    (inner : ∀ less, depth = less + 1 → Reads (readAny less) (Value less))
    (read : readAny depth bytes = .ok (datum, rest)) :
    ∃ before run, AreBlanks before ∧ Value depth run datum ∧ bytes = before ++ (run ++ rest) := by
  obtain ⟨before, isBefore, same⟩ := exists_blanks bytes
  obtain ⟨head, behind, isRead⟩ : ∃ head behind, readHead bytes = .ok (head, behind) := by
    cases depth with
    | zero =>
        rw [readAny] at read
        obtain ⟨⟨head, behind⟩, isRead, _⟩ := bind_eq_ok.1 read
        exact ⟨head, behind, isRead⟩
    | succ depth =>
        rw [readAny] at read
        obtain ⟨⟨head, behind⟩, isRead, _⟩ := bind_eq_ok.1 read
        exact ⟨head, behind, isRead⟩
  have isHead := isHead_of_readHead isRead
  generalize skipBlanks bytes = skipped at same isHead
  cases isHead with
  | @scalar _ run _ whole isScalar =>
      rw [readAny_of_readHead depth isRead whole, Except.ok.injEq, Prod.mk.injEq] at read
      obtain ⟨rfl, rfl⟩ := read
      refine ⟨before, run, isBefore, ?_, same⟩
      cases depth with
      | zero => exact isScalar
      | succ depth => exact .inl isScalar
  | openList more =>
      cases depth with
      | zero =>
          rw [readAny, isRead] at read
          cases read
      | succ depth =>
          rw [readAny, isRead] at read
          obtain ⟨inside, container, rfl⟩ := (inner depth rfl).sound_list read
          exact ⟨before, _, isBefore, .inr container, same⟩
  | openObject more =>
      cases depth with
      | zero =>
          rw [readAny, isRead] at read
          cases read
      | succ depth =>
          rw [readAny, isRead] at read
          obtain ⟨inside, container, rfl⟩ := (inner depth rfl).sound_dictionary read
          exact ⟨before, _, isBefore, .inr container, same⟩

/-- A reader without expectations reads the values that nest at most its depth. -/
theorem reads_readAny (depth : Nat) : Reads (readAny depth) (Value depth) := by
  induction depth with
  | zero =>
      refine ⟨fun _ _ isValue => isValue.outline.startsItem,
        fun _ bytes all => readAny_append all _ bytes,
        fun _ _ _ => sound_readAny 0 nofun, ?_⟩
      exact fun run datum rest scalar ends => readAny_of_scalar 0 scalar ends
  | succ depth inductionHypothesis =>
      refine ⟨fun _ _ isValue => isValue.outline.startsItem,
        fun _ bytes all => readAny_append all _ bytes,
        fun _ _ _ => sound_readAny (depth + 1) ?_, ?_⟩
      · intro less same
        rw [← Nat.succ.inj same]
        exact inductionHypothesis
      · intro run datum rest isValue ends
        obtain scalar | container := isValue
        · exact readAny_of_scalar (depth + 1) scalar ends
        · obtain ⟨inner, rfl, read⟩ | ⟨inner, rfl, read⟩ :=
            inductionHypothesis.complete_container container rest
          · rw [List.cons_append, readAny_openList]
            exact read
          · rw [List.cons_append, readAny_openObject]
            exact read

end Values

/-- A payload is a value with blanks around it. -/
theorem readPayload_any_iff {payload : Bytes} {datum : Datum} :
    readPayload .any payload = .ok datum ↔ Padded (Value maximalDepth) payload datum := by
  have reads := reads_readAny maximalDepth
  rw [readPayload, readShape]
  constructor
  · intro read
    obtain ⟨⟨found, rest⟩, isRead, later⟩ := bind_eq_ok.1 read
    simp only at later
    split at later
    · next nothing =>
        rw [pure_eq_ok, Except.ok.injEq] at later
        obtain ⟨before, run, isBefore, isValue, rfl⟩ := reads.sound _ _ _ isRead
        obtain ⟨blanks, all, same⟩ := exists_blanks rest
        rw [nothing, List.append_nil] at same
        rw [← later, same]
        exact .blanks isBefore isValue all
    · cases later
  · rintro ⟨isBefore, isValue, isAfter⟩
    rw [reads.blanks _ _ isBefore,
      reads.complete _ _ _ isValue fun _ => endsNumber_of_areBlanks isAfter, ok_bind]
    simp only [skipBlanks_of_areBlanks isAfter, pure_eq_ok]

end Switchboard.Json

namespace Switchboard.Codec

open Json

/--
A payload is read without expectations exactly if the grammar derives it, and it is read as what it
denotes there. Every other payload is refused as one that cannot be decoded.
-/
theorem decode_any_iff (payload : Bytes) :
    (∀ datum, Codec.json.decode .any payload = .ok datum ↔ Padded (Value 127) payload datum) ∧
      ((∀ datum, ¬ Padded (Value 127) payload datum) →
        ∃ reason, Codec.json.decode .any payload = .error (.decode reason)) := by
  have accepted (datum : Datum) :
      Json.readPayload .any payload = .ok datum ↔ Padded (Value 127) payload datum :=
    readPayload_any_iff
  rw [decode]
  cases read : Json.readPayload .any payload with
  | ok found =>
      rw [read] at accepted
      refine ⟨fun datum => ?_, fun refused => absurd ((accepted found).1 rfl) (refused found)⟩
      rw [← accepted, Except.ok.injEq, Except.ok.injEq]
  | error fault =>
      rw [read] at accepted
      refine ⟨fun datum => ?_, fun _ => ⟨_, rfl⟩⟩
      rw [← accepted]
      exact ⟨nofun, nofun⟩

/-- Of two entries with one key the last one counts. -/
example : Json.readPayload .any [0x7B, 0x22, 0x61, 0x22, 0x3A, 0x31, 0x2C, 0x22, 0x5C, 0x75, 0x30,
    0x30, 0x36, 0x31, 0x22, 0x3A, 0x5B, 0x5D, 0x7D] = .ok (.object [("a", .list [])]) := by
  rfl

end Switchboard.Codec
