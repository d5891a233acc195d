import Switchboard.Json.Container
import Switchboard.Proofs.Except
import Switchboard.Proofs.Json.Grammar

/-
This file walks through the parts of any JSON container, whatever the parts are.
-/

namespace Switchboard.Json

section Blanks

variable {before after : Bytes}

theorem areBlanks_append (isBefore : AreBlanks before) (isAfter : AreBlanks after) :
    AreBlanks (before ++ after) :=
  List.forall_mem_append.2 ⟨isBefore, isAfter⟩

/-- The blanks in front are what skipping takes away. -/
theorem exists_blanks (bytes : Bytes) :
    ∃ blanks, AreBlanks blanks ∧ bytes = blanks ++ skipBlanks bytes :=
  ⟨bytes.takeWhile isBlank, fun _ member => List.mem_takeWhile_imp member,
    List.takeWhile_append_dropWhile.symm⟩

/-- Neither a blank nor a byte that separates or closes continues a number. -/
theorem endsNumber_append (isBefore : AreBlanks before) {rest : Bytes} (ends : endsNumber rest) :
    endsNumber (before ++ rest) := by
  cases before with
  | nil => exact ends
  | cons byte before =>
      have blank : isBlank byte = true := isBefore byte List.mem_cons_self
      simp only [isBlank, Bool.or_eq_true, decide_eq_true_eq] at blank
      rcases blank with ((rfl | rfl) | rfl) | rfl <;> rfl

end Blanks

/-- Blanks stand before the first part, and before any other there is a comma among them. -/
def Separates : Bool → Bytes → Prop
  | true, gap => AreBlanks gap
  | false, gap => ∃ before after, AreBlanks before ∧ AreBlanks after ∧
    gap = before ++ comma :: after

section Keys

variable {first : Bool} {bytes rest : Bytes}

theorem nextKey_eq_closed : nextKey first bytes = .ok (.closed, rest) ↔
    ∃ blanks more, AreBlanks blanks ∧ rest = closeObject :: more ∧ bytes = blanks ++ rest := by
  constructor
  · intro found
    obtain ⟨blanks, all, same⟩ := exists_blanks bytes
    rw [nextKey] at found
    split at found
    · cases found
    next byte more skipped =>
    rw [skipped] at same
    split at found
    · next isClose =>
        rw [Except.ok.injEq, Prod.mk.injEq] at found
        exact ⟨blanks, more, all, by rw [← found.2, isClose], by rw [same, found.2]⟩
    split at found
    · split at found <;> cases found
    split at found
    · split at found
      · cases found
      · split at found
        · cases found
        · split at found <;> cases found
    · cases found
  · rintro ⟨blanks, more, all, rfl, rfl⟩
    rw [nextKey, skipBlanks_append all]
    rfl

/-- The gap before an entry is what leads up to the quote of its key. -/
theorem nextKey_eq_item : nextKey first bytes = .ok (.item, rest) ↔
    ∃ gap, Separates first gap ∧ bytes = gap ++ quote :: rest := by
  constructor
  · intro found
    obtain ⟨blanks, all, same⟩ := exists_blanks bytes
    rw [nextKey] at found
    split at found
    · cases found
    next byte more skipped =>
    rw [skipped] at same
    split at found
    · cases found
    split at found
    · next isFirst =>
        split at found
        · next isQuote =>
            rw [Except.ok.injEq, Prod.mk.injEq] at found
            refine ⟨blanks, ?_, by rw [same, isQuote, found.2]⟩
            rw [isFirst]
            exact all
        · cases found
    next later =>
    rw [Bool.not_eq_true] at later
    split at found
    · next isComma =>
        obtain ⟨between, isBetween, sameMore⟩ := exists_blanks more
        split at found
        · cases found
        next start others skippedMore =>
        rw [skippedMore] at sameMore
        split at found
        · next isQuote =>
            rw [Except.ok.injEq, Prod.mk.injEq] at found
            refine ⟨blanks ++ comma :: between, ?_, ?_⟩
            · rw [later]
              exact ⟨blanks, between, all, isBetween, rfl⟩
            · rw [same, sameMore, isComma, isQuote, ← found.2, List.append_assoc,
                List.cons_append]
        · split at found <;> cases found
    · cases found
  · rintro ⟨gap, isGap, rfl⟩
    cases first with
    | true =>
        rw [nextKey, skipBlanks_append isGap]
        rfl
    | false =>
        obtain ⟨before, after, isBefore, isAfter, rfl⟩ := isGap
        rw [List.append_assoc, List.cons_append, nextKey, skipBlanks_append isBefore,
          skipBlanks_cons (by decide)]
        simp only [if_neg (show ¬ comma = closeObject by decide), Bool.false_eq_true, if_false,
          if_true]
        rw [skipBlanks_append isAfter]
        rfl

theorem readColon_eq_ok : readColon bytes = .ok ((), rest) ↔
    ∃ blanks, AreBlanks blanks ∧ bytes = blanks ++ colon :: rest := by
  constructor
  · intro read
    obtain ⟨blanks, all, same⟩ := exists_blanks bytes
    rw [readColon] at read
    split at read
    · cases read
    next byte more skipped =>
    rw [skipped] at same
    split at read
    · next isColon =>
        rw [Except.ok.injEq, Prod.mk.injEq] at read
        exact ⟨blanks, all, by rw [same, isColon, read.2]⟩
    · cases read
  · rintro ⟨blanks, all, rfl⟩
    rw [readColon, skipBlanks_append all]
    rfl

end Keys

section Parts

variable {α : Type}

/-- Nothing follows a part, or a comma and more parts do. -/
inductive Behind (part : Bytes → α → Prop) : Bytes → List α → Prop where
  | nothing : Behind part [] []
  | more {bytes : Bytes} {meanings : List α} (others : Separated part bytes meanings) :
    Behind part (comma :: bytes) meanings

variable {part : Bytes → α → Prop} {bytes rest : Bytes} {meaning : α} {meanings : List α}

theorem Behind.separated (behind : Behind part rest meanings) (isPart : part bytes meaning) :
    Separated part (bytes ++ rest) (meaning :: meanings) := by
  cases behind with
  | nothing =>
      rw [List.append_nil]
      exact .last isPart
  | more others => exact .more isPart others

theorem Separated.exists_behind (separated : Separated part bytes meanings) :
    ∃ first rest meaning others, meanings = meaning :: others ∧ part first meaning ∧
      Behind part rest others ∧ bytes = first ++ rest := by
  cases separated with
  | last isPart => exact ⟨_, [], _, [], rfl, isPart, .nothing, (List.append_nil _).symm⟩
  | more isPart others => exact ⟨_, _, _, _, rfl, isPart, .more others, rfl⟩

theorem Behind.eq_nil (behind : Behind part bytes []) : bytes = [] := by
  cases behind with
  | nothing => rfl
  | more others =>
      obtain ⟨_, _, _, _, impossible, _⟩ := others.exists_behind
      cases impossible

theorem Behind.exists_part (behind : Behind part bytes (meaning :: meanings)) :
    ∃ first rest, part first meaning ∧ Behind part rest meanings ∧
      bytes = comma :: (first ++ rest) := by
  cases behind with
  | more separated =>
      obtain ⟨first, rest, _, _, same, isPart, isBehind, rfl⟩ := separated.exists_behind
      rw [List.cons.injEq] at same
      obtain ⟨rfl, rfl⟩ := same
      exact ⟨first, rest, isPart, isBehind, rfl⟩

/-- Behind a part another one or the closing bracket follows, which continues no number. -/
theorem Behind.endsNumber {blanks behind : Bytes} (isBehind : Behind part behind meanings)
    (all : AreBlanks blanks) {rest : Bytes} (ends : endsNumber rest) :
    endsNumber (blanks ++ (behind ++ rest)) := by
  refine endsNumber_append all ?_
  cases isBehind with
  | nothing => exact ends
  | more others => rfl

/-- Every part takes at least one byte. -/
theorem Separated.length_le (separated : Separated part bytes meanings)
    (nonempty : ∀ bytes meaning, part bytes meaning → 0 < bytes.length) :
    meanings.length ≤ bytes.length := by
  induction separated with
  | last isPart => exact nonempty _ _ isPart
  | more isPart others inductionHypothesis =>
      have positive := nonempty _ _ isPart
      rw [List.length_cons, List.length_append, List.length_cons]
      omega

/-- Parts that are joined by commas are separated. -/
theorem separated_intercalate {ι : Type} {bytesOf : ι → Bytes} {meaningOf : ι → α} {first : ι}
    {others : List ι} (all : ∀ item ∈ first :: others, part (bytesOf item) (meaningOf item)) :
    Separated part ([comma].intercalate ((first :: others).map bytesOf))
      ((first :: others).map meaningOf) := by
  induction others generalizing first with
  | nil =>
      rw [List.map_singleton, List.map_singleton, List.intercalate_singleton]
      exact .last (all first List.mem_cons_self)
  | cons second others inductionHypothesis =>
      obtain ⟨here, later⟩ := List.forall_mem_cons.1 all
      have joined : [comma].intercalate ((first :: second :: others).map bytesOf) =
          bytesOf first ++ comma :: [comma].intercalate ((second :: others).map bytesOf) := by
        rw [List.map_cons, List.map_cons, List.intercalate_cons_cons, List.append_assoc,
          List.singleton_append]
      rw [joined]
      exact .more here (inductionHypothesis later)

/-- Parts may be read as parts of another kind. -/
theorem Separated.map {β : Type} {other : Bytes → β → Prop} {change : α → β}
    (separated : Separated part bytes meanings)
    (implies : ∀ run meaning, part run meaning → other run (change meaning)) :
    Separated other bytes (meanings.map change) := by
  induction separated with
  | last isPart => exact .last (implies _ _ isPart)
  | more isPart _ inductionHypothesis => exact .more (implies _ _ isPart) inductionHypothesis

/-- A list and an object are read part by part, and the bound has an element for each of them. -/
def readParts (exhausted : Cause) (next : Bool → Reader Next) (part : Reader α) :
    Bytes → Bool → Reader (List α)
  | [], _, bytes => .error (faultAt exhausted bytes)
  | _ :: bound, first, bytes => do
    let (found, rest) ← next first bytes
    match found with
    | .closed => return ([], rest)
    | .item =>
      let (meaning, rest) ← part rest
      let (more, rest) ← readParts exhausted next part bound false rest
      return (meaning :: more, rest)

theorem readItems_eq_readParts (item : Reader Datum) (bound : Bytes) (first : Bool)
    (bytes : Bytes) :
    readItems item bound first bytes = readParts .endInList nextItem item bound first bytes := by
  induction bound generalizing first bytes with
  | nil => rfl
  | cons mark bound inductionHypothesis =>
      rw [readItems, readParts]
      refine congrArg (nextItem first bytes >>= ·) (funext fun (next, rest) => ?_)
      cases next with
      | closed => rfl
      | item => simp only [inductionHypothesis]

/-- An entry is read behind the quote that opens its key. -/
def readEntry (value : Reader Datum) : Reader (String × Datum) := fun bytes => do
  let (key, rest) ← readText bytes
  let (_, rest) ← readColon rest
  let (held, rest) ← value rest
  return ((key, held), rest)

theorem readEntries_eq_readParts (value : Reader Datum) (bound : Bytes) (first : Bool)
    (bytes : Bytes) :
    readEntries value bound first bytes =
      readParts .endInObject nextKey (readEntry value) bound first bytes := by
  induction bound generalizing first bytes with
  | nil => rfl
  | cons mark bound inductionHypothesis =>
      rw [readEntries, readParts]
      refine congrArg (nextKey first bytes >>= ·) (funext fun (next, rest) => ?_)
      cases next with
      | closed => rfl
      | item => simp only [readEntry, inductionHypothesis, bind_assoc, pure_bind]

/-- A walk over the parts of a container finds the tokens of the grammar and the closing bracket. -/
structure Walks (close : UInt8) (next : Bool → Reader Next) (part : Reader α)
    (token : Bytes → α → Prop) : Prop where
  ends : ∀ rest, endsNumber (close :: rest)
  nonempty : ∀ run meaning, token run meaning → 0 < run.length
  closed : ∀ first bytes rest, next first bytes = .ok (.closed, rest) ↔
    ∃ blanks more, AreBlanks blanks ∧ rest = close :: more ∧ bytes = blanks ++ rest
  sound : ∀ first bytes inside meaning rest, next first bytes = .ok (.item, inside) →
    part inside = .ok (meaning, rest) →
    ∃ gap run, Separates first gap ∧ token run meaning ∧ bytes = gap ++ (run ++ rest)
  complete : ∀ first gap run meaning rest, Separates first gap → token run meaning →
    endsNumber rest → ∃ inside, next first (gap ++ (run ++ rest)) = .ok (.item, inside) ∧
      part inside = .ok (meaning, rest)

variable {close : UInt8} {next : Bool → Reader Next} {reader : Reader α}
  {token : Bytes → α → Prop} {exhausted : Cause} {bound : Bytes}

/-- What is read behind a part are blanks, more parts, and the closing bracket. -/
theorem Walks.sound_later (walks : Walks close next reader token)
    (read : readParts exhausted next reader bound false bytes = .ok (meanings, rest)) :
    ∃ blanks behind more, AreBlanks blanks ∧ Behind (Padded token) behind meanings ∧
      rest = close :: more ∧ bytes = blanks ++ (behind ++ rest) := by
  induction bound generalizing bytes meanings with
  | nil => cases read
  | cons mark bound inductionHypothesis =>
      rw [readParts] at read
      obtain ⟨⟨found, inside⟩, isNext, later⟩ := bind_eq_ok.1 read
      cases found with
      | closed =>
          simp only [pure_eq_ok, Except.ok.injEq, Prod.mk.injEq] at later
          obtain ⟨rfl, rfl⟩ := later
          obtain ⟨blanks, more, all, same, rfl⟩ := (walks.closed _ _ _).1 isNext
          exact ⟨blanks, [], more, all, .nothing, same, rfl⟩
      | item =>
          obtain ⟨⟨meaning, after⟩, isPart, last⟩ := bind_eq_ok.1 later
          obtain ⟨⟨others, behindAll⟩, more, ended⟩ := bind_eq_ok.1 last
          simp only [pure_eq_ok, Except.ok.injEq, Prod.mk.injEq] at ended
          obtain ⟨rfl, rfl⟩ := ended
          obtain ⟨_, run, ⟨before, between, isBefore, isBetween, rfl⟩, isToken, rfl⟩ :=
            walks.sound _ _ _ _ _ isNext isPart
          obtain ⟨blanks, behind, left, all, isBehind, same, rfl⟩ := inductionHypothesis more
          have parts := isBehind.separated (.blanks isBetween isToken all)
          refine ⟨before, _, left, isBefore, .more parts, same, ?_⟩
          simp only [List.append_assoc, List.cons_append]

/-- What is read up to the closing bracket are blanks only, or parts. -/
theorem Walks.sound_first (walks : Walks close next reader token)
    (read : readParts exhausted next reader bound true bytes = .ok (meanings, rest)) :
    ∃ inner more, rest = close :: more ∧ bytes = inner ++ rest ∧
      ((AreBlanks inner ∧ meanings = []) ∨ Separated (Padded token) inner meanings) := by
  cases bound with
  | nil => cases read
  | cons mark bound =>
      rw [readParts] at read
      obtain ⟨⟨found, inside⟩, isNext, later⟩ := bind_eq_ok.1 read
      cases found with
      | closed =>
          simp only [pure_eq_ok, Except.ok.injEq, Prod.mk.injEq] at later
          obtain ⟨rfl, rfl⟩ := later
          obtain ⟨blanks, more, all, same, rfl⟩ := (walks.closed _ _ _).1 isNext
          exact ⟨blanks, more, same, rfl, .inl ⟨all, rfl⟩⟩
      | item =>
          obtain ⟨⟨meaning, after⟩, isPart, last⟩ := bind_eq_ok.1 later
          obtain ⟨⟨others, behindAll⟩, more, ended⟩ := bind_eq_ok.1 last
          simp only [pure_eq_ok, Except.ok.injEq, Prod.mk.injEq] at ended
          obtain ⟨rfl, rfl⟩ := ended
          obtain ⟨gap, run, isGap, isToken, rfl⟩ := walks.sound _ _ _ _ _ isNext isPart
          obtain ⟨blanks, behind, left, all, isBehind, same, rfl⟩ := walks.sound_later more
          refine ⟨_, left, same, ?_, .inr (isBehind.separated (.blanks isGap isToken all))⟩
          simp only [List.append_assoc]

/-- A part is read, and then what follows it. -/
theorem Walks.complete_part (walks : Walks close next reader token) {first : Bool}
    {gap run blanks behind : Bytes} (isGap : Separates first gap) (isToken : token run meaning)
    (all : AreBlanks blanks) (isBehind : Behind (Padded token) behind meanings) {more : Bytes}
    (later : readParts exhausted next reader bound false (blanks ++ (behind ++ close :: more)) =
      .ok (meanings, close :: more)) (mark : UInt8) :
    readParts exhausted next reader (mark :: bound) first
      (gap ++ (run ++ (blanks ++ (behind ++ close :: more)))) =
        .ok (meaning :: meanings, close :: more) := by
  obtain ⟨inside, found, isPart⟩ := walks.complete first gap run meaning _ isGap isToken
    (isBehind.endsNumber all (walks.ends more))
  rw [readParts, found, ok_bind]
  simp only [isPart, ok_bind, later, pure_eq_ok]

/-- Behind a part all parts that follow are read, and then the closing bracket is found. -/
theorem Walks.complete_later (walks : Walks close next reader token) {blanks behind : Bytes}
    (all : AreBlanks blanks) (isBehind : Behind (Padded token) behind meanings)
    (room : meanings.length < bound.length) (more : Bytes) :
    readParts exhausted next reader bound false (blanks ++ (behind ++ close :: more)) =
      .ok (meanings, close :: more) := by
  induction meanings generalizing bound blanks behind with
  | nil =>
      rw [isBehind.eq_nil]
      cases bound with
      | nil => simp at room
      | cons mark bound =>
          have found := (walks.closed false (blanks ++ close :: more) _).2
            ⟨blanks, more, all, rfl, rfl⟩
          rw [List.nil_append, readParts, found]
          rfl
  | cons meaning others inductionHypothesis =>
      obtain ⟨_, behind, @⟨before, _, _, _, isBefore, isToken, isAfter⟩, isLater, rfl⟩ :=
        isBehind.exists_part
      have isGap : Separates false (blanks ++ comma :: before) :=
        ⟨blanks, before, all, isBefore, rfl⟩
      cases bound with
      | nil => simp at room
      | cons mark bound =>
          have later := inductionHypothesis isAfter isLater (Nat.lt_of_succ_lt_succ room)
          have whole := walks.complete_part isGap isToken isAfter isLater later mark
          simp only [List.append_assoc, List.cons_append] at whole ⊢
          exact whole

/-- All parts of a container are read, and then its closing bracket is found. -/
theorem Walks.complete_first (walks : Walks close next reader token)
    (separated : Separated (Padded token) bytes meanings) (room : bytes.length < bound.length)
    (more : Bytes) :
    readParts exhausted next reader bound true (bytes ++ close :: more) =
      .ok (meanings, close :: more) := by
  have short := separated.length_le fun bytes meaning padded => by
    obtain ⟨isBefore, isToken, isAfter⟩ := padded
    have positive := walks.nonempty _ _ isToken
    simp only [List.length_append]
    omega
  obtain ⟨_, behind, meaning, others, rfl, @⟨before, _, after, _, isBefore, isToken, isAfter⟩,
    isBehind, rfl⟩ := separated.exists_behind
  have isGap : Separates true before := isBefore
  rw [List.length_cons] at short
  cases bound with
  | nil => simp at room
  | cons mark bound =>
      rw [List.length_cons] at room
      have later : readParts exhausted next reader bound false
          (after ++ (behind ++ close :: more)) = .ok (others, close :: more) :=
        walks.complete_later isAfter isBehind (by omega) more
      have whole := walks.complete_part isGap isToken isAfter isBehind later mark
      simp only [List.append_assoc] at whole ⊢
      exact whole

/-- Between the brackets of an empty container there is nothing to read. -/
theorem Walks.complete_empty (walks : Walks close next reader token) {blanks : Bytes}
    (all : AreBlanks blanks) (room : 0 < bound.length) (more : Bytes) :
    readParts exhausted next reader bound true (blanks ++ close :: more) =
      .ok ([], close :: more) := by
  cases bound with
  | nil => simp at room
  | cons mark bound =>
      have found := (walks.closed true _ _).2 ⟨blanks, more, all, rfl, rfl⟩
      rw [readParts, found]
      rfl

end Parts

end Switchboard.Json
