import Mathlib.Data.List.TakeWhile
import Switchboard.Proofs.Except
import Switchboard.Proofs.Url.Ipv4
import Switchboard.Proofs.Url.Path
import Switchboard.Url.Base

/-
This file shows that host, port and path are told apart again when they are written one after the
other, and that slashes behind an address do not count.
-/

namespace Switchboard.BaseUrl

section Lists

variable {α : Type} {isTaken : α → Bool} {items : List α}

/-- Nothing is dropped from a list without the elements that are to be dropped. -/
theorem dropWhile_of_forall_not (none : ∀ item ∈ items, isTaken item = false) :
    items.dropWhile isTaken = items := by
  cases items with
  | nil => rfl
  | cons item items =>
      rw [List.dropWhile_cons, none item List.mem_cons_self, if_neg Bool.false_ne_true]

/-- What is taken from a list ends before items that are not to be taken. -/
theorem takeWhile_append_replicate {last : α} (stops : isTaken last = false) (count : Nat) :
    (items ++ List.replicate count last).takeWhile isTaken = items.takeWhile isTaken := by
  induction items with
  | nil =>
      cases count with
      | zero => rfl
      | succ count => rw [List.nil_append, List.replicate_succ, List.takeWhile_cons, stops]; rfl
  | cons item items inductionHypothesis =>
      rw [List.cons_append, List.takeWhile_cons, List.takeWhile_cons, inductionHypothesis]

theorem dropWhile_append_replicate {last : α} (stops : isTaken last = false) (count : Nat) :
    (items ++ List.replicate count last).dropWhile isTaken =
      items.dropWhile isTaken ++ List.replicate count last := by
  induction items with
  | nil =>
      cases count with
      | zero => rfl
      | succ count => rw [List.nil_append, List.replicate_succ, List.dropWhile_cons, stops]; rfl
  | cons item items inductionHypothesis =>
      rw [List.cons_append, List.dropWhile_cons, List.dropWhile_cons, inductionHypothesis]
      split <;> rfl

end Lists

section Scheme

/-- A text without blanks and controls is not trimmed. -/
theorem trim_of_visible {raw : List Char} (visible : ∀ character ∈ raw, 0x20 < character.toNat) :
    trim raw = raw := by
  have inner (character : Char) (member : character ∈ raw) :
      decide (character.toNat ≤ 0x20) = false :=
    decide_eq_false (Nat.not_le.2 (visible character member))
  have reversed (character : Char) (member : character ∈ raw.reverse) :
      decide (character.toNat ≤ 0x20) = false := inner character (List.mem_reverse.1 member)
  have noBreak : ∀ character ∈ raw,
      decide (character ≠ '\t' ∧ character ≠ '\n' ∧ character ≠ '\r') = true := by
    intro character member
    have code := visible character member
    have different (other : Char) (control : other.toNat ≤ 0x20) : character ≠ other := by
      intro same
      rw [same] at code
      omega
    exact decide_eq_true ⟨different '\t' (by decide), different '\n' (by decide),
      different '\r' (by decide)⟩
  simp only [trim, dropWhile_of_forall_not inner, dropWhile_of_forall_not reversed,
    List.reverse_reverse, List.filter_eq_self.2 noBreak]

/-- What stands behind a scheme and its colon does not change the scheme. -/
theorem readScheme_append {text scheme rest : List Char}
    (read : readScheme text = some (scheme, rest)) (after : List Char) :
    readScheme (text ++ after) = some (scheme, rest ++ after) := by
  have parted := List.takeWhile_append_dropWhile (p := isSchemeChar) (l := text)
  unfold readScheme at read
  dsimp only at read
  split at read
  · next behind ended =>
      have stops : isSchemeChar ':' = false := by decide
      have inside : ∀ character ∈ text.takeWhile isSchemeChar, isSchemeChar character :=
        fun _ => List.mem_takeWhile_imp
      generalize text.takeWhile isSchemeChar = front at *
      rw [ended] at parted
      rw [readScheme, ← parted, List.append_assoc, List.takeWhile_append_of_pos inside,
        List.dropWhile_append_of_pos inside, List.cons_append, List.takeWhile_cons, stops,
        List.dropWhile_cons, stops, if_neg Bool.false_ne_true, if_neg Bool.false_ne_true,
        List.append_nil]
      split at read
      · next starts =>
          cases read
          exact if_pos starts
      · cases read
  · cases read

theorem suffix_of_readScheme {text scheme rest : List Char}
    (read : readScheme text = some (scheme, rest)) : rest <:+ text := by
  have suffix := List.dropWhile_suffix (l := text) isSchemeChar
  unfold readScheme at read
  dsimp only at read
  split at read
  · next behind ended =>
      rw [ended] at suffix
      split at read
      · cases read
        exact (List.suffix_cons _ _).trans suffix
      · cases read
  · cases read

/-- A base address is read behind the scheme `http`. -/
theorem resolve_eq_ok_iff {raw : String} {base : BaseUrl} :
    resolve raw = .ok base ↔
      ∃ rest, readScheme (trim raw.toList) = some ("http".toList, rest) ∧
        readWeb rest = .ok base := by
  constructor
  · intro resolved
    rw [resolve] at resolved
    split at resolved
    · cases resolved
    · next scheme rest isScheme =>
        split at resolved
        · next isHttp =>
            rw [isHttp] at isScheme
            split at resolved
            · next read =>
                cases resolved
                exact ⟨rest, isScheme, read⟩
            · cases resolved
        · split at resolved
          · cases resolved
          · split at resolved <;> cases resolved
  · rintro ⟨rest, isScheme, read⟩
    rw [resolve, isScheme]
    dsimp only
    rw [if_pos rfl, read]

end Scheme

section Authority

theorem splitUser_of_not_mem {authority : List Char} (absent : '@' ∉ authority) :
    splitUser authority = none := by
  induction authority with
  | nil => rfl
  | cons character authority inductionHypothesis =>
      rw [List.mem_cons, not_or] at absent
      rw [splitUser, inductionHypothesis absent.2]
      exact if_neg (Ne.symm absent.1)

/-- Digits of a number below 65536 are read as a port. -/
theorem readPort_toDigits (port : UInt16) :
    readPort (Nat.toDigits 10 port.toNat) = .ok (some port) := by
  have all (character : Char) (member : character ∈ Nat.toDigits 10 port.toNat) :
      character.isDigit := Nat.isDigit_of_mem_toDigits (by decide) (by decide) member
  have small : port.toNat < 65536 := UInt16.toNat_lt port
  rw [readPort, if_neg Nat.toDigits_ne_nil, if_pos (List.all_eq_true.2 all),
    Url.numberIn?_toDigits (by decide) (by decide)]
  simp only [if_pos small, UInt16.ofNat_toNat]

/-- A host is written in characters that neither end an authority nor name a user. -/
structure IsHostChar (character : Char) : Prop where
  visible : 0x20 < character.toNat
  inside : endsWebAuthority character = false
  noUser : character ≠ '@'

/-- These texts stand for the host between the slashes before it and the colon of a port. -/
structure IsHostText (text : List Char) : Prop where
  notEmpty : text ≠ []
  characters : ∀ character ∈ text, IsHostChar character
  split (after : List Char) : splitHost false (text ++ ':' :: after) = (text, ':' :: after)

/-- Without colons and brackets a host ends at the first colon. -/
theorem splitHost_of_ne {text : List Char}
    (plain : ∀ character ∈ text, character ≠ ':' ∧ character ≠ '[') (after : List Char) :
    splitHost false (text ++ ':' :: after) = (text, ':' :: after) := by
  induction text with
  | nil => rfl
  | cons character text inductionHypothesis =>
      obtain ⟨⟨noColon, noBracket⟩, tailPlain⟩ := List.forall_mem_cons.1 plain
      rw [List.cons_append, splitHost, if_neg (not_and_of_not_left _ noColon)]
      dsimp only
      rw [if_neg noBracket, ite_self, inductionHypothesis tailPlain]

/-- Colons between brackets do not end a host. -/
theorem splitHost_bracketed {text : List Char} (inside : ']' ∉ text) (after : List Char) :
    splitHost true (text ++ ']' :: ':' :: after) = (text ++ [']'], ':' :: after) := by
  induction text with
  | nil => rfl
  | cons character text inductionHypothesis =>
      rw [List.mem_cons, not_or] at inside
      rw [List.cons_append, splitHost, if_neg (not_and_of_not_right _ (by decide))]
      dsimp only
      rw [if_neg (Ne.symm inside.1), ite_self, inductionHypothesis inside.2]
      rfl

theorem isHostChar_colon : IsHostChar ':' := ⟨by decide, by decide, by decide⟩

/-- A digit stands for no part of an address. -/
theorem isHostChar_of_isDigit {character : Char} (digit : character.isDigit) :
    IsHostChar character ∧ character ≠ ':' ∧ character ≠ '[' := by
  have range := Url.code_of_isDigit digit
  have ne {other : Char} (noDigit : other.isDigit = false) : character ≠ other := by
    intro same
    rw [same, noDigit] at digit
    cases digit
  refine ⟨⟨by omega, ?_, ne rfl⟩, ne rfl, ne rfl⟩
  simp only [endsWebAuthority, Bool.or_eq_false_iff, decide_eq_false_iff_not]
  exact ⟨⟨⟨ne rfl, ne rfl⟩, ne rfl⟩, ne rfl⟩

theorem isHostText_ipv4 (address : Url.Ipv4) : IsHostText address.text := by
  have plain {character : Char} (member : character ∈ address.text) :
      IsHostChar character ∧ character ≠ ':' ∧ character ≠ '[' := by
    rcases Url.Ipv4.isDigit_or_of_mem_text address member with digit | isDot
    · exact isHostChar_of_isDigit digit
    · rw [isDot]
      exact ⟨⟨by decide, by decide, by decide⟩, by decide, by decide⟩
  refine ⟨fun isEmpty => ?_, fun _ member => (plain member).1,
    splitHost_of_ne fun _ member => (plain member).2⟩
  have isMeant := Url.Ipv4.isMeant_text address
  rw [isEmpty] at isMeant
  cases isMeant

theorem isHostChar_of_mem_authority {host : List Char} (isHost : IsHostText host) {port : UInt16}
    {character : Char} (member : character ∈ host ++ ':' :: Nat.toDigits 10 port.toNat) :
    IsHostChar character := by
  rcases List.mem_append.1 member with inHost | inPort
  · exact isHost.characters character inHost
  rcases List.mem_cons.1 inPort with isColon | inDigits
  · rw [isColon]
    exact isHostChar_colon
  · exact (isHostChar_of_isDigit
      (Nat.isDigit_of_mem_toDigits (by decide) (by decide) inDigits)).1

end Authority

section Web

def isSlash (character : Char) : Bool := character = '/' ∨ character = '\\'

def isInside (character : Char) : Bool := !endsWebAuthority character

/-- The parts of an address are its authority and its path. -/
def readParts (authority path : List Char) : Except Url.Fault BaseUrl :=
  let (host, afterHost) := splitHost false (withoutUser authority)
  if host = [] then .error .emptyHost
  else do
    let host ← Url.Host.read host
    let port ← readPortPart afterHost
    return ⟨host, port.getD 80, Url.baseSegments path⟩

theorem readWeb_eq (afterScheme : List Char) :
    readWeb afterScheme =
      readParts ((afterScheme.dropWhile isSlash).takeWhile isInside)
        (((afterScheme.dropWhile isSlash).dropWhile isInside).takeWhile
          fun character => !Url.isMark character) := rfl

theorem exists_read_of_readParts {authority path : List Char} {base : BaseUrl}
    (read : readParts authority path = .ok base) :
    base.segments = Url.baseSegments path ∧ ∃ host, Url.Host.read host = .ok base.host := by
  rw [readParts] at read
  dsimp only at read
  split at read
  · cases read
  obtain ⟨host, isHost, read⟩ := bind_eq_ok.1 read
  obtain ⟨port, _, read⟩ := bind_eq_ok.1 read
  cases read
  exact ⟨rfl, _, isHost⟩

theorem readParts_append_slashes (authority path : List Char) (slashes : Nat) :
    readParts authority (path ++ List.replicate slashes '/') = readParts authority path := by
  simp only [readParts, Url.baseSegments_append_slashes]

/-- Host and port are told apart again. -/
theorem readParts_of_isHostText {host : List Char} (isHost : IsHostText host) (port : UInt16)
    (path : List Char) :
    readParts (host ++ ':' :: Nat.toDigits 10 port.toNat) path =
      (Url.Host.read host).map fun host => ⟨host, port, Url.baseSegments path⟩ := by
  have noUser : '@' ∉ host ++ ':' :: Nat.toDigits 10 port.toNat :=
    fun member => (isHostChar_of_mem_authority isHost member).noUser rfl
  simp only [readParts, withoutUser, splitUser_of_not_mem noUser, isHost.split,
    if_neg isHost.notEmpty, readPortPart, readPort_toDigits]
  cases Url.Host.read host <;> rfl

/-- Authority and path are told apart again. -/
theorem readWeb_of_isHostText {host : List Char} (isHost : IsHostText host) (port : UInt16)
    {path : List Char} (starts : path = [] ∨ ∃ rest, path = '/' :: rest)
    (unmarked : ∀ character ∈ path, Url.isMark character = false) :
    readWeb ('/' :: '/' :: (host ++ ':' :: Nat.toDigits 10 port.toNat ++ path)) =
      (Url.Host.read host).map fun host => ⟨host, port, Url.baseSegments path⟩ := by
  have inside : ∀ character ∈ host ++ ':' :: Nat.toDigits 10 port.toNat,
      isInside character = true := by
    intro character member
    rw [isInside, (isHostChar_of_mem_authority isHost member).inside]
    rfl
  have leading : ('/' :: '/' :: (host ++ ':' :: Nat.toDigits 10 port.toNat ++ path)).dropWhile
      isSlash = host ++ ':' :: Nat.toDigits 10 port.toNat ++ path := by
    obtain ⟨first, rest, rfl⟩ := List.exists_cons_of_ne_nil isHost.notEmpty
    have firstInside := (isHost.characters first List.mem_cons_self).inside
    simp only [endsWebAuthority, Bool.or_eq_false_iff, decide_eq_false_iff_not] at firstInside
    have noSlash : isSlash first = false := decide_eq_false (not_or.2 firstInside.1.1)
    have isSlash : isSlash '/' = true := rfl
    rw [List.dropWhile_cons, if_pos isSlash, List.dropWhile_cons, if_pos isSlash, List.cons_append,
      List.cons_append, List.dropWhile_cons, noSlash, if_neg Bool.false_ne_true]
  have ended : path.takeWhile isInside = [] ∧ path.dropWhile isInside = path := by
    rcases starts with isEmpty | ⟨rest, isSlash⟩
    · rw [isEmpty]
      exact ⟨rfl, rfl⟩
    · rw [isSlash]
      exact ⟨rfl, rfl⟩
  have kept : path.takeWhile (fun character => !Url.isMark character) = path :=
    List.takeWhile_eq_self_iff.2 fun character member => congrArg not (unmarked character member)
  rw [readWeb_eq, leading, List.takeWhile_append_of_pos inside, List.dropWhile_append_of_pos inside,
    ended.1, ended.2, kept, List.append_nil, readParts_of_isHostText isHost]

end Web

section Slashes

/-- An address with slashes behind it. -/
def slashed (raw : String) (slashes : Nat) : String :=
  raw ++ String.ofList (List.replicate slashes '/')

theorem toList_slashed (raw : String) (slashes : Nat) :
    (slashed raw slashes).toList = raw.toList ++ List.replicate slashes '/' := by
  rw [slashed, String.toList_append, String.toList_ofList]

/-- Slashes behind a path change none of the parts of an address. -/
theorem readWeb_append_slashes {afterScheme : List Char} {base : BaseUrl}
    (unmarked : ∀ character ∈ afterScheme, Url.isMark character = false)
    (read : readWeb afterScheme = .ok base) (slashes : Nat) :
    readWeb (afterScheme ++ List.replicate slashes '/') = .ok base := by
  have kept {path : List Char} (free : ∀ character ∈ path, Url.isMark character = false) :
      path.takeWhile (fun character => !Url.isMark character) = path :=
    List.takeWhile_eq_self_iff.2 fun character member => congrArg not (free character member)
  rw [readWeb_eq] at read ⊢
  rw [List.dropWhile_append]
  split
  · next isEmpty =>
      -- Slashes alone name no host.
      rw [List.isEmpty_iff.1 isEmpty] at read
      cases read
  · have pathUnmarked : ∀ character ∈ (afterScheme.dropWhile isSlash).dropWhile isInside,
        Url.isMark character = false := fun character member =>
      unmarked character ((List.dropWhile_sublist _).mem ((List.dropWhile_sublist _).mem member))
    have behindUnmarked : ∀ character ∈ (afterScheme.dropWhile isSlash).dropWhile isInside ++
        List.replicate slashes '/', Url.isMark character = false := by
      refine List.forall_mem_append.2 ⟨pathUnmarked, fun character member => ?_⟩
      rw [List.eq_of_mem_replicate member]
      rfl
    rw [kept pathUnmarked] at read
    rw [takeWhile_append_replicate rfl, dropWhile_append_replicate rfl, kept behindUnmarked,
      readParts_append_slashes, read]

/-- Slashes behind an address do not count. -/
theorem resolve_slashed {raw : String} {base : BaseUrl}
    (visible : ∀ character ∈ raw.toList, 0x20 < character.toNat)
    (unmarked : ∀ character ∈ raw.toList, Url.isMark character = false)
    (resolved : resolve raw = .ok base) (slashes : Nat) :
    resolve (slashed raw slashes) = .ok base := by
  obtain ⟨rest, isScheme, read⟩ := resolve_eq_ok_iff.1 resolved
  rw [trim_of_visible visible] at isScheme
  have allVisible : ∀ character ∈ (slashed raw slashes).toList, 0x20 < character.toNat := by
    rw [toList_slashed]
    refine List.forall_mem_append.2 ⟨visible, fun character member => ?_⟩
    rw [List.eq_of_mem_replicate member]
    decide
  have restUnmarked : ∀ character ∈ rest, Url.isMark character = false :=
    fun character member => unmarked character ((suffix_of_readScheme isScheme).mem member)
  refine resolve_eq_ok_iff.2
    ⟨rest ++ List.replicate slashes '/', ?_, readWeb_append_slashes restUnmarked read slashes⟩
  rw [trim_of_visible allVisible, toList_slashed, readScheme_append isScheme]

end Slashes

section Text

variable {base : BaseUrl}

theorem toList_text (base : BaseUrl) :
    base.text.toList = "http://".toList ++ base.authority ++ base.path := String.toList_ofList

/-- Behind the authority of a base address there is nothing or a slash. -/
theorem path_starts (base : BaseUrl) : base.path = [] ∨ ∃ rest, base.path = '/' :: rest := by
  rw [path]
  cases base.segments with
  | nil => exact .inl rfl
  | cons segment segments => exact .inr ⟨_, rfl⟩

theorem isPlainInPath_of_mem_path (resolved : Url.AreResolved base.segments) {character : Char}
    (member : character ∈ base.path) : Url.isPlainInPath character := by
  obtain ⟨segment, named, inSegment⟩ := List.mem_flatMap.1 member
  rcases List.mem_cons.1 inSegment with isSlash | inner
  · rw [isSlash]
    decide
  · exact (resolved.plain segment named character inner).1

theorem visible_of_isPlainInPath {character : Char} (plain : Url.isPlainInPath character) :
    0x20 < character.toNat := by
  simp only [Url.isPlainInPath, Bool.and_eq_true, decide_eq_true_eq] at plain
  omega

/-- All characters of a base address are visible. -/
theorem visible_of_mem_text (isHost : IsHostText base.host.text)
    (resolved : Url.AreResolved base.segments) :
    ∀ character ∈ base.text.toList, 0x20 < character.toNat := by
  have scheme : "http://".toList.all fun character => 0x20 < character.toNat := by decide
  rw [toList_text]
  refine List.forall_mem_append.2 ⟨List.forall_mem_append.2 ⟨?_, ?_⟩, ?_⟩
  · exact fun character member => of_decide_eq_true (List.all_eq_true.1 scheme character member)
  · exact fun character member => (isHostChar_of_mem_authority isHost member).visible
  · exact fun character member =>
      visible_of_isPlainInPath (isPlainInPath_of_mem_path resolved member)

/-- Neither a query nor a fragment follows in a base address. -/
theorem isMark_of_mem_text (isHost : IsHostText base.host.text)
    (resolved : Url.AreResolved base.segments) :
    ∀ character ∈ base.text.toList, Url.isMark character = false := by
  have scheme : "http://".toList.any Url.isMark = false := by decide
  rw [toList_text]
  refine List.forall_mem_append.2 ⟨List.forall_mem_append.2 ⟨?_, ?_⟩, ?_⟩
  · exact fun character member => Bool.eq_false_iff.2 (List.any_eq_false.1 scheme character member)
  · intro character member
    have inside := (isHostChar_of_mem_authority isHost member).inside
    simp only [endsWebAuthority, Bool.or_eq_false_iff] at inside
    rw [Url.isMark, inside.1.2, inside.2]
    rfl
  · exact fun character member =>
      Url.isMark_of_isPlainInPath (isPlainInPath_of_mem_path resolved member)

/-- The text of a base address is read like its host. -/
theorem resolve_text (isHost : IsHostText base.host.text)
    (resolved : Url.AreResolved base.segments) :
    resolve base.text =
      match Url.Host.read base.host.text with
      | .ok host => .ok ⟨host, base.port, base.segments⟩
      | .error fault => .error (.malformed base.text fault) := by
  have scheme (rest : List Char) : readScheme ("http://".toList ++ rest) =
      some ("http".toList, '/' :: '/' :: rest) := by
    rw [show "http://".toList = ['h', 't', 't', 'p', ':', '/', '/'] by decide]
    rfl
  have unmarked : ∀ character ∈ base.path, Url.isMark character = false := fun _ member =>
    Url.isMark_of_isPlainInPath (isPlainInPath_of_mem_path resolved member)
  have read := readWeb_of_isHostText isHost base.port (path_starts base) unmarked
  rw [show Url.baseSegments base.path = base.segments from
    Url.baseSegments_of_areResolved resolved] at read
  rw [resolve, trim_of_visible (visible_of_mem_text isHost resolved), toList_text,
    List.append_assoc, scheme, authority]
  dsimp only
  rw [if_pos rfl, read]
  cases Url.Host.read base.host.text <;> rfl

/-- Host and segments of an address that was read from a text are in their canonical forms. -/
theorem canonical_of_resolve {raw : String} (resolved : resolve raw = .ok base) :
    Url.AreResolved base.segments ∧ ∃ host, Url.Host.read host = .ok base.host := by
  obtain ⟨rest, _, read⟩ := resolve_eq_ok_iff.1 resolved
  rw [readWeb_eq] at read
  obtain ⟨segments, isHost⟩ := exists_read_of_readParts read
  refine ⟨?_, isHost⟩
  rw [segments]
  exact Url.areResolved_baseSegments _

/-- No mark stands in the path of an address that was read from a text. -/
theorem isMark_of_mem_path {raw : String} (resolved : resolve raw = .ok base) {character : Char}
    (member : character ∈ base.path) : Url.isMark character = false :=
  Url.isMark_of_isPlainInPath (isPlainInPath_of_mem_path (canonical_of_resolve resolved).1 member)

end Text

end Switchboard.BaseUrl
