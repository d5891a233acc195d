import Switchboard.Proofs.Url.Base

/-
This file shows that the address of a listener on the same host is read back with the port and the
prefix it was written with, however many slashes follow.
-/

namespace Switchboard.BaseUrl

/-- A plain prefix is written in these characters, which every address keeps as they are. -/
def isPrefixChar (character : Char) : Bool :=
  character.isAlphanum || character = '-' || character = '_'

/-- A plain prefix has segments, and none of them is empty. -/
def IsPlainPrefix (segments : List (List Char)) : Prop :=
  ∀ segment ∈ segments, segment ≠ [] ∧ ∀ character ∈ segment, isPrefixChar character

instance (segments : List (List Char)) : Decidable (IsPlainPrefix segments) :=
  decidable_of_iff (segments.all fun segment => segment ≠ [] && segment.all isPrefixChar) (by
    simp only [IsPlainPrefix, List.all_eq_true, Bool.and_eq_true, decide_eq_true_eq])

def prefixChars (segments : List (List Char)) : List Char :=
  segments.flatMap fun segment => '/' :: segment

/-- A listener on the same host is reached at its port and under its prefix. -/
def loopbackText (port : UInt16) (segments : List (List Char)) (slashes : Nat) : String :=
  String.ofList ("http://127.0.0.1:".toList ++ Nat.toDigits 10 port.toNat ++
    prefixChars segments ++ List.replicate slashes '/')

section Characters

variable {character : Char}

/-- The codes of the plain characters are those of the letters, the digits and two marks. -/
theorem toNat_of_isPrefixChar (plain : isPrefixChar character) :
    (0x30 ≤ character.toNat ∧ character.toNat ≤ 0x39) ∨
      (0x41 ≤ character.toNat ∧ character.toNat ≤ 0x5A) ∨
      (0x61 ≤ character.toNat ∧ character.toNat ≤ 0x7A) ∨
      character.toNat = 0x2D ∨ character.toNat = 0x5F := by
  have spelled : isPrefixChar character =
      ((decide (0x41 ≤ character.val ∧ character.val ≤ 0x5A) ||
        (0x61 ≤ character.val && character.val ≤ 0x7A)) ||
        (0x30 ≤ character.val && character.val ≤ 0x39) ||
        character = '-' || character = '_') := rfl
  simp only [spelled, Bool.or_eq_true, Bool.and_eq_true, decide_eq_true_eq,
    UInt32.le_iff_toNat_le] at plain
  have code : character.toNat = character.val.toNat := rfl
  rcases plain with (((upper | lower) | digit) | isDash) | isLine
  · exact .inr (.inl upper)
  · exact .inr (.inr (.inl lower))
  · exact .inl digit
  · rw [isDash]
    decide
  · rw [isLine]
    decide

theorem ne_of_isPrefixChar (plain : isPrefixChar character) {other : Char}
    (special : isPrefixChar other = false) : character ≠ other := by
  intro same
  rw [same, special] at plain
  exact Bool.noConfusion plain

theorem isPlainInPath_of_isPrefixChar (plain : isPrefixChar character) :
    Url.isPlainInPath character := by
  have code := toNat_of_isPrefixChar plain
  have usual : ['"', '#', '<', '>', '?', Char.ofNat 0x60, '\x7b', '\x7d'].contains character =
      false := by
    rw [List.contains_eq_mem, decide_eq_false_iff_not]
    intro member
    have special : ['"', '#', '<', '>', '?', Char.ofNat 0x60, '\x7b', '\x7d'].all
        fun other => !isPrefixChar other := by decide
    have notPlain := List.all_eq_true.1 special character member
    rw [plain] at notPlain
    exact absurd notPlain (by decide)
  rw [Url.isPlainInPath, usual]
  simp only [Bool.not_false, Bool.and_true, Bool.and_eq_true, decide_eq_true_eq]
  omega

end Characters

section Segments

variable {segments : List (List Char)}

/-- Neither a plain segment nor an empty one points elsewhere. -/
theorem dots_of_plain {segment : List Char}
    (plain : ∀ character ∈ segment, isPrefixChar character) :
    Url.dots segment ≠ some 1 ∧ Url.dots segment ≠ some 2 := by
  cases segment with
  | nil => decide
  | cons character segment =>
      have headPlain : isPrefixChar character := plain character List.mem_cons_self
      have noDot : character ≠ '.' := ne_of_isPrefixChar headPlain rfl
      have noPercent : character ≠ '%' := ne_of_isPrefixChar headPlain rfl
      have none : Url.dots (character :: segment) = .none := by
        rw [Url.dots.eq_def]
        split <;> simp_all
      rw [none]
      decide

/-- A plain prefix is kept as it is. -/
theorem areResolved_of_isPlainPrefix (plain : IsPlainPrefix segments) :
    Url.AreResolved segments := by
  refine ⟨fun segment member character inSegment => ?_, fun segment member => ?_,
    fun last isLast => ?_⟩
  · have isPlain := (plain segment member).2 character inSegment
    exact ⟨isPlainInPath_of_isPrefixChar isPlain, ne_of_isPrefixChar isPlain rfl,
      ne_of_isPrefixChar isPlain rfl⟩
  · exact dots_of_plain (plain segment member).2
  · exact (plain last (List.mem_of_getLast? isLast)).1

/-- Behind the authority there are plain characters and slashes. -/
theorem mem_prefixChars (plain : IsPlainPrefix segments) {character : Char}
    (member : character ∈ prefixChars segments) : isPrefixChar character ∨ character = '/' := by
  obtain ⟨segment, named, inSegment⟩ := List.mem_flatMap.1 member
  rcases List.mem_cons.1 inSegment with isSlash | inner
  · exact .inr isSlash
  · exact .inl ((plain segment named).2 character inner)

end Segments

section Loopback

/-- The host is written as an address, so no name is looked up. -/
def loopbackHost : Url.Host := .ipv4 ⟨127, 0, 0, 1⟩

theorem isHostText_loopbackHost : IsHostText loopbackHost.text := isHostText_ipv4 _

theorem text_loopbackHost :
    loopbackHost.text = ['1', '2', '7', '.', '0', '.', '0', '.', '1'] := by decide

theorem read_loopbackHost : Url.Host.read loopbackHost.text = .ok loopbackHost := by
  rw [text_loopbackHost]
  rfl

/-- The address of a listener on the same host is a base address with slashes behind it. -/
theorem loopbackText_eq (port : UInt16) (segments : List (List Char)) (slashes : Nat) :
    loopbackText port segments slashes =
      slashed (text ⟨loopbackHost, port, segments⟩) slashes := by
  have start : "http://127.0.0.1:".toList = "http://".toList ++ (loopbackHost.text ++ [':']) := by
    simp only [String.reduceToList, text_loopbackHost]
    rfl
  have whole : (loopbackText port segments slashes).toList = "http://127.0.0.1:".toList ++
      Nat.toDigits 10 port.toNat ++ prefixChars segments ++ List.replicate slashes '/' :=
    String.toList_ofList
  rw [← String.toList_inj, whole, start, toList_slashed, toList_text]
  simp only [authority, path, prefixChars, List.append_assoc, List.nil_append,
    List.cons_append]

/-- The address of a listener on the same host resolves to its port and its prefix. -/
theorem resolve_loopbackText {segments : List (List Char)} (plain : IsPlainPrefix segments)
    (slashes : Nat) (port : UInt16) :
    resolve (loopbackText port segments slashes) =
      .ok ⟨.ipv4 ⟨127, 0, 0, 1⟩, port, segments⟩ := by
  have resolved := areResolved_of_isPlainPrefix plain
  have read : resolve (text ⟨loopbackHost, port, segments⟩) =
      .ok ⟨loopbackHost, port, segments⟩ := by
    rw [resolve_text isHostText_loopbackHost resolved, read_loopbackHost]
  rw [loopbackText_eq]
  exact resolve_slashed (visible_of_mem_text isHostText_loopbackHost resolved)
    (isMark_of_mem_text isHostText_loopbackHost resolved) read slashes

end Loopback

end Switchboard.BaseUrl
