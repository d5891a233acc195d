import Switchboard.Proofs.Domain.Parts
import Switchboard.Url.Ipv4

/-
This file shows that a four-byte address is read back from its dotted form.
-/

namespace Switchboard.Url

section Numbers

theorem hexValue?_digitChar {digit : Nat} (small : digit < 16) :
    hexValue? digit.digitChar = some digit := by
  have all : ∀ digit < 16, hexValue? digit.digitChar = some digit := by decide
  exact all digit small

/-- The last digit of a number is its least one. -/
theorem numberIn?_append {base number digit : Nat} {digits : List Char}
    (read : Ipv4.numberIn? base digits = some number) (small : digit < base) (limit : base ≤ 16) :
    Ipv4.numberIn? base (digits ++ [digit.digitChar]) = some (number * base + digit) := by
  rw [Ipv4.numberIn?] at read
  rw [Ipv4.numberIn?, List.foldl_append, read, List.foldl_cons, List.foldl_nil,
    hexValue?_digitChar (Nat.lt_of_lt_of_le small limit)]
  exact if_pos small

/-- A number is read back from its digits. -/
theorem numberIn?_toDigits {base : Nat} (some : 1 < base) (limit : base ≤ 16) (number : Nat) :
    Ipv4.numberIn? base (Nat.toDigits base number) = .some number := by
  induction number using Nat.strongRecOn with
  | ind number inductionHypothesis =>
      rw [Nat.toDigits_eq_if some]
      split
      · next small =>
          have first : Ipv4.numberIn? base ([] ++ [number.digitChar]) = .some (0 * base + number) :=
            numberIn?_append rfl small limit
          rwa [Nat.zero_mul, Nat.zero_add] at first
      · next large =>
          have smaller : number / base < number := Nat.div_lt_self (by omega) some
          rw [numberIn?_append (inductionHypothesis _ smaller) (Nat.mod_lt _ (by omega)) limit,
            Nat.mul_comm, Nat.div_add_mod]

/-- Digits are the characters of numbers below the base. -/
theorem exists_digit_of_mem_toDigits {base number : Nat} (some : 1 < base) {character : Char}
    (member : character ∈ Nat.toDigits base number) :
    ∃ digit < base, character = digit.digitChar := by
  induction number using Nat.strongRecOn with
  | ind number inductionHypothesis =>
      rw [Nat.toDigits_eq_if some] at member
      split at member
      · next small => exact ⟨number, small, List.mem_singleton.1 member⟩
      · rcases List.mem_append.1 member with before | isLast
        · exact inductionHypothesis _ (Nat.div_lt_self (by omega) some) before
        · exact ⟨_, Nat.mod_lt _ (by omega), List.mem_singleton.1 isLast⟩

theorem code_of_isDigit {character : Char} (digit : character.isDigit) :
    0x30 ≤ character.toNat ∧ character.toNat ≤ 0x39 := by
  simp only [Char.isDigit, Bool.and_eq_true, decide_eq_true_eq, ge_iff_le,
    UInt32.le_iff_toNat_le] at digit
  exact digit

end Numbers

namespace Ipv4

variable (address : Ipv4)

def bytes : List UInt8 := [address.first, address.second, address.third, address.fourth]

def byteText (byte : UInt8) : List Char := Nat.toDigits 10 byte.toNat

theorem isDigit_of_mem_byteText {byte : UInt8} {character : Char}
    (member : character ∈ byteText byte) : character.isDigit :=
  Nat.isDigit_of_mem_toDigits (by decide) (by decide) member

theorem isDigit_or_of_mem_text {character : Char} (member : character ∈ address.text) :
    character.isDigit ∨ character = '.' := by
  rcases Domain.mem_intercalate member with isDot | ⟨part, isPart, inPart⟩
  · exact .inr isDot
  · obtain ⟨byte, _, rfl⟩ := List.mem_map.1 isPart
    exact .inl (isDigit_of_mem_byteText inPart)

theorem splitAt_text : Domain.splitAt '.' address.text = address.bytes.map byteText := by
  refine Domain.splitAt_intercalate (List.cons_ne_nil _ _) fun part isPart isDot => ?_
  obtain ⟨byte, _, rfl⟩ := List.mem_map.1 isPart
  exact absurd (isDigit_of_mem_byteText isDot) (by decide)

theorem parts_text : parts address.text = address.bytes.map byteText := by
  have last : (address.bytes.map byteText).getLast? = some (byteText address.fourth) := rfl
  rw [parts, splitAt_text]
  refine if_neg ?_
  rw [last, Option.some.injEq]
  exact Nat.toDigits_ne_nil

theorem isMeant_text : isMeant address.text = true := by
  have digits : (byteText address.fourth).all Char.isDigit :=
    List.all_eq_true.2 fun _ member => isDigit_of_mem_byteText member
  have notEmpty : byteText address.fourth ≠ [] := Nat.toDigits_ne_nil
  have last : (address.bytes.map byteText).getLast? = some (byteText address.fourth) := rfl
  rw [isMeant, parts_text, last]
  dsimp only
  rw [digits, decide_eq_true notEmpty]
  rfl

theorem number?_byteText (byte : UInt8) : number? (byteText byte) = some byte.toNat := by
  have all : ∀ number < 256, number? (Nat.toDigits 10 number) = some number := by
    decide +kernel
  exact all byte.toNat (UInt8.toNat_lt byte)

theorem ofNumbers?_bytes : ofNumbers? (address.bytes.map UInt8.toNat) = some address := by
  obtain ⟨first, second, third, fourth⟩ := address
  have bounds := And.intro (And.intro (UInt8.toNat_lt first) (UInt8.toNat_lt second))
    (And.intro (UInt8.toNat_lt third) (UInt8.toNat_lt fourth))
  simp only [bytes, List.map_cons, List.map_nil, ofNumbers?]
  rw [if_pos (by omega), Option.some.injEq, ofNat, Ipv4.mk.injEq]
  simp only [← UInt8.toNat_inj, UInt8.toNat_ofNat']
  omega

/-- A four-byte address is read back from its dotted form. -/
theorem read?_text : read? address.text = some address := by
  have numbers : (address.bytes.map byteText).mapM number? =
      some (address.bytes.map UInt8.toNat) := by
    simp only [bytes, List.map_cons, List.map_nil, List.mapM_cons, List.mapM_nil,
      number?_byteText]
    rfl
  rw [read?, parts_text, numbers]
  exact ofNumbers?_bytes address

/-- A fold does not recover from a step that fails. -/
theorem foldl_none {α β : Type} {step : Option α → β → Option α}
    (stays : ∀ item, step none item = none) (items : List β) : items.foldl step none = none := by
  induction items with
  | nil => rfl
  | cons item items inductionHypothesis => rw [List.foldl_cons, stays, inductionHypothesis]

/-- Without a digit at its start a text is no number. -/
theorem numberIn?_eq_none {character : Char} (noDigit : hexValue? character = none) (base : Nat)
    (rest : List Char) : numberIn? base (character :: rest) = none := by
  rw [numberIn?, List.foldl_cons, noDigit]
  exact foldl_none (fun _ => rfl) rest

/-- A name of one part is no address unless it starts with a digit. -/
theorem isMeant_of_hexValue? {character : Char} {rest : List Char}
    (noDigit : hexValue? character = none) (noDot : '.' ∉ character :: rest) :
    isMeant (character :: rest) = false := by
  have isPart : parts (character :: rest) = [character :: rest] := by
    rw [parts, Domain.splitAt_of_not_mem noDot]
    exact if_neg fun same => List.cons_ne_nil _ _ (Option.some.inj same)
  have noNumber : number? (character :: rest) = none := by
    have noZero : character ≠ '0' := by
      rintro rfl
      cases noDigit
    rw [number?.eq_def]
    split <;> simp_all [numberIn?_eq_none]
  have notDecimal : character.isDigit = false := by
    rw [Bool.eq_false_iff]
    intro digit
    rw [hexValue?, if_pos (code_of_isDigit digit)] at noDigit
    cases noDigit
  rw [isMeant, isPart]
  dsimp only [List.getLast?_singleton]
  rw [List.all_cons, notDecimal, noNumber]
  simp only [Bool.false_and, Bool.and_false, Option.isSome_none, Bool.or_self]

end Ipv4

end Switchboard.Url
