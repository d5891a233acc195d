import Switchboard.Proofs.Domain.Name
import Switchboard.Proofs.Text.Utf8
import Switchboard.Proofs.Url.Ipv6
import Switchboard.Url.Host

/-
This file shows that a host is read back from its canonical form, unless a label of its name is too
long to be read back.
-/

namespace Switchboard.Url

/-- Without percent signs nothing is decoded. -/
theorem decode_of_not_mem {text : List Char} (absent : '%' ∉ text) :
    decode text = Text.Utf8.encode (String.ofList text) := by
  rw [Text.Utf8.encode, String.toList_ofList]
  fun_induction decode text with
  | case1 => rfl
  | case2 character => exact (List.flatMap_singleton _ _).symm
  | case3 first second =>
      exact congrArg (_ ++ ·) (List.flatMap_singleton Text.Utf8.encodeChar second).symm
  | case4 => exact absurd List.mem_cons_self absent
  | case5 => exact absurd List.mem_cons_self absent
  | case6 first second third rest noPercent inductionHypothesis =>
      rw [inductionHypothesis fun member => absent (List.mem_cons_of_mem _ member)]
      rfl

namespace Host

/-- What becomes of the ASCII form of a name. -/
def ofAscii : Option (List Char) → Except Fault Host
  | none => .error .invalidDomain
  | some [] => .error .emptyHost
  | some (character :: rest) =>
    if Ipv4.isMeant (character :: rest) then
      match Ipv4.read? (character :: rest) with
      | some address => .ok (.ipv4 address)
      | none => .error .invalidIpv4
    else .ok (.domain (character :: rest))

theorem readName_of_decode {text : List Char} {name : String}
    (decoded : Text.Utf8.decode (decode text) = .ok name) :
    readName text = ofAscii (Domain.toAscii name.toList) := by
  rw [readName, decoded]
  dsimp only
  cases Domain.toAscii name.toList with
  | none => rfl
  | some ascii => cases ascii <;> rfl

theorem readName_of_not_mem {text : List Char} (absent : '%' ∉ text) :
    readName text = ofAscii (Domain.toAscii text) := by
  have decoded : Text.Utf8.decode (decode text) = .ok (String.ofList text) := by
    rw [decode_of_not_mem absent, Text.Utf8.decode_encode]
  rw [readName_of_decode decoded, String.toList_ofList]

theorem read_of_ne {character : Char} (noBracket : character ≠ '[') (text : List Char) :
    read (character :: text) = readName (character :: text) := by
  rw [read.eq_def]
  split
  · next same => exact absurd (List.cons.inj same).1 noBracket
  · rfl

section Address

theorem code_of_isDigit_or {character : Char} (plain : character.isDigit ∨ character = '.') :
    0x2E ≤ character.toNat ∧ character.toNat ≤ 0x39 := by
  rcases plain with digit | isDot
  · have range := code_of_isDigit digit
    omega
  · rw [isDot]
    decide

theorem isForbidden_of_isDigit_or {character : Char} (plain : character.isDigit ∨ character = '.') :
    Domain.isForbidden character = false := by
  have all : ∀ code < 0x3A, 0x2E ≤ code → code ≠ 0x2F →
      Domain.isForbidden (Char.ofNat code) = false := by decide +kernel
  have notSlash : character.toNat ≠ 0x2F := by
    intro isSlash
    rw [← Char.ofNat_toNat character, isSlash] at plain
    exact absurd plain (by decide)
  have range := code_of_isDigit_or plain
  have found := all character.toNat (Nat.lt_succ_of_le range.2) range.1 notSlash
  rwa [Char.ofNat_toNat] at found

theorem isPlainAscii_of_isDigit_or {character : Char}
    (plain : character.isDigit ∨ character = '.') : Domain.IsPlainAscii character := by
  have range := code_of_isDigit_or plain
  have all : ∀ code < 0x3A, Domain.direction (Char.ofNat code) ≠ .rightToLeft ∧
      Domain.direction (Char.ofNat code) ≠ .arabicNumber := by decide +kernel
  have forward := all character.toNat (Nat.lt_succ_of_le range.2)
  rw [Char.ofNat_toNat] at forward
  refine ⟨?_, Domain.isKept_of_ascii (.inl (by omega)), forward, isForbidden_of_isDigit_or plain⟩
  rw [Domain.Punycode.isBasic, decide_eq_true_eq]
  omega

/-- A text of digits and dots is a name that stands for itself. -/
theorem toAscii_of_digits {text : List Char}
    (plain : ∀ character ∈ text, character.isDigit ∨ character = '.') :
    Domain.toAscii text = some text := by
  refine Domain.toAscii_of_isPlainAscii
    (fun character member => isPlainAscii_of_isDigit_or (plain character member)) ?_
  intro part isPart extension same
  have inText : 'x' ∈ text := by
    rw [← Domain.intercalate_splitAt '.' text]
    exact Domain.mem_intercalate_of_mem isPart (same ▸ List.mem_cons_self)
  exact absurd (plain 'x' inText) (by decide)

theorem read_ipv4 (address : Ipv4) : read address.text = .ok (.ipv4 address) := by
  have plain : ∀ character ∈ address.text, character.isDigit ∨ character = '.' :=
    fun _ => Ipv4.isDigit_or_of_mem_text address
  have ne {other : Char} (large : ¬ (other.isDigit ∨ other = '.')) : other ∉ address.text :=
    fun member => large (plain other member)
  have isAscii := toAscii_of_digits plain
  have named := readName_of_not_mem (ne (show ¬ ('%'.isDigit ∨ '%' = '.') by decide))
  have noBracket := ne (show ¬ ('['.isDigit ∨ '[' = '.') by decide)
  have isMeant := Ipv4.isMeant_text address
  have isRead := Ipv4.read?_text address
  rw [isAscii] at named
  generalize address.text = text at noBracket isMeant isRead named
  cases text with
  | nil => cases isMeant
  | cons character text =>
      rw [List.mem_cons, not_or] at noBracket
      rw [read_of_ne (Ne.symm noBracket.1), named, ofAscii, if_pos isMeant, isRead]

theorem read_ipv6 (address : Ipv6) : read (Host.ipv6 address).text = .ok (.ipv6 address) := by
  have bracketed : readBracketed (address.text ++ [']']) = .ok address := by
    rw [readBracketed, List.getLast?_concat, if_pos rfl, List.dropLast_concat, Ipv6.read?_text]
  rw [text, List.cons_append, read, bracketed]

end Address

section Name

/-- The name of a host is an ASCII form that is neither empty nor meant as an address. -/
theorem domain_of_read {raw name : List Char} (isRead : read raw = .ok (.domain name)) :
    name ≠ [] ∧ Ipv4.isMeant name = false ∧ ∃ source, Domain.toAscii source = some name := by
  have named : ∃ source, ofAscii (Domain.toAscii source) = .ok (.domain name) := by
    rw [read.eq_def] at isRead
    split at isRead
    · split at isRead <;> cases isRead
    · cases decoded : Text.Utf8.decode (decode raw) with
      | error _ =>
          rw [readName, decoded] at isRead
          cases isRead
      | ok source => exact ⟨source.toList, (readName_of_decode decoded).symm.trans isRead⟩
  obtain ⟨source, isName⟩ := named
  cases isAscii : Domain.toAscii source with
  | none =>
      rw [isAscii] at isName
      cases isName
  | some ascii =>
      cases ascii with
      | nil =>
          rw [isAscii] at isName
          cases isName
      | cons character ascii =>
          rw [isAscii, ofAscii] at isName
          split at isName
          · split at isName <;> cases isName
          · next notMeant =>
              cases isName
              exact ⟨List.cons_ne_nil _ _, Bool.eq_false_of_not_eq_true notMeant, source, isAscii⟩

/-- The labels of a name may be too long to be read back. -/
def isShort : Host → Bool
  | .domain name => Domain.areShort name
  | _ => true

/-- Neither brackets nor percent signs stand in a name. -/
theorem ne_of_mem_domain {raw name : List Char} (isRead : read raw = .ok (.domain name))
    {character other : Char} (member : character ∈ name)
    (forbidden : Domain.isForbidden other = true) : character ≠ other := by
  obtain ⟨_, _, source, isAscii⟩ := domain_of_read isRead
  intro same
  have allowed := (Domain.mem_toAscii isAscii member).2.2
  rw [same, forbidden] at allowed
  cases allowed

/-- A host is read back from its text, unless a label of its name is too long to be read back. -/
theorem read_text {raw : List Char} {host : Host} (isRead : read raw = .ok host) :
    read host.text = if host.isShort then .ok host else .error .invalidDomain := by
  cases host with
  | ipv4 address => exact read_ipv4 address
  | ipv6 address => exact read_ipv6 address
  | domain name =>
      obtain ⟨notEmpty, notMeant, source, isAscii⟩ := domain_of_read isRead
      have noPercent : '%' ∉ name := fun member =>
        ne_of_mem_domain isRead member (by decide) rfl
      have again := Domain.toAscii_of_toAscii isAscii
      cases name with
      | nil => exact absurd rfl notEmpty
      | cons character name =>
          have noBracket : character ≠ '[' :=
            ne_of_mem_domain isRead List.mem_cons_self (by decide)
          rw [text, read_of_ne noBracket, readName_of_not_mem noPercent, again, isShort]
          split
          · rw [ofAscii, if_neg (by rw [notMeant]; decide)]
          · rfl

end Name

end Host

end Switchboard.Url
