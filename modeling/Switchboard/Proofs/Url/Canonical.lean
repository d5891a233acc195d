import Switchboard.Http.Client
import Switchboard.Proofs.Domain.Ideograph
import Switchboard.Proofs.Url.Base
import Switchboard.Proofs.Url.Host

/-
This file shows that the text of a base address is canonical: it resolves to itself, and so does
every spelling of it with more slashes behind it.
-/

namespace Switchboard.BaseUrl

section Host

theorem ne_of_isForbidden {character other : Char} (allowed : Domain.isForbidden character = false)
    (forbidden : Domain.isForbidden other = true) : character ≠ other := by
  intro same
  rw [same, forbidden] at allowed
  cases allowed

/-- A name without forbidden characters stands for the host of an address. -/
theorem isHostText_of_allowed {name : List Char} (notEmpty : name ≠ [])
    (allowed : ∀ character ∈ name, Domain.isForbidden character = false) : IsHostText name where
  notEmpty
  characters character member := by
    have isAllowed := allowed character member
    have ne {other : Char} (forbidden : Domain.isForbidden other = true) :
        decide (character = other) = false :=
      decide_eq_false (ne_of_isForbidden isAllowed forbidden)
    refine ⟨?_, ?_, ne_of_isForbidden isAllowed (by decide)⟩
    · simp only [Domain.isForbidden, Bool.or_eq_false_iff, decide_eq_false_iff_not] at isAllowed
      omega
    · rw [endsWebAuthority, ne (by decide), ne (by decide), ne (by decide), ne (by decide)]
      rfl
  split := splitHost_of_ne fun character member =>
    ⟨ne_of_isForbidden (allowed character member) (by decide),
      ne_of_isForbidden (allowed character member) (by decide)⟩

/-- The colons of an address stand between brackets. -/
theorem isHostText_ipv6 (address : Url.Ipv6) : IsHostText (Url.Host.ipv6 address).text := by
  have digits : ∀ digit < 16, 0x20 < digit.digitChar.toNat ∧
      endsWebAuthority digit.digitChar = false ∧ digit.digitChar ≠ '@' ∧
      digit.digitChar ≠ ']' := by decide
  have inside {character : Char} (member : character ∈ address.text) :
      IsHostChar character ∧ character ≠ ']' := by
    rcases Url.Ipv6.mem_text member with isColon | ⟨digit, small, isDigit⟩
    · rw [isColon]
      exact ⟨isHostChar_colon, by decide⟩
    · rw [isDigit]
      obtain ⟨visible, isInside, noUser, noBracket⟩ := digits digit small
      exact ⟨⟨visible, isInside, noUser⟩, noBracket⟩
  refine ⟨List.cons_ne_nil _ _, fun character member => ?_, fun after => ?_⟩
  · rw [Url.Host.text, List.cons_append, List.mem_cons, List.mem_append,
      List.mem_singleton] at member
    rcases member with isOpening | inAddress | isClosing
    · rw [isOpening]
      exact ⟨by decide, by decide, by decide⟩
    · exact (inside inAddress).1
    · rw [isClosing]
      exact ⟨by decide, by decide, by decide⟩
  · rw [Url.Host.text, List.cons_append, List.cons_append, List.append_assoc,
      List.singleton_append, splitHost, if_neg (not_and_of_not_left _ (by decide))]
    dsimp only
    rw [if_pos rfl, splitHost_bracketed fun member => (inside member).2 rfl]

/-- The text of a host that was read is one that stands before a port. -/
theorem isHostText_of_read {raw : List Char} {host : Url.Host}
    (isRead : Url.Host.read raw = .ok host) : IsHostText host.text := by
  cases host with
  | ipv4 address => exact isHostText_ipv4 address
  | ipv6 address => exact isHostText_ipv6 address
  | domain name =>
      obtain ⟨notEmpty, _, source, isAscii⟩ := Url.Host.domain_of_read isRead
      exact isHostText_of_allowed notEmpty fun _ member => (Domain.mem_toAscii isAscii member).2.2

end Host

section Canonical

variable {base : BaseUrl}

/--
A canonical address has an explicit port and no slash at its end. It names no user and has neither a
query nor a fragment.
-/
structure IsCanonical (text : List Char) : Prop where
  parts : ∃ (host : List Char) (port : UInt16) (path : List Char),
    text = "http://".toList ++ (host ++ ':' :: Nat.toDigits 10 port.toNat) ++ path ∧
      IsHostText host ∧ (path = [] ∨ ∃ rest, path = '/' :: rest)
  unmarked : ∀ character ∈ text, character ≠ '?' ∧ character ≠ '#'
  ended : text.getLast? ≠ some '/'

/-- The last character of an address is that of its port or that of its last segment. -/
theorem ended_of_areResolved (resolved : Url.AreResolved base.segments) :
    base.text.toList.getLast? ≠ some '/' := by
  rw [toList_text]
  rcases List.eq_nil_or_concat base.segments with isEmpty | ⟨front, last, isConcat⟩
  · have pathEmpty : base.path = [] := by
      rw [path, isEmpty]
      rfl
    have digits : Nat.toDigits 10 base.port.toNat ≠ [] := Nat.toDigits_ne_nil
    rw [pathEmpty, List.append_nil, authority, List.append_cons, ← List.append_assoc,
      List.getLast?_append_of_ne_nil _ digits]
    intro isSlash
    have digit : '/'.isDigit := Nat.isDigit_of_mem_toDigits (by decide) (by decide)
      (List.mem_of_getLast? isSlash)
    exact absurd digit (by decide)
  · rw [List.concat_eq_append] at isConcat
    have isLast : base.segments.getLast? = some last := by
      rw [isConcat, List.getLast?_concat]
    have written : base.path =
        (front.flatMap fun segment => '/' :: segment) ++ ['/'] ++ last := by
      rw [path, isConcat, List.flatMap_append, List.flatMap_singleton, List.append_assoc]
      rfl
    rw [written, ← List.append_assoc, List.getLast?_append_of_ne_nil _ (resolved.ended last isLast)]
    intro isSlash
    exact (resolved.plain last (List.mem_of_getLast? isLast) '/' (List.mem_of_getLast? isSlash)).2.1
      rfl

theorem isCanonical_text (isHost : IsHostText base.host.text)
    (resolved : Url.AreResolved base.segments) : IsCanonical base.text.toList where
  parts := ⟨base.host.text, base.port, base.path, toList_text base, isHost, path_starts base⟩
  unmarked character member := by
    have free := isMark_of_mem_text isHost resolved character member
    simp only [Url.isMark, Bool.or_eq_false_iff, decide_eq_false_iff_not] at free
    exact free
  ended := ended_of_areResolved resolved

/-- A base address is read back from its text unless a label of its host is too long. -/
theorem resolve_text_of_resolve {raw : String} (resolved : resolve raw = .ok base) :
    resolve base.text =
      if base.host.isShort then .ok base else .error (.malformed base.text .invalidDomain) := by
  obtain ⟨areResolved, host, isRead⟩ := canonical_of_resolve resolved
  rw [resolve_text (isHostText_of_read isRead) areResolved, Url.Host.read_text isRead]
  cases base.host.isShort <;> rfl

/-- A text that is no base address is a fault of the configuration of a client. -/
theorem build_eq_error_iff {options : Http.ClientOptions} {raw : String}
    (isRaw : options.baseUrl = some raw) {error : Error} :
    options.build = .error error ↔
      ∃ fault, resolve raw = .error fault ∧ error = .configuration fault.message := by
  rw [Http.ClientOptions.build, isRaw]
  dsimp only
  cases resolve raw with
  | ok base => simp only [reduceCtorEq, false_and, exists_false]
  | error fault =>
      simp only [Except.error.injEq, exists_eq_left', BaseUrlFault.toError]
      exact eq_comm

/-- A name of ideographs is read in its ASCII form. -/
theorem read_spaced {count : Nat} (some : 0 < count) (bound : count ≤ 950) :
    Url.Host.read (Domain.spaced count) =
      .ok (.domain ('x' :: 'n' :: '-' :: '-' :: Domain.Punycode.encode (Domain.spaced count))) := by
  have noPercent : '%' ∉ Domain.spaced count := by
    intro member
    have allowed := (Domain.isPlainLetter_of_mem_spaced (by omega) member).allowed
    exact absurd allowed (by decide)
  have notMeant := Url.Ipv4.isMeant_of_hexValue? (show Url.hexValue? 'x' = none by decide)
    (Domain.dot_not_mem_writeLabel (by omega : count ≤ 1000))
  have isName : Url.Host.read (Domain.spaced count) = Url.Host.readName (Domain.spaced count) :=
    Url.Host.read_of_ne (by decide) _
  rw [isName, Url.Host.readName_of_not_mem noPercent, Domain.toAscii_spaced some bound,
    Url.Host.ofAscii, notMeant]
  rfl

/-- The host of this address is one label of ideographs that stand far apart. -/
def spacedText (count : Nat) : String :=
  String.ofList ("http://".toList ++ (Domain.spaced count ++ [':', '8', '0']))

/-- An address of many ideographs resolves, but the address that it resolves to does not. -/
theorem resolve_spacedText {count : Nat} (many : 650 ≤ count) (bound : count ≤ 950) :
    ∃ base, resolve (spacedText count) = .ok base ∧
      resolve base.text = .error (.malformed base.text .invalidDomain) := by
  have isHost : IsHostText (Domain.spaced count) :=
    isHostText_of_allowed (List.cons_ne_nil _ _) fun character member =>
      (Domain.isPlainLetter_of_mem_spaced (by omega) member).allowed
  have none : Url.AreResolved [] :=
    ⟨List.forall_mem_nil _, List.forall_mem_nil _, fun _ absent => nomatch absent⟩
  have written : text ⟨.domain (Domain.spaced count), 80, []⟩ = spacedText count := by
    have digits : Nat.toDigits 10 (80 : UInt16).toNat = ['8', '0'] := by decide
    have whole : (spacedText count).toList =
        "http://".toList ++ (Domain.spaced count ++ [':', '8', '0']) := String.toList_ofList
    rw [← String.toList_inj, toList_text, whole, path, authority, digits, List.flatMap_nil,
      List.append_nil, Url.Host.text]
  have resolved : resolve (text ⟨.domain (Domain.spaced count), 80, []⟩) = _ :=
    resolve_text isHost none
  rw [written, Url.Host.text, read_spaced (by omega) bound] at resolved
  refine ⟨_, resolved, ?_⟩
  have long : Url.Host.isShort (.domain ('x' :: 'n' :: '-' :: '-' ::
      Domain.Punycode.encode (Domain.spaced count))) = false := Domain.areShort_spaced many bound
  rw [resolve_text_of_resolve resolved, long]
  exact if_neg Bool.false_ne_true

/--
Whatever text a base address is read from, its own text is canonical. It resolves to the same address
unless a label of its host is too long to be read back. Slashes behind a text do not count, and a
text that is refused is a fault of the configuration.
-/
theorem resolve_canonical (raw : String) :
    (∀ base, resolve raw = .ok base →
      IsCanonical base.text.toList ∧
      resolve base.text =
        (if base.host.isShort then .ok base else .error (.malformed base.text .invalidDomain)) ∧
      ((∀ character ∈ raw.toList, 0x20 < character.toNat ∧ character ≠ '?' ∧ character ≠ '#') →
        ∀ slashes, resolve (slashed raw slashes) = .ok base)) ∧
    ∀ (options : Http.ClientOptions) (error : Error), options.baseUrl = some raw →
      (options.build = .error error ↔
        ∃ fault, resolve raw = .error fault ∧ error = .configuration fault.message) := by
  refine ⟨fun base resolved => ⟨?_, resolve_text_of_resolve resolved, fun visible => ?_⟩,
    fun _ _ isRaw => build_eq_error_iff isRaw⟩
  · obtain ⟨areResolved, host, isRead⟩ := canonical_of_resolve resolved
    exact isCanonical_text (isHostText_of_read isRead) areResolved
  · refine resolve_slashed (fun character member => (visible character member).1)
      (fun character member => ?_) resolved
    obtain ⟨_, noQuestion, noNumber⟩ := visible character member
    rw [Url.isMark, decide_eq_false noQuestion, decide_eq_false noNumber]
    rfl

/-- This address names a user, has a host in capital letters and leaves its port open. -/
def localRaw : String := "http://user@LOCALHOST/./a/../b"

def localBase : BaseUrl :=
  ⟨.domain ['l', 'o', 'c', 'a', 'l', 'h', 'o', 's', 't'], 80, [['b']]⟩

theorem resolve_canonical_localRaw :
    resolve localRaw = .ok localBase ∧ IsCanonical localBase.text.toList ∧
      resolve localBase.text = .ok localBase ∧ resolve (slashed localRaw 2) = .ok localBase ∧
      Http.ClientOptions.build { baseUrl := some "no address" } =
        .error (.configuration (BaseUrlFault.malformed "no address" .relative).message) := by
  have resolved : resolve localRaw = .ok localBase := by decide +kernel
  have visible : ∀ character ∈ localRaw.toList,
      0x20 < character.toNat ∧ character ≠ '?' ∧ character ≠ '#' := by
    have all : localRaw.toList.all fun character =>
        0x20 < character.toNat ∧ character ≠ '?' ∧ character ≠ '#' := by decide +kernel
    exact fun character member => of_decide_eq_true (List.all_eq_true.1 all character member)
  have refused : resolve "no address" = .error (.malformed "no address" .relative) := by
    decide +kernel
  obtain ⟨canonical, again, slashes⟩ := (resolve_canonical localRaw).1 localBase resolved
  have short : localBase.host.isShort = true := by decide +kernel
  rw [if_pos short] at again
  exact ⟨resolved, canonical, again, slashes visible 2,
    ((resolve_canonical "no address").2 _ _ rfl).2 ⟨_, refused, rfl⟩⟩

/-- The ASCII form of a host of 950 characters is too long to be read back. -/
theorem resolve_not_idempotent :
    ∃ base, resolve (spacedText 900) = .ok base ∧
      resolve base.text = .error (.malformed base.text .invalidDomain) :=
  resolve_spacedText (by decide) (by decide)

end Canonical

end Switchboard.BaseUrl
