import Switchboard.Proofs.MessagePack.Head
import Switchboard.Proofs.Reading
import Switchboard.Proofs.Text.Validity

/-
This file shows that the lengths that a MessagePack payload announces are short, and so are the
texts that are read from it.
-/

namespace Switchboard.MessagePack

variable {bytes rest : Bytes}

theorem readExactly_eq_ok {fault : Fault} {length : Nat} {content : Bytes}
    (read : readExactly fault length bytes = .ok (content, rest)) : content.length = length := by
  rw [readExactly] at read
  split at read
  · cases read
  · next enough =>
      cases read
      rw [List.length_take] at enough ⊢
      omega

theorem lt_of_readUnsigned {width value : Nat}
    (read : readUnsigned width bytes = .ok (value, rest)) : value < 256 ^ width := by
  obtain ⟨⟨digits, behind⟩, isRead, read⟩ := bind_eq_ok.1 read
  cases read
  rw [← readExactly_eq_ok isRead]
  exact Bytes.toNat_lt digits

/-- A length is announced by a short marker itself or by four bytes at most. -/
def Marker.announcesShort : Marker → Bool
  | .fixMap length | .fixArray length | .fixText length => Datum.isShortLength length
  | .bytes width | .text width | .array width | .map width => width ≤ 4
  | _ => true

theorem Marker.announcesShort_ofByte (byte : UInt8) : (Marker.ofByte byte).announcesShort := by
  have all : ∀ code < 256, (Marker.ofByte (UInt8.ofNat code)).announcesShort = true := by
    decide +kernel
  have here := all byte.toNat byte.toNat_lt
  rw [UInt8.ofNat_toNat] at here
  exact here

/-- The length in a head is short. -/
def Head.isShort : Head → Bool
  | .text length | .bytes length | .list length | .map length => Datum.isShortLength length
  | _ => true

theorem isShortLength_of_readUnsigned {width length : Nat} (narrow : width ≤ 4)
    (read : readUnsigned width bytes = .ok (length, rest)) : Datum.isShortLength length := by
  have small := lt_of_readUnsigned read
  have range : 256 ^ width ≤ 256 ^ 4 := Nat.pow_le_pow_right (by decide) narrow
  exact decide_eq_true (Nat.lt_of_lt_of_le small range)

theorem isShort_of_readHead {head : Head} (read : readHead bytes = .ok (head, rest)) :
    head.isShort := by
  cases bytes with
  | nil => cases read
  | cons byte bytes =>
      rw [readHead_cons] at read
      have short := Marker.announcesShort_ofByte byte
      cases marker : Marker.ofByte byte with
      | fixMap length | fixArray length | fixText length =>
          rw [marker] at read short
          cases read
          exact short
      | bytes width | text width | array width | map width =>
          rw [marker] at read short
          obtain ⟨⟨length, behind⟩, isRead, read⟩ := bind_eq_ok.1 read
          cases read
          exact isShortLength_of_readUnsigned (of_decide_eq_true short) isRead
      | fixPositive _ | null | bool _ | fixExtension _ | fixNegative _ =>
          rw [marker] at read
          cases read
          rfl
      | extension _ | float32 | float64 | unsigned _ | signed _ =>
          rw [marker] at read
          obtain ⟨_, _, read⟩ := bind_eq_ok.1 read
          cases read
          rfl
      | reserved =>
          rw [marker] at read
          cases read

/-- A text is as short as its content. -/
theorem isShortText_of_decode {length : Nat} (short : Datum.isShortLength length) {content : Bytes}
    (isContent : readContent length bytes = .ok (content, rest)) {text : String}
    (decoded : Text.Utf8.decode content = .ok text) : Datum.isShortText text := by
  rw [Datum.isShortText, Text.Utf8.decode_eq_ok.1 decoded, readExactly_eq_ok isContent]
  exact short

theorem returns_readText {length : Nat} (short : Datum.isShortLength length) :
    Returns (readText length) fun text => Datum.isShortText text := by
  intro bytes text rest read
  obtain ⟨⟨content, behind⟩, isContent, read⟩ := bind_eq_ok.1 read
  simp only at read
  split at read
  · next decoded =>
      cases read
      exact isShortText_of_decode short isContent decoded
  · cases read

/-- Entries that collapse are not more than were announced. -/
theorem isShortLength_ofList {κ ν : Type} [Ord κ] {entries : List (κ × ν)}
    (short : Datum.isShortLength entries.length) :
    Datum.isShortLength (Ascending.ofList entries).length :=
  decide_eq_true
    (Nat.lt_of_le_of_lt (Ascending.length_ofList_le entries) (of_decide_eq_true short))

theorem not_refuse {α : Type} {depth : Nat} {expected : String} {head : Head} {result : α}
    (read : refuse depth expected head bytes = .ok result) : False := by
  obtain ⟨fault, refused⟩ := exists_fault_of_refuse (α := α) depth expected head bytes
  rw [refused] at read
  cases read

theorem exists_enter {α : Type} {inside : Nat → Except Fault α} {depth : Nat} {result : α}
    (read : enter depth inside = .ok result) : ∃ inner, inside inner = .ok result := by
  cases depth with
  | zero => cases read
  | succ depth => exact ⟨depth, read⟩

theorem returns_readTextValue (depth : Nat) (expected : String) :
    Returns (readTextValue depth expected) fun text => Datum.isShortText text := by
  intro bytes text rest read
  obtain ⟨⟨head, behind⟩, isHead, read⟩ := bind_eq_ok.1 read
  have short := isShort_of_readHead isHead
  simp only at read
  split at read
  · exact returns_readText short _ _ _ read
  · obtain ⟨⟨content, after⟩, isContent, read⟩ := bind_eq_ok.1 read
    simp only at read
    split at read
    · next decoded =>
        cases read
        exact isShortText_of_decode short isContent decoded
    · cases read
  · exact (not_refuse read).elim

theorem liftMismatch_eq_ok {α : Type} {accepted : Except Mismatch α} {value : α} :
    liftMismatch accepted = .ok value ↔ accepted = .ok value := by
  cases accepted with
  | ok held => rw [liftMismatch, Except.ok.injEq, Except.ok.injEq]
  | error cause => exact ⟨nofun, nofun⟩

theorem holds_of_accept {type : IntegerType} {found value : Int}
    (accepted : liftMismatch (type.accept found) = .ok value) : type.holds value := by
  obtain ⟨inRange, rfl⟩ := IntegerType.accept_eq_ok.1 (liftMismatch_eq_ok.1 accepted)
  exact inRange

theorem returns_readInteger (type : IntegerType) :
    Returns (readInteger type) fun value => type.holds value := by
  intro bytes value rest read
  obtain ⟨⟨head, behind⟩, isHead, read⟩ := bind_eq_ok.1 read
  simp only at read
  split at read
  · obtain ⟨found, accepted, read⟩ := bind_eq_ok.1 read
    cases read
    exact holds_of_accept accepted
  · obtain ⟨found, accepted, read⟩ := bind_eq_ok.1 read
    cases read
    exact holds_of_accept accepted
  · exact (not_refuse read).elim

end Switchboard.MessagePack
