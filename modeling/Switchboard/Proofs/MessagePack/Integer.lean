import Switchboard.Proofs.MessagePack.Container
import Switchboard.Proofs.Strict

/-
This file lists the forms in which a MessagePack payload can hold an integer. Only the shortest one
is ever written, but every one of them is read exactly, or refused.
-/

namespace Switchboard.MessagePack

/-- These markers announce how many bytes hold a number that is not negative. -/
def unsignedMarkers : List (UInt8 × Nat) := [(0xCC, 1), (0xCD, 2), (0xCE, 4), (0xCF, 8)]

/-- These markers announce how many bytes hold the complement of a number. -/
def signedMarkers : List (UInt8 × Nat) := [(0xD0, 1), (0xD1, 2), (0xD2, 4), (0xD3, 8)]

/-- A fixed marker is its number; the others stand in front of as many bytes as they announce. -/
inductive SpellsInteger : Int → Bytes → Prop where
  | fixPositive {value : Int} (natural : 0 ≤ value) (small : value < 0x80) :
    SpellsInteger value [UInt8.ofNat value.toNat]
  | fixNegative {value : Int} (negative : value < 0) (least : -32 ≤ value) :
    SpellsInteger value [UInt8.ofNat (value + 256).toNat]
  | unsigned {marker : UInt8} {width : Nat} (announced : (marker, width) ∈ unsignedMarkers)
    {value : Int} (natural : 0 ≤ value) (fits : value < (256 ^ width : Nat)) :
    SpellsInteger value (marker :: Bytes.bigEndian width value.toNat)
  | signed {marker : UInt8} {width : Nat} (announced : (marker, width) ∈ signedMarkers)
    {value : Int} (least : -(2 ^ (8 * width - 1) : Nat) ≤ value)
    (most : value < (2 ^ (8 * width - 1) : Nat)) :
    SpellsInteger value
      (marker :: Bytes.bigEndian width (value % (2 ^ (8 * width) : Nat)).toNat)

theorem ofByte_of_mem_unsignedMarkers {marker : UInt8} {width : Nat}
    (announced : (marker, width) ∈ unsignedMarkers) :
    Marker.ofByte marker = .unsigned width ∧ width ≤ 8 := by
  have all : ∀ entry ∈ unsignedMarkers,
      Marker.ofByte entry.1 = .unsigned entry.2 ∧ entry.2 ≤ 8 := by decide
  exact all _ announced

theorem ofByte_of_mem_signedMarkers {marker : UInt8} {width : Nat}
    (announced : (marker, width) ∈ signedMarkers) :
    Marker.ofByte marker = .signed width ∧ 0 < width ∧ width ≤ 8 := by
  have all : ∀ entry ∈ signedMarkers,
      Marker.ofByte entry.1 = .signed entry.2 ∧ 0 < entry.2 ∧ entry.2 ≤ 8 := by decide
  exact all _ announced

/-- The complement undoes the remainder, for numbers of either sign. -/
theorem complement_emod {width : Nat} {value : Int} (positive : 0 < width)
    (least : -(2 ^ (8 * width - 1) : Nat) ≤ value) (most : value < (2 ^ (8 * width - 1) : Nat)) :
    complement width (value % (2 ^ (8 * width) : Nat)).toNat = value := by
  have halves : 2 ^ (8 * width) = 2 * 2 ^ (8 * width - 1) := by
    rw [← Nat.pow_succ', Nat.succ_eq_add_one, Nat.sub_add_cancel (by omega)]
  by_cases negative : value < 0
  · have wrapped : value % (2 ^ (8 * width) : Nat) = value + (2 ^ (8 * width) : Nat) := by
      rw [← Int.add_emod_right, Int.emod_eq_of_lt (by omega) (by omega)]
    rw [wrapped, complement_toNat positive negative least]
  · have same : value % (2 ^ (8 * width) : Nat) = value :=
      Int.emod_eq_of_lt (by omega) (by omega)
    rw [same, complement, Nat.pow_eq, Nat.pow_eq, if_pos (by omega)]
    omega

/-- Every form starts with a head that is the integer. -/
theorem SpellsInteger.exists_head {value : Int} {bytes : Bytes}
    (spelled : SpellsInteger value bytes) :
    ∃ head, StartsWith bytes head ∧ head.scalar? = some (.int value) := by
  cases spelled with
  | fixPositive natural small =>
      have marker := Marker.ofByte_fixPositive (show value.toNat < 0x80 by omega)
      refine ⟨.unsigned value.toNat, startsWith_cons ?_ fun rest => ?_, ?_⟩
      · rw [marker]
        rfl
      · rw [marker]
        rfl
      · rw [Head.scalar?, Int.toNat_of_nonneg natural]
  | fixNegative negative least =>
      have marker := Marker.ofByte_fixNegative least negative
      refine ⟨.signed value, startsWith_cons ?_ fun rest => ?_, rfl⟩
      · rw [marker]
        rfl
      · rw [marker]
        rfl
  | @unsigned marker width announced _ natural fits =>
      obtain ⟨isMarker, _⟩ := ofByte_of_mem_unsignedMarkers announced
      have within : value.toNat < 256 ^ width := by omega
      refine ⟨.unsigned value.toNat, startsWith_cons ?_ fun rest => ?_, ?_⟩
      · rw [isMarker]
        rfl
      · rw [isMarker]
        exact (announces_unsigned width).read within rest
      · rw [Head.scalar?, Int.toNat_of_nonneg natural]
  | @signed marker width announced _ least most =>
      obtain ⟨isMarker, positive, _⟩ := ofByte_of_mem_signedMarkers announced
      have range : 2 ^ (8 * width) = 256 ^ width := Nat.pow_mul 2 8 width
      have some : 0 < 2 ^ (8 * width) := Nat.two_pow_pos _
      have within : (value % (2 ^ (8 * width) : Nat)).toNat < 256 ^ width := by
        have below := Int.emod_lt_of_pos value (show 0 < ((2 ^ (8 * width) : Nat) : Int) by omega)
        omega
      refine ⟨.signed value, startsWith_cons ?_ fun rest => ?_, rfl⟩
      · rw [isMarker]
        rfl
      · rw [isMarker, readAfterMarker, readSigned, readUnsigned_bigEndian rest within]
        simp only [ok_bind, complement_emod positive least most]
        rfl

/-- An integer is read exactly in every form, or refused because its type has no room for it. -/
theorem SpellsInteger.resolves {value : Int} {bytes : Bytes} (spelled : SpellsInteger value bytes)
    (type : IntegerType) (depth : Nat) :
    Resolves (readShape (.integer type) depth) bytes ((Shape.integer type).strict (.int value)) := by
  intro rest
  obtain ⟨head, starts, scalar⟩ := spelled.exists_head
  refine Follows.strict_of_accept ?_
  rw [readShape, Refusal.ofMismatch_map]
  exact (starts.readInteger rest scalar type).map

end Switchboard.MessagePack
