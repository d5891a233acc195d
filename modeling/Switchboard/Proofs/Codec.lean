import Switchboard.Codec
import Switchboard.Proofs.Catalogue
import Switchboard.Proofs.Json.RoundTrip
import Switchboard.Proofs.MessagePack.RoundTrip

/-
This file shows that both codecs decode what they encoded, and says what each of them makes of the
bytes around a payload.
-/

namespace Switchboard.Codec

section Json

theorem encode_json_eq_ok {datum : Datum} {payload : Bytes} :
    json.encode datum = .ok payload ↔ Json.write datum = .ok payload := by
  rw [encode]
  cases Json.write datum <;> simp

theorem decode_json_of_ok {shape : Shape} {datum : Datum} {payload : Bytes}
    (read : Json.readPayload shape payload = .ok datum) :
    json.decode shape payload = .ok datum := by
  rw [decode, read]

/--
A JSON payload decodes to the datum that was encoded, with blanks on both sides of it. Behind a
datum that is no number nothing else is accepted.
-/
theorem json_decode_encode {shape : Shape} (covered : shape ∈ Catalogue.shapes) {datum : Datum}
    (held : shape.holds datum)
    (limited : shape = .any → datum.isFloatFree ∧ datum.depth ≤ Json.maximalDepth)
    {payload : Bytes} (encoded : json.encode datum = .ok payload) :
    (∀ before after, Json.AreBlanks before → Json.AreBlanks after →
      json.decode shape (before ++ payload ++ after) = .ok datum) ∧
    (¬ datum.isInteger → ∀ behind, ¬ Json.AreBlanks behind →
      ∃ reason, json.decode shape (payload ++ behind) = .error (.decode reason)) := by
  have regular := Catalogue.isRegular_of_mem covered
  have written := encode_json_eq_ok.1 encoded
  have bounded : datum.isFloatFree ∧ datum.depth ≤ Json.maximalDepth := by
    by_cases isAny : shape = .any
    · exact limited isAny
    · obtain ⟨closed, shallow⟩ := Catalogue.isClosed_of_mem covered isAny
      have depth := Shape.depth_le_of_isClosed closed held
      refine ⟨Shape.isFloatFree_of_isClosed closed held, ?_⟩
      exact Nat.le_trans depth (Nat.le_trans shallow (by decide))
  obtain ⟨floatFree, shallow⟩ := bounded
  constructor
  · intro before after beforeBlank afterBlank
    apply decode_json_of_ok
    exact Json.readPayload_write regular held floatFree shallow written beforeBlank afterBlank
  · intro delimited behind notBlank
    rw [Json.AreBlanks] at notBlank
    obtain ⟨byte, notSolid⟩ := Classical.not_forall.1 notBlank
    obtain ⟨member, solid⟩ := Classical.not_imp.1 notSolid
    have refused := Json.readPayload_write_append regular held floatFree shallow written delimited
      member (Bool.eq_false_iff.2 solid)
    rw [decode, refused]
    exact ⟨_, rfl⟩

/-- The blanks may be a space and a line end, and an exclamation mark is no blank. -/
theorem json_decode_encode_nested :
    ∃ payload, json.encode (.object [("a", .list [.null, .int (-5)])]) = .ok payload ∧
      json.decode .any ([0x20] ++ payload ++ [0x0A]) =
        .ok (.object [("a", .list [.null, .int (-5)])]) ∧
      ∃ reason, json.decode .any (payload ++ [0x21]) = .error (.decode reason) := by
  have covered : Shape.any ∈ Catalogue.shapes := by decide
  have written : ∃ payload, json.encode (.object [("a", .list [.null, .int (-5)])]) = .ok payload :=
    ⟨_, rfl⟩
  obtain ⟨payload, encoded⟩ := written
  obtain ⟨around, behind⟩ := json_decode_encode covered (by decide) (fun _ => by decide) encoded
  exact ⟨payload, encoded, around [0x20] [0x0A] (by decide) (by decide),
    behind (by decide) [0x21] (by decide)⟩

end Json

section MessagePack

/-- Encoding as MessagePack never fails, and the payload says where it ends. -/
theorem messagePack_decode_encode {shape : Shape} (covered : shape ∈ Catalogue.shapes)
    {datum : Datum} (held : shape.holds datum) (short : datum.isShort)
    (limited : shape = .any → datum.depth ≤ MessagePack.maximalDepth) :
    ∃ payload, messagePack.encode datum = .ok payload ∧
      ∀ rest, messagePack.decode shape (payload ++ rest) = .ok datum := by
  have regular := Catalogue.isRegular_of_mem covered
  have shallow : datum.depth ≤ MessagePack.maximalDepth := by
    by_cases isAny : shape = .any
    · exact limited isAny
    · obtain ⟨closed, shallow⟩ := Catalogue.isClosed_of_mem covered isAny
      have depth := Shape.depth_le_of_isClosed closed held
      exact Nat.le_trans depth (Nat.le_trans shallow (by decide))
  refine ⟨MessagePack.write datum, rfl, ?_⟩
  intro rest
  rw [decode, MessagePack.readPayload_write regular held short shallow]

/-- The keys of a table may be pairs, although they may not be in the other format. -/
theorem messagePack_decode_encode_pairs :
    ∃ payload, messagePack.encode (.pairs [((-129, 70000), -33), ((0, 128), 7)]) = .ok payload ∧
      ∀ rest, messagePack.decode .pairTable (payload ++ rest) =
        .ok (.pairs [((-129, 70000), -33), ((0, 128), 7)]) := by
  have covered : Shape.pairTable ∈ Catalogue.shapes := by decide
  exact messagePack_decode_encode covered (by decide) (by decide) nofun

end MessagePack

section Closed

variable {shape : Shape} (regular : shape.isRegular) (closed : shape.isClosed)
  (shallow : shape.depth ≤ Json.maximalDepth) {datum : Datum} (held : shape.holds datum)
  {payload : Bytes}
include regular closed shallow held

theorem json_decode_of_encode (encoded : json.encode datum = .ok payload) :
    json.decode shape payload = .ok datum := by
  have depth := Nat.le_trans (Shape.depth_le_of_isClosed closed held) shallow
  have floatFree := Shape.isFloatFree_of_isClosed closed held
  have read := Json.readPayload_write regular held floatFree depth
    (encode_json_eq_ok.1 encoded) Json.areBlanks_nil Json.areBlanks_nil
  rw [List.nil_append, List.append_nil] at read
  exact decode_json_of_ok read

/-- A payload that says itself what it holds is decoded by the codec that encoded it. -/
theorem decode_of_encode {codec : Codec} (short : datum.isShort)
    (encoded : codec.encode datum = .ok payload) : codec.decode shape payload = .ok datum := by
  cases codec with
  | json => exact json_decode_of_encode regular closed shallow held encoded
  | messagePack =>
      have depth := Nat.le_trans (Shape.depth_le_of_isClosed closed held) shallow
      have read := MessagePack.readPayload_write regular held short
        (Nat.le_trans depth (by decide)) []
      rw [encode, Except.ok.injEq] at encoded
      rw [List.append_nil, encoded] at read
      rw [decode, read]

end Closed

end Switchboard.Codec
