import Switchboard.Proofs.Codec
import Switchboard.Proofs.Json.Soundness
import Switchboard.Proofs.MessagePack.Soundness

/-
This file shows that both codecs decode data of the expected shape only, and that such data survive
another way through the same codec.
-/

namespace Switchboard.Codec

section Decoding

variable {codec : Codec} {shape : Shape} {payload : Bytes} {datum : Datum}
  (regular : shape.isRegular) (defaults : shape.hasNullDefaults) (closed : shape.isClosed)
include regular defaults closed

theorem holds_of_json_decode (decoded : json.decode shape payload = .ok datum) :
    shape.holds datum := by
  rw [decode] at decoded
  split at decoded
  · next read =>
      cases decoded
      exact Json.holds_of_readPayload regular defaults closed read
  · cases decoded

variable (narrow : shape.isNarrow)
include narrow

theorem suits_of_messagePack_decode (decoded : messagePack.decode shape payload = .ok datum) :
    MessagePack.Suits shape datum := by
  rw [decode] at decoded
  split at decoded
  · next read =>
      cases decoded
      exact MessagePack.suits_of_readPayload regular defaults closed narrow read
  · cases decoded

/-- Whatever is decoded for a closed shape is a datum of that shape. -/
theorem holds_of_decode (decoded : codec.decode shape payload = .ok datum) :
    shape.holds datum := by
  cases codec with
  | json => exact holds_of_json_decode regular defaults closed decoded
  | messagePack => exact (suits_of_messagePack_decode regular defaults closed narrow decoded).held

/-- A datum that was decoded once is decoded again from its own encoding. -/
theorem decode_encode_of_decode (shallow : shape.depth ≤ Json.maximalDepth)
    (decoded : codec.decode shape payload = .ok datum) {again : Bytes}
    (encoded : codec.encode datum = .ok again) : codec.decode shape again = .ok datum := by
  cases codec with
  | json =>
      have held := holds_of_json_decode regular defaults closed decoded
      exact json_decode_of_encode regular closed shallow held encoded
  | messagePack =>
      have suits := suits_of_messagePack_decode regular defaults closed narrow decoded
      exact decode_of_encode regular closed shallow suits.held suits.short encoded

end Decoding

end Switchboard.Codec
