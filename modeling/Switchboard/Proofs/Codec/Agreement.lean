import Switchboard.Proofs.Codec
import Switchboard.Proofs.Soundness

/-
This file shows that both codecs make the same of a datum, whatever shape it is decoded at. Their
refusals differ only in the wording of the causes that one of them sees.
-/

namespace Switchboard.Codec

/-- The codecs put mismatches into words in different ways. -/
def wording : Codec → Wording
  | .json => Json.wording
  | .messagePack => MessagePack.wording

/-- Decoding gives the value of an outcome, or a reason that starts with its mismatch if it has one. -/
def Decodes (codec : Codec) (result : Except Error Datum) : Except Refusal Datum → Prop
  | .ok value => result = .ok value
  | .error .unspecified => ∃ reason, result = .error (.decode reason)
  | .error (.mismatch cause) =>
    ∃ detail, result = .error (.decode (cause.message codec.wording ++ detail))

theorem Decodes.exists_reason {codec : Codec} {result : Except Error Datum} {refusal : Refusal}
    (decodes : codec.Decodes result (.error refusal)) :
    ∃ reason, result = .error (.decode reason) := by
  cases refusal with
  | unspecified => exact decodes
  | mismatch cause =>
      obtain ⟨detail, refused⟩ := decodes
      exact ⟨_, refused⟩

/-- A fault of a JSON payload is worded like its mismatch and then by its position. -/
theorem exists_message_of_stopsFor {cause : Mismatch} {fault : Json.Fault}
    (given : Json.StopsFor cause fault) (payload : Bytes) :
    ∃ detail, fault.message payload = cause.message Json.wording ++ detail := by
  rw [Json.Fault.message, given, Json.Cause.message]
  simp only [String.append_assoc]
  exact ⟨_, rfl⟩

section Formats

variable {shape : Shape} {datum : Datum} {outcome : Except Refusal Datum} {payload : Bytes}

/-- Blanks may stand behind the value of a JSON payload. -/
theorem json_decodes_of_follows {rest : Bytes} (blank : Json.AreBlanks rest)
    (follows : Follows Json.StopsFor (Json.readShape shape Json.maximalDepth payload) rest outcome) :
    json.Decodes (json.decode shape payload) outcome := by
  rw [decode, Json.readPayload]
  cases outcome with
  | ok value =>
      have read : Json.readShape shape Json.maximalDepth payload = .ok (value, rest) := follows
      rw [read]
      simp only [ok_bind, Json.skipBlanks_of_areBlanks blank]
      exact rfl
  | error refusal =>
      cases refusal with
      | unspecified =>
          obtain ⟨fault, stopped⟩ := follows
          rw [stopped]
          exact ⟨_, rfl⟩
      | mismatch cause =>
          obtain ⟨fault, given, stopped⟩ := follows
          obtain ⟨detail, same⟩ := exists_message_of_stopsFor given payload
          rw [stopped]
          simp only [error_bind, same]
          exact ⟨detail, rfl⟩

/-- Anything may stand behind the value of a MessagePack payload. -/
theorem messagePack_decodes_of_follows {rest : Bytes}
    (follows : Follows MessagePack.StopsFor
      (MessagePack.readShape shape MessagePack.maximalDepth payload) rest outcome) :
    messagePack.Decodes (messagePack.decode shape payload) outcome := by
  rw [decode, MessagePack.readPayload]
  cases outcome with
  | ok value =>
      have read : MessagePack.readShape shape MessagePack.maximalDepth payload = .ok (value, rest) :=
        follows
      rw [read]
      exact rfl
  | error refusal =>
      cases refusal with
      | unspecified =>
          obtain ⟨fault, stopped⟩ := follows
          rw [stopped]
          exact ⟨_, rfl⟩
      | mismatch cause =>
          obtain ⟨fault, given, stopped⟩ := follows
          rw [stopped, given]
          refine ⟨"", ?_⟩
          rw [String.append_empty]
          rfl

theorem json_decodes (yields : Json.Yields (Json.readShape shape Json.maximalDepth) datum outcome)
    (encoded : json.encode datum = .ok payload) : json.Decodes (json.decode shape payload) outcome := by
  have follows := yields payload [] (encode_json_eq_ok.1 encoded) fun _ => rfl
  rw [List.append_nil] at follows
  exact json_decodes_of_follows Json.areBlanks_nil follows

theorem messagePack_decodes
    (yields : MessagePack.Yields (MessagePack.readShape shape MessagePack.maximalDepth) datum outcome)
    (encoded : messagePack.encode datum = .ok payload) :
    messagePack.Decodes (messagePack.decode shape payload) outcome := by
  have follows := yields []
  rw [encode, Except.ok.injEq] at encoded
  rw [List.append_nil, encoded] at follows
  exact messagePack_decodes_of_follows follows

end Formats

/-- A codec carries a datum within the limits of its format. -/
def Carries : Codec → Datum → Prop
  | .json => Json.Readable Json.maximalDepth
  | .messagePack => MessagePack.Readable MessagePack.maximalDepth

/-- What a codec carries is decoded like the shape says, whatever shape it was encoded for. -/
theorem decodes_of_encode {codec : Codec} {datum : Datum} (carried : codec.Carries datum)
    {payload : Bytes} (encoded : codec.encode datum = .ok payload) (shape : Shape) :
    codec.Decodes (codec.decode shape payload) (shape.interpret datum) := by
  cases codec with
  | json => exact json_decodes (Json.readShape_write shape _ carried) encoded
  | messagePack => exact messagePack_decodes (MessagePack.readShape_write shape _ carried) encoded

/--
A datum of one shape is decoded at another one alike by both codecs: they return the same value of
the other shape, or they both refuse the datum.
-/
theorem decode_agrees {source : Shape} {datum : Datum} (held : source.holds datum)
    (floatFree : datum.isFloatFree) (shallow : datum.depth ≤ 127) (short : datum.isShort)
    {payload : Bytes} (encoded : json.encode datum = .ok payload) (target : Shape) :
    ∃ other, messagePack.encode datum = .ok other ∧
      ((∃ value, json.decode target payload = .ok value ∧
          messagePack.decode target other = .ok value ∧
          (target ∈ Catalogue.shapes → target.holds value)) ∨
        (∃ reason, json.decode target payload = .error (.decode reason)) ∧
          ∃ reason, messagePack.decode target other = .error (.decode reason)) := by
  have plain := Shape.hasPlainIntegers_of_holds held
  have inJson : json.Carries datum := ⟨plain, floatFree, shallow⟩
  have inMessagePack : messagePack.Carries datum :=
    ⟨⟨plain, short⟩, Nat.le_trans shallow (by decide)⟩
  have first := decodes_of_encode inJson encoded target
  have second := decodes_of_encode inMessagePack rfl target
  refine ⟨MessagePack.write datum, rfl, ?_⟩
  cases outcome : target.interpret datum with
  | ok value =>
      rw [outcome] at first second
      refine .inl ⟨value, first, second, fun covered => ?_⟩
      exact Shape.holds_of_interpret (Catalogue.isRegular_of_mem covered)
        (Catalogue.hasNullDefaults_of_mem covered) plain outcome
  | error refusal =>
      rw [outcome] at first second
      exact .inr ⟨first.exists_reason, second.exists_reason⟩

/--
A list with an item too many stands for no point, and both codecs refuse it. A record is read as its
summary by both, and they find the same there.
-/
theorem decode_agrees_surplus :
    ((∃ reason, json.decode Catalogue.point
          [0x5B, 0x31, 0x2C, 0x2D, 0x32, 0x2C, 0x6E, 0x75, 0x6C, 0x6C, 0x5D] =
        .error (.decode reason)) ∧
      ∃ reason, messagePack.decode Catalogue.point [0x93, 0x01, 0xFE, 0xC0] =
        .error (.decode reason)) ∧
    ∃ payload other, json.encode (.object [("id", .int 7), ("firstName", .text "Ada"),
          ("middleName", .null), ("tags", .list [.text "new"]), ("scores", .object []),
          ("active", .bool true)]) = .ok payload ∧
      messagePack.encode (.object [("id", .int 7), ("firstName", .text "Ada"),
          ("middleName", .null), ("tags", .list [.text "new"]), ("scores", .object []),
          ("active", .bool true)]) = .ok other ∧
      json.decode Catalogue.summary payload =
        .ok (.object [("firstName", .text "Ada"), ("id", .int 7)]) ∧
      messagePack.decode Catalogue.summary other =
        .ok (.object [("firstName", .text "Ada"), ("id", .int 7)]) := by
  constructor
  · have held : Shape.any.holds (.list [.int 1, .int (-2), .null]) := by decide
    have carried : json.Carries (.list [.int 1, .int (-2), .null]) :=
      ⟨by decide, by decide, by decide⟩
    have encoded : json.encode (.list [.int 1, .int (-2), .null]) =
        .ok [0x5B, 0x31, 0x2C, 0x2D, 0x32, 0x2C, 0x6E, 0x75, 0x6C, 0x6C, 0x5D] := rfl
    obtain ⟨other, packed, agree⟩ :=
      decode_agrees held (by decide) (by decide) (by decide) encoded Catalogue.point
    have bytes : messagePack.encode (.list [.int 1, .int (-2), .null]) =
        .ok [0x93, 0x01, 0xFE, 0xC0] := rfl
    rw [bytes, Except.ok.injEq] at packed
    rw [← packed] at agree
    refine agree.resolve_left ?_
    rintro ⟨value, accepted, _⟩
    have decodes := decodes_of_encode carried encoded Catalogue.point
    obtain ⟨refusal, surplus⟩ : ∃ refusal,
        Catalogue.point.interpret (.list [.int 1, .int (-2), .null]) = .error refusal := ⟨_, rfl⟩
    rw [surplus, accepted] at decodes
    obtain ⟨_, refused⟩ := decodes.exists_reason
    cases refused
  · have held : Catalogue.record.holds (.object [("id", .int 7), ("firstName", .text "Ada"),
        ("middleName", .null), ("tags", .list [.text "new"]), ("scores", .object []),
        ("active", .bool true)]) := by decide
    have carried : json.Carries (.object [("id", .int 7), ("firstName", .text "Ada"),
        ("middleName", .null), ("tags", .list [.text "new"]), ("scores", .object []),
        ("active", .bool true)]) := ⟨by decide, by decide, by decide⟩
    have written : ∃ payload, json.encode (.object [("id", .int 7), ("firstName", .text "Ada"),
        ("middleName", .null), ("tags", .list [.text "new"]), ("scores", .object []),
        ("active", .bool true)]) = .ok payload := ⟨_, rfl⟩
    obtain ⟨payload, encoded⟩ := written
    have decodes := decodes_of_encode carried encoded Catalogue.summary
    have found : json.decode Catalogue.summary payload =
        .ok (.object [("firstName", .text "Ada"), ("id", .int 7)]) := decodes
    obtain ⟨other, packed, ⟨value, first, second, _⟩ | ⟨⟨_, refused⟩, _⟩⟩ :=
      decode_agrees held (by decide) (by decide) (by decide) encoded Catalogue.summary
    · rw [found, Except.ok.injEq] at first
      rw [← first] at second
      exact ⟨payload, other, encoded, packed, found, second⟩
    · rw [found] at refused
      cases refused

end Switchboard.Codec
