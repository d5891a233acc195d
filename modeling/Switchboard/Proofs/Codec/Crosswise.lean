import Switchboard.Proofs.Codec.Truncation

/-
This file shows that neither codec decodes what the other one encoded, unless a number is expected
or nothing at all.
-/

namespace Switchboard

/-- Nothing that starts like a number has such a shape. -/
def Shape.refusesNumbers : Shape → Bool
  | .integer _ => false
  | .any => false
  | .optional content => content.refusesNumbers
  | _ => true

theorem Catalogue.refusesNumbers_of_mem {shape : Shape} (member : shape ∈ shapes)
    (notInteger : ∀ type, shape ≠ .integer type) (notAny : shape ≠ .any) :
    shape.refusesNumbers := by
  have all : ∀ shape ∈ shapes, shape.refusesNumbers = true ∨ shape = .any ∨
      ∃ type ∈ [IntegerType.u8, .i8, .u32, .i32, .u64, .i64], shape = .integer type := by decide
  obtain refuses | isAny | ⟨type, _, isInteger⟩ := all shape member
  · exact refuses
  · exact absurd isAny notAny
  · exact absurd isInteger (notInteger type)

namespace MessagePack

theorem exists_fault_of_number {shape : Shape} (refuses : shape.refusesNumbers) (depth : Nat)
    {bytes rest : Bytes} {head : Head} (read : readHead bytes = .ok (head, rest))
    (number : head.kind = .integer) : ∃ fault, readShape shape depth bytes = .error fault := by
  match shape with
  | .integer _ | .any => exact Bool.noConfusion refuses
  | .optional content =>
      have present : startsWithNull bytes = false := by
        cases bytes with
        | nil => rfl
        | cons byte more =>
            rw [startsWithNull, decide_eq_false_iff_not]
            intro isNull
            have absent : readHead (0xC0 :: more) = .ok (.null, more) := rfl
            rw [isNull, absent, Except.ok.injEq, Prod.mk.injEq] at read
            rw [← read.1] at number
            cases number
      rw [readShape, present, if_neg Bool.false_ne_true]
      exact exists_fault_of_number (show content.refusesNumbers from refuses) depth read number
  | .unit | .bool | .text | .list _ | .dictionary _ | .pair _ _ | .pairTable | .record _ _ =>
      refine exists_fault_of_not_takes ?_ depth read
      rw [number]
      rfl

/-- An ASCII character is a small number in this format. -/
theorem exists_fault_of_ascii {shape : Shape} (refuses : shape.refusesNumbers) {byte : UInt8}
    (ascii : byte.toNat < 0x80) (more : Bytes) :
    ∃ fault, readPayload shape (byte :: more) = .error fault := by
  have read : readHead (byte :: more) = .ok (.unsigned byte.toNat, more) := by
    rw [readHead_cons, Marker.ofByte, if_pos ascii, readAfterMarker]
  exact exists_error_bind (exists_fault_of_number refuses maximalDepth read rfl) _

section Starts

theorem writeNat_cases (value : Nat) :
    (∃ byte more, writeNat value = byte :: more ∧ 0x80 ≤ byte.toNat) ∨
      ∃ byte, writeNat value = [byte] := by
  rw [writeNat]
  split
  · exact .inr ⟨_, rfl⟩
  split
  · exact .inl ⟨_, _, rfl, by decide⟩
  split
  · exact .inl ⟨_, _, rfl, by decide⟩
  split <;> exact .inl ⟨_, _, rfl, by decide⟩

theorem writeNegative_eq_cons {value : Int} (negative : value < 0) :
    ∃ byte more, writeNegative value = byte :: more ∧ 0x80 ≤ byte.toNat := by
  rw [writeNegative]
  split
  · refine ⟨_, _, rfl, ?_⟩
    rw [UInt8.toNat_ofNat']
    omega
  split
  · exact ⟨_, _, rfl, by decide⟩
  split
  · exact ⟨_, _, rfl, by decide⟩
  split <;> exact ⟨_, _, rfl, by decide⟩

theorem writeText_eq_cons (text : String) :
    ∃ byte more, writeText text = byte :: more ∧ 0x80 ≤ byte.toNat := by
  rw [writeText]
  generalize Text.Utf8.encode text = content
  split
  · refine ⟨_, _, rfl, ?_⟩
    rw [UInt8.toNat_ofNat']
    omega
  split
  · exact ⟨_, _, rfl, by decide⟩
  split <;> exact ⟨_, _, rfl, by decide⟩

theorem writeListHead_eq_cons (length : Nat) :
    ∃ byte more, writeListHead length = byte :: more ∧ 0x80 ≤ byte.toNat := by
  rw [writeListHead]
  split
  · refine ⟨_, _, rfl, ?_⟩
    rw [UInt8.toNat_ofNat']
    omega
  split <;> exact ⟨_, _, rfl, by decide⟩

theorem writeMapHead_eq_cons (length : Nat) :
    ∃ byte more, writeMapHead length = byte :: more ∧ 0x80 ≤ byte.toNat := by
  rw [writeMapHead]
  split
  · refine ⟨_, _, rfl, ?_⟩
    rw [UInt8.toNat_ofNat']
    omega
  split <;> exact ⟨_, _, rfl, by decide⟩

/-- Only a small number is written without a byte beyond ASCII at its start. -/
theorem write_cases (datum : Datum) :
    (∃ byte more, write datum = byte :: more ∧ 0x80 ≤ byte.toNat) ∨
      ∃ byte, write datum = [byte] := by
  match datum with
  | .null | .bool true | .bool false => exact .inr ⟨_, rfl⟩
  | .int value =>
      rw [write, writeInt]
      split
      · next negative => exact .inl (writeNegative_eq_cons negative)
      · exact writeNat_cases _
  | .float value => exact .inl ⟨_, _, rfl, by decide⟩
  | .text value => exact .inl (writeText_eq_cons value)
  | .list items =>
      obtain ⟨byte, more, head, high⟩ := writeListHead_eq_cons items.length
      rw [write, head]
      exact .inl ⟨byte, _, rfl, high⟩
  | .object entries =>
      obtain ⟨byte, more, head, high⟩ := writeMapHead_eq_cons entries.length
      rw [write, head]
      exact .inl ⟨byte, _, rfl, high⟩
  | .pairs entries =>
      obtain ⟨byte, more, head, high⟩ := writeMapHead_eq_cons entries.length
      rw [write, head]
      exact .inl ⟨byte, _, rfl, high⟩

end Starts

end MessagePack

namespace Json

/-- No shape is read from what has no head. -/
theorem exists_fault_of_readHead {bytes : Bytes} (stopped : ∃ fault, readHead bytes = .error fault)
    (shape : Shape) (depth : Nat) : ∃ fault, readShape shape depth bytes = .error fault := by
  match shape with
  | .optional content =>
      rw [readShape]
      split
      · exact exists_error_bind stopped _
      · exact exists_fault_of_readHead stopped content depth
  | .any =>
      rw [readShape]
      cases depth <;> exact exists_error_bind stopped _
  | .unit | .bool | .integer _ | .text | .list _ | .dictionary _ | .pair _ _ | .pairTable
  | .record _ _ =>
      rw [readShape]
      exact exists_error_bind stopped _

theorem exists_fault_of_number {shape : Shape} (refuses : shape.refusesNumbers) (depth : Nat)
    {bytes rest : Bytes} {number : Number} (read : readHead bytes = .ok (.number number, rest))
    (present : startsLikeNull (skipBlanks bytes) = false) :
    ∃ fault, readShape shape depth bytes = .error fault := by
  match shape with
  | .integer _ | .any => exact Bool.noConfusion refuses
  | .optional content =>
      rw [readShape, present, if_neg Bool.false_ne_true]
      exact exists_fault_of_number (show content.refusesNumbers from refuses) depth read present
  | .unit | .bool | .text | .list _ | .dictionary _ | .pair _ _ | .pairTable | .record _ _ =>
      rw [readShape, read]
      exact ⟨_, rfl⟩

/-- No value starts with a byte beyond ASCII. -/
theorem exists_fault_of_high {byte : UInt8} (high : 0x80 ≤ byte.toNat) (more : Bytes) :
    ∃ fault, readHead (byte :: more) = .error fault := by
  have other (small : UInt8) (low : small.toNat < 0x80) : byte ≠ small := by
    intro same
    rw [same] at high
    omega
  have solid : isBlank byte = false := by
    simp only [isBlank, other 0x20 (by decide), other 0x09 (by decide), other 0x0A (by decide),
      other 0x0D (by decide), decide_false, Bool.or_false]
  have notDigit : isDigit byte = false := by
    simp only [isDigit, UInt8.le_iff_toNat_le, UInt8.reduceToNat, Bool.and_eq_false_iff,
      decide_eq_false_iff_not]
    omega
  rw [readHead, skipBlanks_cons solid]
  simp only [other quote (by decide), other openObject (by decide), other openList (by decide),
    notDigit, Bool.false_eq_true, other minus (by decide), other letterN (by decide),
    other letterT (by decide), other letterF (by decide), if_false]
  exact ⟨_, rfl⟩

/-- A single byte is no head but for a bracket and a digit. -/
theorem readHead_single {byte : UInt8} (notObject : byte ≠ openObject) (notList : byte ≠ openList) :
    (∃ fault, readHead [byte] = .error fault) ∨
      (∃ number rest, readHead [byte] = .ok (.number number, rest)) ∧ isDigit byte = true := by
  cases solid : isBlank byte with
  | true =>
      have nothing : skipBlanks [byte] = [] := skipBlanks_of_areBlanks (by simpa [AreBlanks])
      exact .inl ⟨_, readHead_blank nothing⟩
  | false =>
      rw [readHead, skipBlanks_cons solid]
      by_cases isQuote : byte = quote
      · exact .inl ⟨_, by rw [isQuote]; rfl⟩
      by_cases digit : isDigit byte
      · simp only [if_neg isQuote, if_neg notObject, if_neg notList, if_pos digit]
        cases readNumber false [byte] with
        | error fault => exact .inl ⟨fault, rfl⟩
        | ok output => exact .inr ⟨⟨output.1, output.2, rfl⟩, digit⟩
      simp only [if_neg isQuote, if_neg notObject, if_neg notList, if_neg digit]
      refine .inl ?_
      split
      · exact ⟨_, rfl⟩
      split
      · exact ⟨_, rfl⟩
      split
      · exact ⟨_, rfl⟩
      split <;> exact ⟨_, rfl⟩

theorem exists_fault_of_single {shape : Shape} (refuses : shape.refusesNumbers) (byte : UInt8) :
    ∃ fault, readPayload shape [byte] = .error fault := by
  by_cases isObject : byte = openObject
  · have written : write (.object []) = .ok [openObject, closeObject] := rfl
    rw [isObject]
    exact exists_fault_of_cut (by decide) (by decide) (by decide) written ⟨[closeObject], rfl⟩
      (by decide) shape
  by_cases isList : byte = openList
  · have written : write (.list []) = .ok [openList, closeList] := rfl
    rw [isList]
    exact exists_fault_of_cut (by decide) (by decide) (by decide) written ⟨[closeList], rfl⟩
      (by decide) shape
  refine exists_error_bind ?_ _
  obtain stopped | ⟨⟨number, rest, read⟩, digit⟩ := readHead_single isObject isList
  · exact exists_fault_of_readHead stopped shape maximalDepth
  · have solid := (not_special_of_isDigit digit).1
    have present : startsLikeNull (skipBlanks [byte]) = false := by
      rw [skipBlanks_cons solid, startsLikeNull, decide_eq_false_iff_not]
      intro isLetter
      rw [isLetter] at digit
      exact absurd digit (by decide)
    exact exists_fault_of_number refuses maximalDepth read present

end Json

namespace Codec

/-- What one codec encoded is refused by the other, whatever it was encoded for. -/
theorem refused_of_other {target : Shape} (refuses : target.refusesNumbers) {codec other : Codec}
    (different : other ≠ codec) {datum : Datum} {payload : Bytes}
    (encoded : codec.encode datum = .ok payload) :
    ∃ reason, other.decode target payload = .error (.decode reason) := by
  cases codec with
  | json =>
      cases other with
      | json => exact absurd rfl different
      | messagePack =>
          obtain ⟨byte, more, rfl, starts⟩ := Json.write_eq_cons (encode_json_eq_ok.1 encoded)
          obtain ⟨fault, refused⟩ := MessagePack.exists_fault_of_ascii refuses starts.ascii more
          rw [decode, refused]
          exact ⟨_, rfl⟩
  | messagePack =>
      cases other with
      | messagePack => exact absurd rfl different
      | json =>
          have stopped : ∃ fault, Json.readPayload target payload = .error fault := by
            rw [encode, Except.ok.injEq] at encoded
            rw [← encoded]
            obtain ⟨byte, more, written, high⟩ | ⟨byte, written⟩ := MessagePack.write_cases datum
            · rw [written]
              exact exists_error_bind (Json.exists_fault_of_readHead
                (Json.exists_fault_of_high high more) target Json.maximalDepth) _
            · rw [written]
              exact Json.exists_fault_of_single refuses byte
          obtain ⟨fault, refused⟩ := stopped
          rw [decode, refused]
          exact ⟨_, rfl⟩

end Codec

end Switchboard
