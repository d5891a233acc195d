import Switchboard.Customers.Model
import Switchboard.Proofs.Codec

/-
This file shows that customers and lookups travel unchanged over every codec.
-/

namespace Switchboard.Customers

theorem holds_text (text : String) : Shape.text.holds (.text text) := rfl

theorem holds_optionalText (text : Option String) :
    (Shape.optional .text).holds (optionalText text) := by
  cases text with
  | none => rfl
  | some text => rfl

theorem holds_number (number : Int64) : (Shape.integer .i64).holds (.int number.toInt) := by
  have least := Int64.le_toInt number
  have greatest := Int64.toInt_lt number
  have inRange : IntegerType.i64.minimum ≤ number.toInt ∧
      number.toInt ≤ IntegerType.i64.maximum := by
    rw [IntegerType.minimum, IntegerType.maximum]
    omega
  rw [Shape.holds, IntegerType.holds, decide_eq_true inRange.1, decide_eq_true inRange.2]
  rfl

/-- An address has the shape of one. -/
theorem Address.holds_toDatum (address : Address) : Address.shape.holds address.toDatum := by
  apply Shape.holds_record.2
  refine ⟨_, rfl, Fields.hold_cons.2 ⟨_, _, rfl, holds_text address.line1, ?_⟩⟩
  refine Fields.hold_cons.2 ⟨_, _, rfl, holds_optionalText address.line2, ?_⟩
  refine Fields.hold_cons.2 ⟨_, _, rfl, holds_text address.city, ?_⟩
  refine Fields.hold_cons.2 ⟨_, _, rfl, holds_text address.state, ?_⟩
  exact Fields.hold_cons.2 ⟨_, _, rfl, holds_text address.zip, Fields.hold_nil.2 rfl⟩

/-- A customer has the shape of one. -/
theorem Customer.holds_toDatum (customer : Customer) : Customer.shape.holds customer.toDatum := by
  apply Shape.holds_record.2
  refine ⟨_, rfl, Fields.hold_cons.2 ⟨_, _, rfl, holds_number customer.id, ?_⟩⟩
  refine Fields.hold_cons.2 ⟨_, _, rfl, holds_text customer.firstName, ?_⟩
  refine Fields.hold_cons.2 ⟨_, _, rfl, holds_optionalText customer.middleName, ?_⟩
  refine Fields.hold_cons.2 ⟨_, _, rfl, holds_text customer.lastName, ?_⟩
  refine Fields.hold_cons.2 ⟨_, _, rfl, holds_text customer.email, ?_⟩
  exact Fields.hold_cons.2 ⟨_, _, rfl, Address.holds_toDatum customer.address,
    Fields.hold_nil.2 rfl⟩

theorem holds_lookupDatum (id : Int64) : lookupShape.holds (lookupDatum id) := by
  apply Shape.holds_record.2
  exact ⟨_, rfl, Fields.hold_cons.2 ⟨_, _, rfl, holds_number id, Fields.hold_nil.2 rfl⟩⟩

section Data

variable {datum : Datum}

theorem text_textOf (held : Shape.text.holds datum) : .text (textOf datum) = datum := by
  obtain ⟨text, rfl⟩ := Shape.holds_text.1 held
  rfl

theorem optionalText_optionalTextOf (held : (Shape.optional .text).holds datum) :
    optionalText (optionalTextOf datum) = datum := by
  obtain rfl | present := Shape.holds_optional.1 held
  · rfl
  · obtain ⟨text, rfl⟩ := Shape.holds_text.1 present
    rfl

theorem int_numberOf (held : (Shape.integer .i64).holds datum) :
    .int (numberOf datum).toInt = datum := by
  obtain ⟨value, rfl, inRange⟩ := Shape.holds_integer.1 held
  simp only [IntegerType.holds, Bool.and_eq_true, decide_eq_true_eq] at inRange
  have least : -9223372036854775808 ≤ value := inRange.1
  have greatest : value ≤ 9223372036854775807 := inRange.2
  rw [numberOf, Int64.toInt_ofInt_of_le (by omega) (by omega)]

/-- A datum with the shape of an address is the datum of that address. -/
theorem Address.toDatum_ofDatum (held : Address.shape.holds datum) :
    (Address.ofDatum datum).toDatum = datum := by
  obtain ⟨entries, rfl, held⟩ := Shape.holds_record.1 held
  obtain ⟨line1, entries, rfl, inLine1, held⟩ := Fields.hold_cons.1 held
  obtain ⟨line2, entries, rfl, inLine2, held⟩ := Fields.hold_cons.1 held
  obtain ⟨city, entries, rfl, inCity, held⟩ := Fields.hold_cons.1 held
  obtain ⟨state, entries, rfl, inState, held⟩ := Fields.hold_cons.1 held
  obtain ⟨zip, entries, rfl, inZip, held⟩ := Fields.hold_cons.1 held
  obtain rfl := Fields.hold_nil.1 held
  change Datum.object [("line1", .text (textOf line1)),
    ("line2", optionalText (optionalTextOf line2)), ("city", .text (textOf city)),
    ("state", .text (textOf state)), ("zip", .text (textOf zip))] = _
  rw [text_textOf inLine1, optionalText_optionalTextOf inLine2, text_textOf inCity,
    text_textOf inState, text_textOf inZip]

theorem Customer.toDatum_ofDatum (held : Customer.shape.holds datum) :
    (Customer.ofDatum datum).toDatum = datum := by
  obtain ⟨entries, rfl, held⟩ := Shape.holds_record.1 held
  obtain ⟨id, entries, rfl, inId, held⟩ := Fields.hold_cons.1 held
  obtain ⟨firstName, entries, rfl, inFirstName, held⟩ := Fields.hold_cons.1 held
  obtain ⟨middleName, entries, rfl, inMiddleName, held⟩ := Fields.hold_cons.1 held
  obtain ⟨lastName, entries, rfl, inLastName, held⟩ := Fields.hold_cons.1 held
  obtain ⟨email, entries, rfl, inEmail, held⟩ := Fields.hold_cons.1 held
  obtain ⟨address, entries, rfl, inAddress, held⟩ := Fields.hold_cons.1 held
  obtain rfl := Fields.hold_nil.1 held
  change Datum.object [("id", .int (numberOf id).toInt), ("firstName", .text (textOf firstName)),
    ("middleName", optionalText (optionalTextOf middleName)),
    ("lastName", .text (textOf lastName)), ("email", .text (textOf email)),
    ("address", (Address.ofDatum address).toDatum)] = _
  rw [int_numberOf inId, text_textOf inFirstName, optionalText_optionalTextOf inMiddleName,
    text_textOf inLastName, text_textOf inEmail, Address.toDatum_ofDatum inAddress]

end Data

section Payloads

variable (codec : Codec)

theorem exists_encode_null : ∃ payload, codec.encode .null = .ok payload := by
  cases codec <;> exact ⟨_, rfl⟩

theorem exists_encode_lookupDatum (id : Int64) :
    ∃ payload, codec.encode (lookupDatum id) = .ok payload := by
  cases codec <;> exact ⟨_, rfl⟩

/-- A customer can always be encoded, because all of its parts have names. -/
theorem exists_encode_toDatum (customer : Customer) :
    ∃ payload, codec.encode customer.toDatum = .ok payload := by
  obtain ⟨id, firstName, middleName, lastName, email, ⟨line1, line2, city, state, zip⟩⟩ := customer
  cases codec with
  | json => cases middleName <;> cases line2 <;> exact ⟨_, rfl⟩
  | messagePack => exact ⟨_, rfl⟩

variable {codec} {payload : Bytes}

theorem decode_toDatum {customer : Customer} (short : customer.toDatum.isShort)
    (encoded : codec.encode customer.toDatum = .ok payload) :
    codec.decode Customer.shape payload = .ok customer.toDatum :=
  Codec.decode_of_encode (by decide) (by decide) (by decide) customer.holds_toDatum short encoded

theorem isShort_lookupDatum (id : Int64) : (lookupDatum id).isShort := by
  have name : Datum.isShortText "id" := by decide
  simp only [lookupDatum, Datum.isShort, Datum.entriesShort, name, Bool.and_true]
  rfl

theorem decode_lookupDatum {id : Int64} (encoded : codec.encode (lookupDatum id) = .ok payload) :
    codec.decode lookupShape payload = .ok (lookupDatum id) :=
  Codec.decode_of_encode (by decide) (by decide) (by decide) (holds_lookupDatum id)
    (isShort_lookupDatum id) encoded

end Payloads

end Switchboard.Customers
