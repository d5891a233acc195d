import Switchboard.Shape

/-
This file describes customers and how payloads hold them.
-/

namespace Switchboard.Customers

structure Address where
  line1 : String
  line2 : Option String
  city : String
  state : String
  zip : String
  deriving DecidableEq, Repr

structure Customer where
  id : Int64
  firstName : String
  middleName : Option String
  lastName : String
  email : String
  address : Address
  deriving DecidableEq, Repr

/-- The fields that may be missing are also optional. -/
def Address.shape : Shape :=
  .record "Address"
    (.cons "line1" false .text
      (.cons "line2" true (.optional .text)
        (.cons "city" false .text
          (.cons "state" false .text
            (.cons "zip" false .text .nil)))))

def Customer.shape : Shape :=
  .record "Customer"
    (.cons "id" false (.integer .i64)
      (.cons "firstName" false .text
        (.cons "middleName" true (.optional .text)
          (.cons "lastName" false .text
            (.cons "email" false .text
              (.cons "address" false Address.shape .nil))))))

/-- The lookups take the number of a customer in a record of its own. -/
def lookupShape : Shape := .record "GetCustomerArgs" (.cons "id" false (.integer .i64) .nil)

def optionalText : Option String → Datum
  | none => .null
  | some text => .text text

def Address.toDatum (address : Address) : Datum :=
  .object [("line1", .text address.line1), ("line2", optionalText address.line2),
    ("city", .text address.city), ("state", .text address.state), ("zip", .text address.zip)]

def Customer.toDatum (customer : Customer) : Datum :=
  .object [("id", .int customer.id.toInt), ("firstName", .text customer.firstName),
    ("middleName", optionalText customer.middleName), ("lastName", .text customer.lastName),
    ("email", .text customer.email), ("address", customer.address.toDatum)]

def lookupDatum (id : Int64) : Datum := .object [("id", .int id.toInt)]

/-- A datum that is no record has no entries. -/
def entry (datum : Datum) (name : String) : Datum :=
  match datum with
  | .object entries => (entries.lookup name).getD .null
  | _ => .null

def textOf : Datum → String
  | .text text => text
  | _ => ""

def optionalTextOf : Datum → Option String
  | .text text => some text
  | _ => none

def numberOf : Datum → Int64
  | .int value => Int64.ofInt value
  | _ => 0

/-- A datum of the shape of an address is one. -/
def Address.ofDatum (datum : Datum) : Address :=
  { line1 := textOf (entry datum "line1")
    line2 := optionalTextOf (entry datum "line2")
    city := textOf (entry datum "city")
    state := textOf (entry datum "state")
    zip := textOf (entry datum "zip") }

/-- A datum of the shape of a customer is one. -/
def Customer.ofDatum (datum : Datum) : Customer :=
  { id := numberOf (entry datum "id")
    firstName := textOf (entry datum "firstName")
    middleName := optionalTextOf (entry datum "middleName")
    lastName := textOf (entry datum "lastName")
    email := textOf (entry datum "email")
    address := Address.ofDatum (entry datum "address") }

def lookupOfDatum (datum : Datum) : Int64 := numberOf (entry datum "id")

theorem optionalTextOf_optionalText (text : Option String) :
    optionalTextOf (optionalText text) = text := by
  cases text <;> rfl

theorem Address.ofDatum_toDatum (address : Address) : ofDatum address.toDatum = address := by
  obtain ⟨line1, line2, city, state, zip⟩ := address
  change Address.mk line1 (optionalTextOf (optionalText line2)) city state zip = _
  rw [optionalTextOf_optionalText]

theorem Customer.ofDatum_toDatum (customer : Customer) : ofDatum customer.toDatum = customer := by
  obtain ⟨id, firstName, middleName, lastName, email, address⟩ := customer
  change Customer.mk (Int64.ofInt id.toInt) firstName (optionalTextOf (optionalText middleName))
    lastName email (Address.ofDatum address.toDatum) = _
  rw [optionalTextOf_optionalText, Address.ofDatum_toDatum, Int64.ofInt_toInt]

theorem lookupOfDatum_lookupDatum (id : Int64) : lookupOfDatum (lookupDatum id) = id := by
  change Int64.ofInt id.toInt = id
  rw [Int64.ofInt_toInt]

end Switchboard.Customers
