import Switchboard.Customers.Model
import Switchboard.Proofs.Shape

/-
This file lists the shapes that payloads are checked with, and shows what they have in common.
-/

namespace Switchboard.Catalogue

def testMessage : Shape :=
  .record "TestMessage" (.cons "id" false (.integer .u32) <|
    .cons "data" false .text <|
    .cons "note" false (.optional .text) .nil)

def record : Shape :=
  .record "Record" (.cons "id" false (.integer .i64) <|
    .cons "firstName" false .text <|
    .cons "middleName" false (.optional .text) <|
    .cons "tags" false (.list .text) <|
    .cons "scores" false (.dictionary (.integer .i32)) <|
    .cons "active" false .bool .nil)

def summary : Shape :=
  .record "Summary" (.cons "firstName" false .text <| .cons "id" false (.integer .i64) .nil)

def point : Shape :=
  .record "Point" (.cons "x" false (.integer .i32) <| .cons "y" false (.integer .i32) .nil)

def greet : Shape := .record "Greet" (.cons "name" false .text .nil)

def greeting : Shape := .record "Greeting" (.cons "text" false .text .nil)

/-- The last shape accepts every value, and the others say what they hold. -/
def shapes : List Shape :=
  [Customers.Customer.shape, Customers.Address.shape, Customers.lookupShape, testMessage, record,
    summary, point, greet, greeting, .integer .u8, .integer .i8, .integer .u32, .integer .i32,
    .integer .u64, .integer .i64, .bool, .text, .unit, .optional .text, .list (.integer .u32),
    .list .text, .dictionary (.integer .i32), .pair (.integer .i32) (.integer .i32), .pairTable,
    .any]

/-- No shape of the catalogue names two fields of a record alike. -/
theorem isRegular_of_mem {shape : Shape} (member : shape ∈ shapes) : shape.isRegular := by
  have all : ∀ shape ∈ shapes, shape.isRegular = true := by decide
  exact all shape member

theorem hasNullDefaults_of_mem {shape : Shape} (member : shape ∈ shapes) :
    shape.hasNullDefaults := by
  have all : ∀ shape ∈ shapes, shape.hasNullDefaults = true := by decide
  exact all shape member

/-- All but one of the shapes bound the depth of what they hold. -/
theorem isClosed_of_mem {shape : Shape} (member : shape ∈ shapes) (notAny : shape ≠ .any) :
    shape.isClosed ∧ shape.depth ≤ 2 := by
  have all : ∀ shape ∈ shapes, shape ≠ .any → shape.isClosed = true ∧ shape.depth ≤ 2 := by decide
  exact all shape member notAny

theorem fields_of_mem {name : String} {fields : Fields}
    (member : Shape.record name fields ∈ shapes) :
    fields.names.Nodup ∧ fields.areRegular ∧ fields.areClosed ∧ fields.depth ≤ 1 := by
  have regular := isRegular_of_mem member
  rw [Shape.isRegular, Bool.and_eq_true, decide_eq_true_eq] at regular
  obtain ⟨closed, shallow⟩ := isClosed_of_mem member nofun
  exact ⟨regular.1, regular.2, closed, Nat.le_of_succ_le_succ shallow⟩

theorem integer_mem_shapes (type : IntegerType) : Shape.integer type ∈ shapes := by
  cases type <;> decide

end Switchboard.Catalogue
