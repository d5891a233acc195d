import Switchboard.Json.Number
import Switchboard.Json.Text

/-
This file reads the start of a JSON value, which tells its kind.
-/

namespace Switchboard.Json

/-- A head is a whole scalar, or it says that a bracket comes next. -/
inductive Head where
  | null
  | bool (value : Bool)
  | number (value : Number)
  | text (value : String)
  | openList
  | openObject
  deriving DecidableEq, Repr

/-- The bytes of a literal follow each other; the first wrong one is eaten. -/
def readLiteral : Bytes → Reader Unit
  | [], bytes => .ok ((), bytes)
  | _ :: _, [] => .error (faultAt .endInValue [])
  | expected :: more, byte :: rest =>
    if byte = expected then readLiteral more rest
    else .error (faultAt .expectedLiteral rest)

/-- Blanks before the head are skipped, and a bracket is left unread. -/
def readHead : Reader Head := fun bytes =>
  match skipBlanks bytes with
  | [] => .error (faultAt .endInValue [])
  | byte :: rest =>
    if byte = quote then do
      let (text, rest) ← readText rest
      return (.text text, rest)
    else if byte = Json.openObject then .ok (.openObject, byte :: rest)
    else if byte = Json.openList then .ok (.openList, byte :: rest)
    else if isDigit byte then do
      let (number, rest) ← readNumber false (byte :: rest)
      return (.number number, rest)
    else if byte = minus then do
      let (number, rest) ← readNumber true rest
      return (.number number, rest)
    else if byte = letterN then do
      let (_, rest) ← readLiteral nullLiteral.tail rest
      return (.null, rest)
    else if byte = letterT then do
      let (_, rest) ← readLiteral trueLiteral.tail rest
      return (.bool true, rest)
    else if byte = letterF then do
      let (_, rest) ← readLiteral falseLiteral.tail rest
      return (.bool false, rest)
    else .error (faultPast .expectedValue (byte :: rest))

def Head.found : Head → Found
  | .null => .null
  | .bool value => .bool value
  | .number (.integer value) => .integer value
  | .number (.float value) => .float value
  | .text value => .text value
  | .openList => .sequence
  | .openObject => .map

end Switchboard.Json
