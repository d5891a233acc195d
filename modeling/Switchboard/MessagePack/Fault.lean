import Switchboard.Mismatch
import Switchboard.MessagePack.Marker
import Switchboard.Text.Utf8

/-
This file says why reading a MessagePack payload stops.
-/

namespace Switchboard.MessagePack

/-- Bytes can be missing for a marker, for a number or length, or for a content. -/
inductive Fault where
  | noMarker
  | noNumber
  | noContent
  | wrongMarker (marker : Marker)
  | wrongEncoding (fault : Text.Utf8.Fault)
  | itemsLeft (taken : Nat)
  | tooDeep
  | mismatch (cause : Mismatch)
  deriving DecidableEq, Repr

/-- MessagePack names the absent value after its type and writes numbers without exponents. -/
def wording : Wording := ⟨"unit value", .plain⟩

def Fault.message : Fault → String
  | .noMarker => "IO error while reading marker: failed to fill whole buffer"
  | .noNumber => "IO error while reading data: failed to fill whole buffer"
  | .noContent => "IO error while reading data: unexpected end of file"
  | .wrongMarker marker => s!"wrong msgpack marker {marker.name}"
  | .wrongEncoding fault => s!"string found to be invalid utf8: {fault.message}"
  | .itemsLeft taken => s!"array had incorrect length, expected {taken}"
  | .tooDeep => "depth limit exceeded"
  | .mismatch cause => cause.message wording

/-- A reader takes a value off the front of the bytes, or it stops with a fault. -/
abbrev Reader (α : Type) : Type := Bytes → Except Fault (α × Bytes)

end Switchboard.MessagePack
