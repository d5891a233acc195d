import Switchboard.Json.Fault
import Switchboard.Text.Utf8

/-
This file reads the texts of a JSON payload.
-/

namespace Switchboard.Json

/-- Four hexadecimal digits make one unit of an escaped character. -/
def readFourHex : Reader Nat
  | first :: second :: third :: fourth :: rest =>
    match hexValue? first, hexValue? second, hexValue? third, hexValue? fourth with
    | some one, some two, some three, some four =>
      .ok (((one * 16 + two) * 16 + three) * 16 + four, rest)
    | _, _, _, _ => .error (faultAt .invalidEscape rest)
  | _ => .error (faultAt .endInText [])

def isLeadingSurrogate (unit : Nat) : Bool := 0xD800 ≤ unit && unit ≤ 0xDBFF

def isTrailingSurrogate (unit : Nat) : Bool := 0xDC00 ≤ unit && unit ≤ 0xDFFF

/-- A leading surrogate is completed by an escaped trailing one that follows at once. -/
def readTrailingSurrogate : Reader Nat
  | [] => .error (faultAt .endInText [])
  | first :: rest =>
    if first ≠ backslash then .error (faultAt .incompleteSurrogatePair rest)
    else
      match rest with
      | [] => .error (faultAt .endInText [])
      | second :: rest =>
        if second ≠ letterU then .error (faultAt .incompleteSurrogatePair rest)
        else
          match readFourHex rest with
          | .error fault => .error fault
          | .ok (unit, rest) =>
            if isTrailingSurrogate unit then .ok (unit, rest)
            else .error (faultAt .loneSurrogate rest)

def surrogatePair (leading trailing : Nat) : Nat :=
  (leading - 0xD800) * 0x400 + (trailing - 0xDC00) + 0x10000

/-- A numeric escape stands for one character, or it is half of a surrogate pair. -/
def readNumericEscape : Reader Bytes := fun bytes => do
  let (unit, rest) ← readFourHex bytes
  if isTrailingSurrogate unit then .error (faultAt .loneSurrogate rest)
  else if isLeadingSurrogate unit then
    let (trailing, rest) ← readTrailingSurrogate rest
    return (Text.Utf8.encodeChar (Char.ofNat (surrogatePair unit trailing)), rest)
  else return (Text.Utf8.encodeChar (Char.ofNat unit), rest)

/-- The byte after a backslash is quoted as it is or names a control character. -/
def simpleEscape? (byte : UInt8) : Option UInt8 :=
  if byte = quote then some quote
  else if byte = backslash then some backslash
  else if byte = slash then some slash
  else if byte = letterB then some 0x08
  else if byte = letterF then some 0x0C
  else if byte = letterN then some 0x0A
  else if byte = letterR then some 0x0D
  else if byte = letterT then some 0x09
  else none

/-- This reader starts after the backslash. -/
def readEscape : Reader Bytes
  | [] => .error (faultAt .endInText [])
  | byte :: rest =>
    match simpleEscape? byte with
    | some value => .ok ([value], rest)
    | none =>
      if byte = letterU then readNumericEscape rest
      else .error (faultAt .invalidEscape rest)

/--
The content runs to the closing quote. The bound has at least one element for each character; the
bytes themselves always have.
-/
def readContent : Bytes → Reader Bytes
  | _, [] => .error (faultAt .endInText [])
  | [], _ :: _ => .error (faultAt .endInText [])
  | _ :: bound, byte :: rest =>
    if byte = quote then .ok ([], rest)
    else if byte = backslash then do
      let (unit, rest) ← readEscape rest
      let (more, rest) ← readContent bound rest
      return (unit ++ more, rest)
    else if byte < 0x20 then .error (faultAt .controlCharacter rest)
    else do
      let (more, rest) ← readContent bound rest
      return (byte :: more, rest)

/-- This reader starts after the opening quote. A wrong encoding is reported inside the text. -/
def readText : Reader String := fun bytes => do
  let (content, rest) ← readContent bytes bytes
  match Text.Utf8.decode content with
  | .ok text => return (text, rest)
  | .error fault => .error ⟨.invalidEncoding, rest.length + (content.length - fault.index)⟩

end Switchboard.Json
