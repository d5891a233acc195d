import Switchboard.Json.Head

/-
This file skips JSON values that no reader asks for. Skipping checks less than reading: texts may
hold any bytes and any escapes of the right form, and values may nest to any depth.
-/

namespace Switchboard.Json

def skipNumericEscape : Reader Unit := fun bytes => do
  let (_, rest) ← readFourHex bytes
  return ((), rest)

def skipEscape : Reader Unit
  | [] => .error (faultAt .endInText [])
  | byte :: rest =>
    match simpleEscape? byte with
    | some _ => .ok ((), rest)
    | none =>
      if byte = letterU then skipNumericEscape rest
      else .error (faultAt .invalidEscape rest)

/-- A control character in a skipped text is left unread. -/
def skipContent : Bytes → Reader Unit
  | _, [] => .error (faultAt .endInText [])
  | [], _ :: _ => .error (faultAt .endInText [])
  | _ :: bound, byte :: rest =>
    if byte = quote then .ok ((), rest)
    else if byte = backslash then do
      let (_, rest) ← skipEscape rest
      skipContent bound rest
    else if byte < 0x20 then .error (faultAt .controlCharacter (byte :: rest))
    else skipContent bound rest

/-- This reader starts after the opening quote. -/
def skipText : Reader Unit := fun bytes => skipContent bytes bytes

def skipWhole : Reader Unit
  | [] => .error (faultAt .invalidNumber [])
  | first :: rest =>
    if isDigit first = false then .error (faultAt .invalidNumber rest)
    else if first = zero && startsWithDigit rest then .error (faultPast .invalidNumber rest)
    else .ok ((), rest.dropWhile isDigit)

def skipFraction : Reader Unit
  | [] => .ok ((), [])
  | byte :: rest =>
    if byte ≠ point then .ok ((), byte :: rest)
    else if startsWithDigit rest then .ok ((), rest.dropWhile isDigit)
    else .error (faultPast .invalidNumber rest)

def skipExponent : Reader Unit
  | [] => .ok ((), [])
  | byte :: rest =>
    if byte = letterE || byte = 0x45 then
      match (readExponentSign rest).2 with
      | [] => .error (faultAt .invalidNumber [])
      | digit :: rest =>
        if isDigit digit then .ok ((), rest.dropWhile isDigit)
        else .error (faultAt .invalidNumber rest)
    else .ok ((), byte :: rest)

/-- This reader starts after the sign of the number. -/
def skipNumber : Reader Unit := fun bytes => do
  let (_, rest) ← skipWhole bytes
  let (_, rest) ← skipFraction rest
  skipExponent rest

/-- A frame is a bracket that was opened and not yet closed. -/
inductive Frame where
  | list
  | object
  deriving DecidableEq, Repr

namespace Frame

def close : Frame → UInt8
  | .list => closeList
  | .object => closeObject

def atEnd : Frame → Cause
  | .list => .endInList
  | .object => .endInObject

def atSeparator : Frame → Cause
  | .list => .expectedListSeparator
  | .object => .expectedObjectSeparator

/-- An item of a list starts with its value and an entry of an object with its key. -/
def skipToValue : Frame → Reader Unit
  | .list, bytes => .ok ((), bytes)
  | .object, bytes =>
    match skipBlanks bytes with
    | [] => .error (faultAt .endInObject [])
    | byte :: rest =>
      if byte ≠ quote then .error (faultPast .keyNotText (byte :: rest))
      else do
        let (_, rest) ← skipText rest
        match skipBlanks rest with
        | [] => .error (faultAt .endInObject [])
        | byte :: rest =>
          if byte = colon then return ((), rest)
          else .error (faultPast .expectedColon (byte :: rest))

end Frame

/--
After a value, brackets close until a comma announces the next value. The frames that stay open are
returned; none are left when the skipped value is complete.
-/
def skipAfterValue : List Frame → Reader (List Frame)
  | [], bytes => .ok ([], bytes)
  | frame :: outer, bytes =>
    match skipBlanks bytes with
    | [] => .error (faultAt frame.atEnd [])
    | byte :: rest =>
      if byte = comma then do
        let (_, rest) ← frame.skipToValue rest
        return (frame :: outer, rest)
      else if byte = frame.close then skipAfterValue outer rest
      else .error (faultPast frame.atSeparator (byte :: rest))

/-- An opened bracket may close at once. -/
def skipOpened (frame : Frame) (outer : List Frame) : Reader (List Frame) := fun bytes =>
  match skipBlanks bytes with
  | [] => .error (faultAt frame.atEnd [])
  | byte :: rest =>
    if byte = frame.close then skipAfterValue outer rest
    else do
      let (_, rest) ← frame.skipToValue (byte :: rest)
      return (frame :: outer, rest)

/-- One step skips a scalar, or it enters a bracket. -/
def skipStep (frames : List Frame) : Reader (List Frame) := fun bytes =>
  match skipBlanks bytes with
  | [] => .error (faultAt .endInValue [])
  | byte :: rest =>
    if byte = quote then do
      let (_, rest) ← skipText rest
      skipAfterValue frames rest
    else if byte = openObject then skipOpened .object frames rest
    else if byte = openList then skipOpened .list frames rest
    else if isDigit byte then do
      let (_, rest) ← skipNumber (byte :: rest)
      skipAfterValue frames rest
    else if byte = minus then do
      let (_, rest) ← skipNumber rest
      skipAfterValue frames rest
    else if byte = letterN then do
      let (_, rest) ← readLiteral nullLiteral.tail rest
      skipAfterValue frames rest
    else if byte = letterT then do
      let (_, rest) ← readLiteral trueLiteral.tail rest
      skipAfterValue frames rest
    else if byte = letterF then do
      let (_, rest) ← readLiteral falseLiteral.tail rest
      skipAfterValue frames rest
    else .error (faultPast .expectedValue (byte :: rest))

/-- Every step eats at least one byte, so the bytes themselves bound the steps. -/
def skipSteps : Bytes → List Frame → Reader Unit
  | [], _, bytes => .error (faultAt .endInValue bytes)
  | _ :: bound, frames, bytes => do
    let (remaining, rest) ← skipStep frames bytes
    match remaining with
    | [] => return ((), rest)
    | frame :: outer => skipSteps bound (frame :: outer) rest

def skipValue : Reader Unit := fun bytes => skipSteps bytes [] bytes

end Switchboard.Json
