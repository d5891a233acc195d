import Switchboard.MessagePack.Head

/-
This file skips MessagePack values that no reader asks for. Texts may hold any bytes.
-/

namespace Switchboard.MessagePack

/-- The same reader is run a number of times. -/
def skipTimes (skip : Reader Unit) : Nat → Reader Unit
  | 0, bytes => .ok ((), bytes)
  | count + 1, bytes => do
    let (_, rest) ← skip bytes
    skipTimes skip count rest

/-- An extension has a tag of one byte before its content. -/
def skipExtension (length : Nat) : Reader Unit := fun bytes => do
  let (_, rest) ← readExactly .noNumber 1 bytes
  let (_, rest) ← readContent length rest
  return ((), rest)

/-- Skipped containers count towards the depth like all others. -/
def skipValue : Nat → Reader Unit
  | 0, bytes => do
    let (head, rest) ← readHead bytes
    match head with
    | .text length | .bytes length => do
      let (_, rest) ← readContent length rest
      return ((), rest)
    | .list _ | .map _ | .extension _ => .error .tooDeep
    | _ => return ((), rest)
  | depth + 1, bytes => do
    let (head, rest) ← readHead bytes
    match head with
    | .text length | .bytes length => do
      let (_, rest) ← readContent length rest
      return ((), rest)
    | .list length => skipTimes (skipValue depth) length rest
    | .map length => skipTimes (skipValue depth) (2 * length) rest
    | .extension length => skipExtension length rest
    | _ => return ((), rest)

end Switchboard.MessagePack
