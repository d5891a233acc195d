import Switchboard.Url.Percent

/-
This file resolves the segments of a path that point to where they stand or one level up.
-/

namespace Switchboard.Url

/-- A slash of either kind ends one segment and starts the next. -/
def splitSegments : List Char → List (List Char)
  | [] => [[]]
  | character :: rest =>
    if character = '/' ∨ character = '\\' then [] :: splitSegments rest
    else
      match splitSegments rest with
      | [] => [[character]]
      | segment :: segments => (character :: segment) :: segments

/-- A dot may be percent-encoded. -/
def dots : List Char → Option Nat
  | [] => some 0
  | '.' :: rest => (dots rest).map (· + 1)
  | '%' :: '2' :: 'e' :: rest => (dots rest).map (· + 1)
  | '%' :: '2' :: 'E' :: rest => (dots rest).map (· + 1)
  | _ => none

/-- A letter with a colon or a bar names a drive, which no path leaves. -/
def isDrive : List Char → Bool
  | [letter, mark] => letter.isAlpha && (mark = ':' || mark = '|')
  | _ => false

/-- The segments so far come with the last one first. -/
def climb : List (List Char) → List (List Char)
  | [] => []
  | last :: rest => if isDrive last then last :: rest else rest

def resolveSegments : List (List Char) → List (List Char) → List (List Char)
  | held, [] => held
  | held, segment :: rest =>
    match dots segment with
    | some 1 => resolveSegments held rest
    | some 2 => resolveSegments (climb held) rest
    | _ => resolveSegments (segment :: held) rest

/-- A path starts with a slash or is empty, and its segments have no empty ones at the end. -/
def baseSegments (path : List Char) : List (List Char) :=
  let segments := (splitSegments (path.drop 1)).map fun segment => segment.flatMap encodeInPath
  ((resolveSegments [] segments).dropWhile (· = [])).reverse

end Switchboard.Url
