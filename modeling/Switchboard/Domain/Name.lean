import Switchboard.Domain.Direction
import Switchboard.Domain.Joiner
import Switchboard.Domain.Mapping
import Switchboard.Domain.Mark
import Switchboard.Domain.Punycode

/-
This file brings a domain name into the one form that stands for all its spellings.
-/

namespace Switchboard.Domain

/-- The parts stand between the separators, which may touch or stand at an end. -/
def splitAt (separator : Char) : List Char → List (List Char)
  | [] => [[]]
  | character :: rest =>
    if character = separator then [] :: splitAt separator rest
    else
      match splitAt separator rest with
      | [] => [[character]]
      | part :: parts => (character :: part) :: parts

/-- These characters have a meaning in addresses or are invisible. -/
def isForbidden (character : Char) : Bool :=
  character.toNat ≤ 0x20 || character.toNat = 0x7F ||
    ['#', '%', '/', ':', '<', '>', '?', '@', '[', '\\', ']', '^', '|'].contains character

/-- The mapped form of a text is composed. -/
def normalize (characters : List Char) : Option (List Char) :=
  (mapChars characters).map compose

/-- A label in letters of any script has at most this many characters. -/
def maximalLabelLength : Nat := 1000

/-- The ASCII form of a label is read back up to this many characters after its four first ones. -/
def maximalExtensionLength : Nat := 2000

/-- A label in letters of any script is bounded, starts with no mark and keeps its joiners apart. -/
def isLabel (label : List Char) : Bool :=
  label.length ≤ maximalLabelLength && !(label.head?.any isMark) && areJoinersInPlace [] label

/-- A label is read back only from the ASCII form of a label that is normal and needs one. -/
def readExtension (extension : List Char) : Option (List Char) :=
  if extension.all Punycode.isBasic && extension.length ≤ maximalExtensionLength then
    match Punycode.decode extension with
    | none => none
    | some label =>
      if !(label.all Punycode.isBasic) && normalize label = some label && isLabel label then
        some label
      else none
  else none

/-- Four characters announce the ASCII form of a label in letters of another script. -/
def label? (written : List Char) : Option (List Char) :=
  match written with
  | 'x' :: 'n' :: '-' :: '-' :: extension => readExtension extension
  | label => if label.all Punycode.isBasic || isLabel label then some label else none

def writeLabel (label : List Char) : List Char :=
  if label.all Punycode.isBasic then label else "xn--".toList ++ Punycode.encode label

/-- The labels of a name are in order when the name runs in one direction or each label does. -/
def areOrdered (labels : List (List Char)) : Bool :=
  !(labels.any isBidirectional) || labels.all isOrdered

/-- A name that has no ASCII form names no host. -/
def toAscii (name : List Char) : Option (List Char) := do
  let normal ← normalize name
  let labels ← (splitAt '.' normal).mapM label?
  let written := ['.'].intercalate (labels.map writeLabel)
  if areOrdered labels && !(written.any isForbidden) then some written else none

end Switchboard.Domain
