import Switchboard.Error
import Switchboard.Text.Quoted
import Switchboard.Url.Host
import Switchboard.Url.Path

/-
This file reads the base address that the paths of operations are appended to.
-/

namespace Switchboard

/-- A base address has no user information, no query and no fragment, and its port is explicit. -/
structure BaseUrl where
  host : Url.Host
  port : UInt16
  segments : List (List Char)
  deriving DecidableEq, Repr

/-- Each fault keeps the text that was meant as a base address. -/
inductive BaseUrlFault where
  | missing
  | malformed (raw : String) (fault : Url.Fault)
  | secure (raw : String)
  | unsupportedScheme (raw scheme : String)
  deriving DecidableEq, Repr

def BaseUrlFault.message : BaseUrlFault → String
  | .missing => "base URL not set"
  | .malformed raw fault => s!"invalid base URL {Text.quoted raw}: {fault.message}"
  | .secure raw =>
    s!"base URL {Text.quoted raw} uses https, which this build does not support"
  | .unsupportedScheme raw scheme =>
    s!"base URL {Text.quoted raw} has unsupported scheme {Text.quoted scheme}"

def BaseUrlFault.toError (fault : BaseUrlFault) : Error := .configuration fault.message

namespace BaseUrl

def authority (base : BaseUrl) : List Char :=
  base.host.text ++ ':' :: Nat.toDigits 10 base.port.toNat

def path (base : BaseUrl) : List Char := base.segments.flatMap fun segment => '/' :: segment

def text (base : BaseUrl) : String :=
  String.ofList ("http://".toList ++ base.authority ++ base.path)

/-- Blanks and controls around an address and line breaks and tabs within it do not count. -/
def trim (raw : List Char) : List Char :=
  let isOuter := fun character : Char => decide (character.toNat ≤ 0x20)
  let inner := ((raw.dropWhile isOuter).reverse.dropWhile isOuter).reverse
  inner.filter fun character => character ≠ '\t' ∧ character ≠ '\n' ∧ character ≠ '\r'

def isSchemeChar (character : Char) : Bool :=
  character.isAlphanum || character = '+' || character = '-' || character = '.'

/-- A scheme starts with a letter, ends before a colon and is the same in both cases. -/
def readScheme (text : List Char) : Option (List Char × List Char) :=
  let scheme := text.takeWhile isSchemeChar
  match text.dropWhile isSchemeChar with
  | ':' :: rest =>
    if scheme.head?.any Char.isAlpha then some (scheme.map Char.toLower, rest) else none
  | _ => none

/-- This function splits the user information off an authority at the last at sign. -/
def splitUser : List Char → Option (List Char × List Char)
  | [] => none
  | character :: rest =>
    match splitUser rest with
    | some (before, after) => some (character :: before, after)
    | none => if character = '@' then some ([], rest) else none

def withoutUser (authority : List Char) : List Char :=
  match splitUser authority with
  | some (_, rest) => rest
  | none => authority

/-- A colon between brackets does not end a host. -/
def splitHost : Bool → List Char → List Char × List Char
  | _, [] => ([], [])
  | inside, character :: rest =>
    if character = ':' ∧ inside = false then ([], character :: rest)
    else
      let inside := if character = '[' then true else if character = ']' then false else inside
      let (host, after) := splitHost inside rest
      (character :: host, after)

/-- The number of a port is at most 65535, and no digits leave the port open. -/
def readPort (digits : List Char) : Except Url.Fault (Option UInt16) :=
  if digits = [] then .ok none
  else if digits.all Char.isDigit then
    match Url.Ipv4.numberIn? 10 digits with
    | some number =>
      if number < 65536 then .ok (some (UInt16.ofNat number)) else .error .invalidPort
    | none => .error .invalidPort
  else .error .invalidPort

/-- The port of an authority follows a colon. -/
def readPortPart : List Char → Except Url.Fault (Option UInt16)
  | ':' :: digits => readPort digits
  | _ => .ok none

def endsWebAuthority (character : Char) : Bool :=
  character = '/' || character = '\\' || character = '?' || character = '#'

def endsPath (character : Char) : Bool := character = '?' || character = '#'

/-- A web address may have any number of slashes of either kind before its authority. -/
def readWeb (afterScheme : List Char) : Except Url.Fault BaseUrl :=
  let rest := afterScheme.dropWhile fun character => character = '/' ∨ character = '\\'
  let (host, afterHost) :=
    splitHost false (withoutUser (rest.takeWhile fun character => !endsWebAuthority character))
  if host = [] then .error .emptyHost
  else do
    let host ← Url.Host.read host
    let port ← readPortPart afterHost
    let path := (rest.dropWhile fun character => !endsWebAuthority character).takeWhile
      fun character => !endsPath character
    return ⟨host, port.getD 80, Url.baseSegments path⟩

def endsAuthority (character : Char) : Bool :=
  character = '/' || character = '?' || character = '#'

/-- User information of these two forms is dropped without a trace. -/
def isNoUser (user : List Char) : Bool := user = [] || user = [':']

/-- An address of another scheme can only be wrong in an authority. -/
def checkOther (afterScheme : List Char) : Except Url.Fault Unit :=
  match afterScheme with
  | '/' :: '/' :: rest =>
    let authority := rest.takeWhile fun character => !endsAuthority character
    let (host, afterHost) := splitHost false (withoutUser authority)
    let user := ((splitUser authority).map Prod.fst).getD []
    if (splitUser authority = some ([], []) ∧ rest.any endsAuthority) then .error .emptyHost
    else do
      Url.Host.checkOpaque host
      if host = [] ∧ afterHost ≠ [] then .error .emptyHost
      else do
        let _ ← readPortPart (afterHost.takeWhile (· ≠ '\\'))
        if host = [] ∧ !isNoUser user then .error .emptyHost else .ok ()
  | _ => .ok ()

/-- A file address has a host after two slashes, unless a drive stands there. -/
def checkFile (afterScheme : List Char) : Except Url.Fault Unit :=
  let isSlash := fun character : Char => character = '/' || character = '\\'
  match afterScheme with
  | first :: second :: rest =>
    if isSlash first && isSlash second then
      let host := rest.takeWhile fun character => !endsWebAuthority character
      if host = [] || Url.isDrive host then .ok ()
      else
        match Url.Host.read host with
        | .ok _ => .ok ()
        | .error fault => .error fault
    else .ok ()
  | _ => .ok ()

/-- These schemes write their authorities like `http` does. -/
def isWebScheme (scheme : List Char) : Bool :=
  ["http", "https", "ws", "wss", "ftp"].contains (String.ofList scheme)

/-- A text that is no address at all is refused before its scheme is looked at. -/
def check (scheme afterScheme : List Char) : Except Url.Fault Unit :=
  if isWebScheme scheme then (readWeb afterScheme).map fun _ => ()
  else if scheme = "file".toList then checkFile afterScheme
  else checkOther afterScheme

/-- Only plain `http` addresses become base addresses. -/
def resolve (raw : String) : Except BaseUrlFault BaseUrl :=
  match readScheme (trim raw.toList) with
  | none => .error (.malformed raw .relative)
  | some (scheme, rest) =>
    if scheme = "http".toList then
      match readWeb rest with
      | .ok base => .ok base
      | .error fault => .error (.malformed raw fault)
    else
      match check scheme rest with
      | .error fault => .error (.malformed raw fault)
      | .ok _ =>
        if scheme = "https".toList then .error (.secure raw)
        else .error (.unsupportedScheme raw (String.ofList scheme))

end BaseUrl

end Switchboard
