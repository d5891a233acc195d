import Switchboard.Key
import Switchboard.Text.Utf8
import Switchboard.Url.Base

/-
This file forms the address of one request and tells which texts are addresses of requests.
-/

namespace Switchboard.Http

/-- A request address keeps its path as it was written, and its query apart from it. -/
structure Uri where
  authority : List Char
  path : List Char
  query : Option (List Char)
  deriving DecidableEq, Repr

/-- A request line holds this of an address. -/
def Uri.target (uri : Uri) : List Char :=
  uri.path ++ match uri.query with
    | none => []
    | some query => '?' :: query

inductive UriFault where
  | tooLong
  | invalidCharacter
  deriving DecidableEq, Repr

def UriFault.message : UriFault → String
  | .tooLong => "uri too long"
  | .invalidCharacter => "invalid uri character"

/-- A request address has at most this many bytes. -/
def maximalUriLength : Nat := 65534

/-- A host and a port hold these characters; brackets stand around addresses with colons. -/
def isAuthorityChar (character : Char) : Bool :=
  character.isAlphanum ||
    ['!', '$', '&', '\'', '(', ')', '*', '+', ',', '-', '.', ':', ';', '=', '[', ']', '_',
      '~'].contains character

/-- Controls, blanks, the delete character, angle brackets and backticks do not stand in a path. -/
def isPathChar (character : Char) : Bool :=
  0x80 ≤ character.toNat ||
    (0x21 ≤ character.toNat && character.toNat ≤ 0x7E &&
      !(['#', '<', '>', '?', Char.ofNat 0x60].contains character))

/-- A query may hold question marks and backticks, but no double quotes and no delete character. -/
def isQueryChar (character : Char) : Bool :=
  0x80 ≤ character.toNat ||
    (0x21 ≤ character.toNat && character.toNat ≤ 0x7E &&
      !(['"', '#', '<', '>'].contains character))

/-- Nothing after the first number sign belongs to the address. -/
def withoutFragment (text : List Char) : List Char := text.takeWhile (· ≠ '#')

/-- The first question mark ends the path. -/
def splitQuery (text : List Char) : List Char × Option (List Char) :=
  match text.dropWhile (· ≠ '?') with
  | _ :: query => (text.takeWhile (· ≠ '?'), some query)
  | [] => (text, none)

def readPath (authority text : List Char) : Except UriFault Uri :=
  let (path, query) := splitQuery (withoutFragment text)
  if authority.all isAuthorityChar && path.all isPathChar && query.all (·.all isQueryChar) then
    .ok ⟨authority, path, query⟩
  else .error .invalidCharacter

/-- The address of a request for an operation appends the path of its key to a base address. -/
def Uri.ofKey (base : BaseUrl) (key : OperationKey) : Except UriFault Uri :=
  if maximalUriLength < (Text.Utf8.encode (base.text ++ key.path)).length then .error .tooLong
  else readPath base.authority (base.path ++ key.path.toList)

/-- A key that cannot be written into an address is refused as a key. -/
def Uri.ofOperation (base : BaseUrl) (namespaceName operation : String) : Except Error Uri :=
  match OperationKey.make namespaceName operation with
  | .error fault => .error fault.toError
  | .ok key =>
    match Uri.ofKey base key with
    | .ok uri => .ok uri
    | .error fault =>
      .error (.invalidKey s!"{key.text} does not form a valid URI: {fault.message}")

/-- A scheme and two slashes come before the authority of an address that is written in full. -/
def splitScheme : List Char → Option (List Char)
  | ':' :: '/' :: '/' :: rest => some rest
  | character :: rest => if character.isAlphanum then splitScheme rest else none
  | [] => none

/-- A request line names a path, a star, or an address in full. -/
def readTarget (target : List Char) : Option Uri :=
  if maximalUriLength < (Text.Utf8.encodeChars target).length then none
  else
    match target with
    | ['*'] => some ⟨[], ['*'], none⟩
    | '/' :: rest => (readPath [] ('/' :: rest)).toOption
    | target =>
      match splitScheme target with
      | none => none
      | some rest =>
        let authority := rest.takeWhile fun character =>
          character ≠ '/' ∧ character ≠ '?' ∧ character ≠ '#'
        if authority = [] then none
        else
          let after := rest.drop authority.length
          let path := if after.head? = some '/' then after else '/' :: after
          (readPath authority path).toOption

end Switchboard.Http
