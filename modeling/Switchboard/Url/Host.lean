import Switchboard.Url.Fault
import Switchboard.Url.Ipv6

/-
This file reads the host of an address in its canonical form.
-/

namespace Switchboard.Url

/-- A domain is written in ASCII. -/
inductive Host where
  | domain (name : List Char)
  | ipv4 (address : Ipv4)
  | ipv6 (address : Ipv6)
  deriving DecidableEq, Repr

namespace Host

def text : Host → List Char
  | .domain name => name
  | .ipv4 address => address.text
  | .ipv6 address => '[' :: address.text ++ [']']

/-- An address between brackets is the only host that may hold colons. -/
def readBracketed (text : List Char) : Except Fault Ipv6 :=
  if text.getLast? = some ']' then
    match Ipv6.read? text.dropLast with
    | some address => .ok address
    | none => .error .invalidIpv6
  else .error .invalidIpv6

/-- A name is percent-decoded and brought into its ASCII form before it is looked at. -/
def readName (text : List Char) : Except Fault Host :=
  match Text.Utf8.decode (decode text) with
  | .error _ => .error .invalidDomain
  | .ok name =>
    match Domain.toAscii name.toList with
    | none => .error .invalidDomain
    | some [] => .error .emptyHost
    | some ascii =>
      if Ipv4.isMeant ascii then
        match Ipv4.read? ascii with
        | some address => .ok (.ipv4 address)
        | none => .error .invalidIpv4
      else .ok (.domain ascii)

def read (text : List Char) : Except Fault Host :=
  match text with
  | '[' :: rest =>
    match readBracketed rest with
    | .ok address => .ok (.ipv6 address)
    | .error fault => .error fault
  | name => readName name

/-- Schemes without a web meaning keep their hosts as they are, apart from some characters. -/
def isForbiddenOpaque (character : Char) : Bool :=
  character.toNat = 0 ||
    [' ', '#', '/', ':', '<', '>', '?', '@', '[', '\\', ']', '^', '|'].contains character

def checkOpaque (text : List Char) : Except Fault Unit :=
  match text with
  | '[' :: rest =>
    match readBracketed rest with
    | .ok _ => .ok ()
    | .error fault => .error fault
  | name => if name.any isForbiddenOpaque then .error .invalidDomainCharacter else .ok ()

end Host

end Switchboard.Url
