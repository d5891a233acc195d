/-
This file names what can be wrong with the text of an address.
-/

namespace Switchboard.Url

inductive Fault where
  | relative
  | emptyHost
  | invalidDomain
  | invalidDomainCharacter
  | invalidIpv4
  | invalidIpv6
  | invalidPort
  deriving DecidableEq, Repr

def Fault.message : Fault → String
  | .relative => "relative URL without a base"
  | .emptyHost => "empty host"
  | .invalidDomain => "invalid international domain name"
  | .invalidDomainCharacter => "invalid domain character"
  | .invalidIpv4 => "invalid IPv4 address"
  | .invalidIpv6 => "invalid IPv6 address"
  | .invalidPort => "invalid port number"

end Switchboard.Url
