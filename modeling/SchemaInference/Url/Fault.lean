/-
This file lists the reasons why a text is not a URL.
-/

namespace SchemaInference.Url

inductive Fault where
  | relative
  | emptyHost
  | invalidDomain
  | invalidHostCharacter
  | invalidPort
  | invalidIpv4
  | invalidIpv6
deriving DecidableEq

def Fault.message : Fault → String
  | relative => "relative URL without a base"
  | emptyHost => "empty host"
  | invalidDomain => "invalid international domain name"
  | invalidHostCharacter => "invalid domain character"
  | invalidPort => "invalid port number"
  | invalidIpv4 => "invalid IPv4 address"
  | invalidIpv6 => "invalid IPv6 address"

end SchemaInference.Url
