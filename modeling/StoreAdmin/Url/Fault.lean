/-!
# Faults of addresses
-/

namespace StoreAdmin.Url

/-- Why a text is no address. -/
inductive Fault where
  | emptyHost
  | badDomain
  | badDomainCharacter
  | badPort
  | badIpv4
  | badIpv6
  /-- There is no scheme. -/
  | relative
  deriving DecidableEq, Repr

/-- The fault in words. -/
def Fault.message : Fault → String
  | .emptyHost => "empty host"
  | .badDomain => "invalid international domain name"
  | .badDomainCharacter => "invalid domain character"
  | .badPort => "invalid port number"
  | .badIpv4 => "invalid IPv4 address"
  | .badIpv6 => "invalid IPv6 address"
  | .relative => "relative URL without a base"

end StoreAdmin.Url
