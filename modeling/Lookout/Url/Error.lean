/-!
# What can be wrong with an address
-/

namespace Lookout

/-- Why a text is no address. -/
inductive UrlError where
  /-- There is no scheme in front. -/
  | relativeWithoutBase
  /-- The host is missing where there has to be one. -/
  | emptyHost
  /-- The port is not a number of 16 bits. -/
  | invalidPort
  /-- The host is no domain name. -/
  | invalidDomain
  /-- The host ends in a number and is no IPv4 address. -/
  | invalidIpv4
  /-- The host is in brackets and is no IPv6 address. -/
  | invalidIpv6
  /-- The host of an address with an unknown scheme holds a character that no host may hold. -/
  | invalidHostCharacter
  deriving DecidableEq, Repr

/-- The wording of an error. -/
def UrlError.message : UrlError → String
  | .relativeWithoutBase => "relative URL without a base"
  | .emptyHost => "empty host"
  | .invalidPort => "invalid port number"
  | .invalidDomain => "invalid international domain name"
  | .invalidIpv4 => "invalid IPv4 address"
  | .invalidIpv6 => "invalid IPv6 address"
  | .invalidHostCharacter => "invalid domain character"

end Lookout
