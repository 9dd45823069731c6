/-!
# Faults of addresses

Why a text is no URL.
-/

namespace OperationGate

/-- Why a text is no URL. -/
inductive UrlFault where
  | emptyHost
  | invalidPort
  | relativeWithoutBase
  | invalidDomainCharacter
  | invalidInternationalDomain
  | invalidIpv4
  | invalidIpv6
  | relativeWithRootlessBase
  deriving DecidableEq, Repr, Inhabited

/-- The wording of a fault. -/
def UrlFault.message : UrlFault → String
  | .emptyHost => "empty host"
  | .invalidPort => "invalid port number"
  | .relativeWithoutBase => "relative URL without a base"
  | .invalidDomainCharacter => "invalid domain character"
  | .invalidInternationalDomain => "invalid international domain name"
  | .invalidIpv4 => "invalid IPv4 address"
  | .invalidIpv6 => "invalid IPv6 address"
  | .relativeWithRootlessBase => "relative URL with a cannot-be-a-base base"

end OperationGate
