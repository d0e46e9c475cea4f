/-!
# Flaws of addresses

## Main definitions

* `Url.Flaw`, `Url.Flaw.name` — why a text is no address, and the name of the reason
-/

namespace Targeting.Platform.Url

/-- Why a text is no address. -/
inductive Flaw where
  | emptyHost
  | invalidInternationalName
  | invalidPort
  | invalidIpv4
  | invalidIpv6
  | invalidDomainCharacter
  | relativeWithoutBase
  deriving DecidableEq

/-- The name of a reason. -/
def Flaw.name : Flaw → String
  | emptyHost => "EmptyHost"
  | invalidInternationalName => "IdnaError"
  | invalidPort => "InvalidPort"
  | invalidIpv4 => "InvalidIpv4Address"
  | invalidIpv6 => "InvalidIpv6Address"
  | invalidDomainCharacter => "InvalidDomainCharacter"
  | relativeWithoutBase => "RelativeUrlWithoutBase"

end Targeting.Platform.Url
