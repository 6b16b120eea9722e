/-!
# Addresses that are no URL

## Main definitions

* `Url.Fault` — why a text is no URL, and `Url.Fault.message`.
-/

namespace ConversionScheduler.Url

/-- Why a text is no URL. -/
inductive Fault
  | emptyHost
  | invalidPort
  | invalidDomain
  | invalidIpv4
  | invalidIpv6
deriving DecidableEq

/-- The wording of a fault. -/
def Fault.message : Fault → String
  | .emptyHost => "empty host"
  | .invalidPort => "invalid port number"
  | .invalidDomain => "invalid international domain name"
  | .invalidIpv4 => "invalid IPv4 address"
  | .invalidIpv6 => "invalid IPv6 address"

end ConversionScheduler.Url
