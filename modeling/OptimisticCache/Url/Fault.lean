/-!
# Faults of URLs

Why a text is not a URL, and the wording of each cause.
-/

namespace OptimisticCache

/-- Why a text is not a URL. -/
inductive UrlFault where
  /-- There is no scheme in front. -/
  | relativeWithoutBase
  | emptyHost
  /-- The port is no number, or it has more than 16 bits. -/
  | invalidPort
  | invalidIpv4
  | invalidIpv6
  /-- The host cannot be the name of a domain. -/
  | invalidDomain
  /-- A host that is not looked up by its domain holds a reserved character. -/
  | invalidCharacter
deriving DecidableEq

namespace UrlFault

/-- The fault in words. -/
def message : UrlFault → String
  | relativeWithoutBase => "relative URL without a base"
  | emptyHost => "empty host"
  | invalidPort => "invalid port number"
  | invalidIpv4 => "invalid IPv4 address"
  | invalidIpv6 => "invalid IPv6 address"
  | invalidDomain => "invalid international domain name"
  | invalidCharacter => "invalid domain character"

end UrlFault
end OptimisticCache
