/-!
# URL errors

Why a text is no URL.
-/

namespace Footage.Url

/-- Why a text is no URL. -/
inductive Error where
  | relativeWithoutBase
  | relativeToBare
  | emptyHost
  | badPort
  | badIpv4
  | badIpv6
  | badDomain
  | badHostCharacter
  deriving DecidableEq, Repr

/-- The wording of an error. -/
def Error.message : Error → String
  | relativeWithoutBase => "relative URL without a base"
  | relativeToBare => "relative URL with a cannot-be-a-base base"
  | emptyHost => "empty host"
  | badPort => "invalid port number"
  | badIpv4 => "invalid IPv4 address"
  | badIpv6 => "invalid IPv6 address"
  | badDomain => "invalid international domain name"
  | badHostCharacter => "invalid domain character"

end Footage.Url
