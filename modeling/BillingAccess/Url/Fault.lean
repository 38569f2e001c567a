/-
Why a text is not a URL.
-/

namespace BillingAccess.Url

inductive Fault
  /-- The host is missing where one is needed. -/
  | emptyHost
  /-- The host is no name of the net. -/
  | badName
  | badPort
  | badIpv4
  | badIpv6
  /-- The host holds a character that no host may hold. -/
  | badHostCharacter
  /-- The text is relative, and there is nothing that it is relative to. -/
  | noBase
  /-- The text is relative to a URL whose path has no parts. -/
  | baseWithoutParts
deriving Repr, DecidableEq

def Fault.message : Fault → String
  | .emptyHost => "empty host"
  | .badName => "invalid international domain name"
  | .badPort => "invalid port number"
  | .badIpv4 => "invalid IPv4 address"
  | .badIpv6 => "invalid IPv6 address"
  | .badHostCharacter => "invalid domain character"
  | .noBase => "relative URL without a base"
  | .baseWithoutParts => "relative URL with a cannot-be-a-base base"

end BillingAccess.Url
