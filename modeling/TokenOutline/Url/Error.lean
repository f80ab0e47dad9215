/-!
# Why a text is no URL
-/

namespace TokenOutline.Url

/-- Why a text is refused. -/
inductive Error where
  /-- No scheme stands at its head. -/
  | noScheme
  /-- The host is missing where there has to be one. -/
  | emptyHost
  /-- A character that no host name may hold, or octets that are no text. -/
  | invalidName
  /-- A character that no opaque host may hold. -/
  | invalidCharacter
  | invalidV4
  | invalidV6
  | invalidPort
  deriving DecidableEq, Inhabited

/-- The reason in words. -/
def Error.message : Error → String
  | .noScheme => "relative URL without a base"
  | .emptyHost => "empty host"
  | .invalidName => "invalid international domain name"
  | .invalidCharacter => "invalid domain character"
  | .invalidV4 => "invalid IPv4 address"
  | .invalidV6 => "invalid IPv6 address"
  | .invalidPort => "invalid port number"

end TokenOutline.Url
