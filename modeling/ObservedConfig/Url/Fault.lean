/-! Why a text is no absolute URL. -/
namespace ObservedConfig.Url

inductive Fault where
  | relative
  | emptyHost
  | portNumber
  | ipv4
  | ipv6
  /-- A host that the rules for international names refuse. -/
  | domainName
  /-- A character that no host may hold, in a host that is not a domain name. -/
  | hostCharacter
  deriving DecidableEq, Inhabited

def Fault.message : Fault → String
  | relative => "relative URL without a base"
  | emptyHost => "empty host"
  | portNumber => "invalid port number"
  | ipv4 => "invalid IPv4 address"
  | ipv6 => "invalid IPv6 address"
  | domainName => "invalid international domain name"
  | hostCharacter => "invalid domain character"

end ObservedConfig.Url
