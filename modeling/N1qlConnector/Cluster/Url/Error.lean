/-!
# What can be wrong with a URL
-/

namespace N1qlConnector.Cluster

/-- What can be wrong with the address of a service. -/
inductive UrlError where
  /-- There is no scheme. -/
  | relative
  /-- There is no path of segments. -/
  | opaquePath
  | emptyHost
  | invalidPort
  | invalidIpv4
  | invalidIpv6
  /-- The name of a host has a character that no such name has. -/
  | invalidCharacter
  /-- The name of a host is not one that could be looked up. -/
  | invalidName
  deriving DecidableEq, Repr

def UrlError.message : UrlError → String
  | relative => "relative URL without a base"
  | opaquePath => "cannot be a base url"
  | emptyHost => "empty host"
  | invalidPort => "invalid port number"
  | invalidIpv4 => "invalid IPv4 address"
  | invalidIpv6 => "invalid IPv6 address"
  | invalidCharacter => "invalid domain character"
  | invalidName => "invalid international domain name"

end N1qlConnector.Cluster
