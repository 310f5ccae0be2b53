import N1qlConnector.Cluster.Url.Address
import N1qlConnector.Cluster.Url.Error
import N1qlConnector.Cluster.Url.Name
import N1qlConnector.Cluster.Url.Percent

/-!
# Hosts

A host is given by its name or by its address. A name is read as an address if it ends in a number,
but only under a special scheme: other schemes have names of their own, which are taken as they are.
-/

namespace N1qlConnector.Cluster

/-- Where a service runs. -/
inductive Host where
  /-- A name; the empty one stands for no host in particular. -/
  | name (text : String)
  | ipv4 (address : UInt32)
  | ipv6 (address : BitVec 128)
  deriving DecidableEq, Repr

namespace Host

def text : Host → String
  | name text => text
  | ipv4 address => Url.ipv4Text address
  | ipv6 address => Url.ipv6Text address

/-- An address between brackets, if a text starts with one. -/
def bracketed? : List Char → Option (Except UrlError Host)
  | '[' :: rest =>
    some <|
      if rest.getLast? = some ']' then
        match Url.ipv6Address? rest.dropLast with
        | some address => .ok (ipv6 address)
        | none => .error .invalidIpv6
      else .error .invalidIpv6
  | _ => none

/-- A host that can be looked up. -/
def parse (text : List Char) : Except UrlError Host :=
  match bracketed? text with
  | some host => host
  | none =>
    match (Url.percentDecoded? text).bind fun decoded => Url.asciiName? decoded.toList with
    | none => .error .invalidName
    | some [] => .error .emptyHost
    | some found =>
      if Url.endsInNumber found then
        match Url.ipv4Address? found with
        | some address => .ok (ipv4 address)
        | none => .error .invalidIpv4
      else .ok (name (String.ofList found))

/-- The characters that no name has. -/
def isForbidden (c : Char) : Bool := "\x00\t\n\r #/:<>?@[\\]^|".toList.contains c

/-- A host that means something to its scheme alone. -/
def parseOpaque (text : List Char) : Except UrlError Host :=
  match bracketed? text with
  | some host => host
  | none =>
    if text.any isForbidden then .error .invalidCharacter
    else .ok (name (Url.percentEncode Url.isVisible text))

end Host

end N1qlConnector.Cluster
