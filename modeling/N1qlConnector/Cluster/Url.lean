import N1qlConnector.Cluster.Url.Host
import N1qlConnector.Cluster.Url.Path

/-!
# Addresses of services

The address of a service is a URL to which the segments of a path are added. A URL without a scheme
is relative, and there is nothing it could be relative to. A URL whose scheme is not followed by a
slash, such as `mailto:x`, has no path of segments.

A few schemes are special: there a backslash is as good as a slash, a host is one that can be looked
up, and a path has at least one segment. All of them but `file`, the scheme of files, need a host
and do so whether it is written after two slashes or not.
-/

namespace N1qlConnector.Cluster

/-- Who is to be asked for at a host. -/
structure Userinfo where
  name : String
  password : Option String
  deriving DecidableEq, Repr

/-- A URL with a path of segments. -/
structure Url where
  scheme : String
  userinfo : Option Userinfo
  /-- The host, which not all schemes need. -/
  host : Option Host
  /-- The port, if it is not the usual one. -/
  port : Option Nat
  segments : List String
  query : Option String
  fragment : Option String
  deriving DecidableEq, Repr

namespace Url

/-! ## Schemes -/

/-- The scheme of a URL, in lower case, and what follows its colon. -/
def splitScheme (text : List Char) : Option (List Char × List Char) :=
  let scheme := text.takeWhile fun c => c.isAlphanum || c == '+' || c == '-' || c == '.'
  match scheme, text.drop scheme.length with
  | first :: _, ':' :: rest =>
    if first.isAlpha then some (scheme.map Char.toLower, rest) else none
  | _, _ => none

/-- The special schemes, with their usual ports. -/
def specialSchemes : List (String × Option Nat) :=
  [("http", some 80), ("https", some 443), ("ws", some 80), ("wss", some 443), ("ftp", some 21),
    ("file", none)]

def isSpecial (scheme : String) : Bool := (specialSchemes.lookup scheme).isSome

/-- Whether a character divides the segments of a path. -/
def isSlash (special : Bool) (c : Char) : Bool := c == '/' || (special && c == '\\')

/-- Whether a character ends the host. -/
def endsHost (special : Bool) (c : Char) : Bool := isSlash special c || c == '?' || c == '#'

/-! ## User, host and port -/

/-- What stands before the last at sign of a text, if it has one, and what after it. -/
def splitUserinfo (text : List Char) : Option (List Char) × List Char :=
  let back := text.reverse.takeWhile (· != '@')
  if back.length = text.length then (none, text)
  else (some (text.take (text.length - back.length - 1)), back.reverse)

/-- Name and password with a colon between them. Two empty ones are none. -/
def Userinfo.parse? (text : List Char) : Option Userinfo :=
  let name := text.takeWhile (· != ':')
  let password := text.drop (name.length + 1)
  if name.isEmpty && password.isEmpty then none
  else some {
    name := percentEncode isPlainInUserinfo name
    password :=
      if password.isEmpty then none else some (percentEncode isPlainInUserinfo password) }

/-- What stands before the first colon that is not between brackets, and what after it. -/
def splitPort (inBrackets : Bool) : List Char → List Char × Option (List Char)
  | [] => ([], none)
  | c :: rest =>
    if c == ':' && !inBrackets then ([], some rest)
    else
      let (host, port) := splitPort (c == '[' || (inBrackets && c != ']')) rest
      (c :: host, port)

/-- The number of a port. None may be written after the colon. -/
def parsePort : Option (List Char) → Except UrlError (Option Nat)
  | none | some [] => .ok none
  | some digits =>
    match (Text.readDigits? 10 digits).filter fun value => decide (value < UInt16.size) with
    | some port => .ok (some port)
    | none => .error .invalidPort

/-- User, host and port. -/
def parseAuthority (scheme : String) (text : List Char) :
    Except UrlError (Option Userinfo × Host × Option Nat) := do
  let (userinfo, text) := splitUserinfo text
  let (hostText, port) := splitPort false text
  if hostText.isEmpty && (isSpecial scheme || userinfo.isSome || port.isSome) then
    throw .emptyHost
  let host ← if isSpecial scheme then Host.parse hostText else Host.parseOpaque hostText
  let port ← parsePort port
  let usual := (specialSchemes.lookup scheme).join
  return (userinfo.bind Userinfo.parse?, host, port.filter fun port => some port != usual)

/-! ## What follows the host -/

/-- Adds path, query and fragment to what stands before them. -/
def withRest (url : Url) (rest : List Char) : Url :=
  let special := isSpecial url.scheme
  let beforeFragment := rest.takeWhile (· != '#')
  let path := beforeFragment.takeWhile (· != '?')
  let segments := match path with
    | [] => if special then [""] else []
    | _ :: path => pathSegments (isSlash special) path
  { url with
    segments
    query := (beforeFragment.drop path.length).tail?.map (percentEncode (isPlainInQuery special))
    fragment := (rest.drop beforeFragment.length).tail?.map (percentEncode isPlainInFragment) }

/-- A URL with a host, given what follows the two slashes in front of that. -/
def parseHosted (scheme : String) (rest : List Char) : Except UrlError Url := do
  let authority := rest.takeWhile fun c => !endsHost (isSpecial scheme) c
  let (userinfo, host, port) ← parseAuthority scheme authority
  return withRest ⟨scheme, userinfo, some host, port, [], none, none⟩ (rest.drop authority.length)

/-- The URL of a file, given what follows the colon. A drive is not taken for a host, and the local
host is the same as none. A path does not start with empty segments. -/
def parseFile (rest : List Char) : Except UrlError Url := do
  let (host, rest) ← match rest with
    | first :: second :: after =>
      if isSlash true first && isSlash true second then
        let text := after.takeWhile fun c => !endsHost true c
        if text.isEmpty || isDrive text then pure (Host.name "", after)
        else
          let host ← Host.parse text
          let host := if host = .name "localhost" then .name "" else host
          pure (host, after.drop text.length)
      else pure (Host.name "", rest)
    | _ => pure (Host.name "", rest)
  let slashed := match rest with
    | c :: _ => if endsHost true c then rest else '/' :: rest
    | [] => rest
  let url := withRest ⟨"file", none, some host, none, [], none, none⟩ slashed
  let segments := url.segments.dropWhile (·.isEmpty)
  return { url with segments := if segments.isEmpty then [""] else segments }

/-- The URL of a service. -/
def parse (text : String) : Except UrlError Url :=
  let isPadding (c : Char) : Bool := decide (c ≤ ' ')
  let trimmed := ((text.toList.dropWhile isPadding).reverse.dropWhile isPadding).reverse
  match splitScheme (trimmed.filter (!isLineBreakOrTab ·)) with
  | none => .error .relative
  | some (scheme, rest) =>
    let scheme := String.ofList scheme
    if scheme = "file" then parseFile rest
    else if isSpecial scheme then parseHosted scheme (rest.dropWhile (isSlash true))
    else
      match rest with
      | '/' :: '/' :: rest => parseHosted scheme rest
      | '/' :: _ => .ok (withRest ⟨scheme, none, none, none, [], none, none⟩ rest)
      | _ => .error .opaquePath

/-! ## Changes -/

/-- The URL with more segments. -/
def extend (url : Url) (segments : List String) : Url :=
  { url with
    segments := segments.foldl (addSegment (isSpecial url.scheme)) (dropEmpty url.segments) }

/-- Whether an encoded text can be decoded. -/
def isDecodable (text : String) : Bool := (percentDecoded? text.toList).isSome

/-- The URL without name and password, unless they have no text that could be sent in place. -/
def withoutUserinfo (url : Url) : Url :=
  match url.userinfo with
  | none => url
  | some user =>
    if isDecodable user.name && (!user.name.isEmpty || user.password.any isDecodable) then
      { url with userinfo := none }
    else url

/-! ## Texts -/

/-- The path. -/
def path (url : Url) : String := String.join (url.segments.map ("/" ++ ·))

/-- Path and query. -/
def target (url : Url) : String :=
  url.path ++
    match url.query with
    | some query => "?" ++ query
    | none => ""

/-- Name and password with an at sign. -/
def Userinfo.text (user : Userinfo) : String :=
  user.name ++
    (match user.password with
      | some password => ":" ++ password
      | none => "") ++ "@"

/-- What stands between the scheme and the path. Without a host a dot keeps a path that starts with
two slashes from being taken for one. -/
def authority (url : Url) : String :=
  match url.host with
  | some host =>
    "//" ++ ((url.userinfo.map Userinfo.text).getD "") ++ host.text ++
      (match url.port with
        | some port => ":" ++ toString port
        | none => "")
  | none => if url.segments.head? = some "" && 1 < url.segments.length then "/." else ""

def text (url : Url) : String :=
  url.scheme ++ ":" ++ url.authority ++ url.target ++
    match url.fragment with
    | some fragment => "#" ++ fragment
    | none => ""

end Url

end N1qlConnector.Cluster
