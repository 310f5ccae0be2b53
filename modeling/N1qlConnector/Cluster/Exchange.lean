import N1qlConnector.Cluster.Base64
import N1qlConnector.Cluster.Url
import N1qlConnector.Format.Record
import N1qlConnector.Json.Printer
import N1qlConnector.Store.Session

/-!
# Exchanges with a cluster

A cluster answers the calls of a session over HTTP. `Cluster.request` is what a call becomes,
`Cluster.answer` what the reply to it means. Between the two stands the network, which is not
part of this library.

An answer that is JSON is taken for what it says, whatever its status. One that is not JSON is a
text if the status tells of success, and an error otherwise.
-/

namespace N1qlConnector.Cluster

/-- Where the services of a cluster are, and who asks. -/
structure Params where
  queryUrl : String
  managementUrl : String
  username : String
  password : String
  deriving DecidableEq, Repr

/-- Who asks where. The password is never shown. -/
def Params.display (params : Params) : String := params.username ++ "@" ++ params.queryUrl

/-- A request to a service. -/
structure ServiceRequest where
  method : String
  url : Url
  authorization : String
  /-- The body, if there is one. -/
  json : Option Json
  deriving Repr

/-- A reply of a service. -/
structure ServiceReply where
  status : Nat
  body : String
  deriving DecidableEq, Repr

/-! ## Requests -/

/-- The credentials as a header. -/
def Params.authorization (params : Params) : String :=
  let text := params.username ++ ":" ++ params.password
  "Basic " ++ String.ofList (base64 text.toUTF8.toList)

/-- Whether a request can be sent to a URL at all: the scheme has to be one of HTTP, and the host
must not have certain characters, although a URL may have them. -/
def isSendable (url : Url) : Bool :=
  (url.scheme == "http" || url.scheme == "https")
    && url.host.all fun host => !host.text.toList.any "\"`\x7b\x7d".toList.contains

/-- The URL of a service, with further segments. Credentials in it are not part of what it names. -/
def serviceUrl (base : String) (segments : List String) : Except StoreError Url :=
  match Url.parse base with
  | .ok url =>
    let url := (url.extend segments).withoutUserinfo
    if isSendable url then .ok url
    else .error (.transport ("builder error for url (" ++ url.text ++ ")"))
  | .error .opaquePath => .error (.transport (base ++ " " ++ UrlError.opaquePath.message))
  | .error cause => .error (.transport ("invalid url " ++ base ++ ": " ++ cause.message))

/-- The body of a request to run a statement. A dollar sign tells parameters from the rest. -/
def statementBody (statement : String) (parameters : Statement.Parameters) (context : String) :
    Json :=
  .object <| Entries.extend
    [("statement", .string statement), ("query_context", .string context)]
    (parameters.map fun parameter => (Statement.placeholder parameter.1, parameter.2))

/-- The request that a call becomes. -/
def request (params : Params) : Call → Except StoreError ServiceRequest
  | .query statement parameters context => do
    let url ← serviceUrl params.queryUrl ["query", "service"]
    return ⟨"POST", url, params.authorization, some (statementBody statement parameters context)⟩
  | .listScopes bucket => do
    let url ← serviceUrl params.managementUrl ["pools", "default", "buckets", bucket, "scopes"]
    return ⟨"GET", url, params.authorization, none⟩
  | .ping => do
    let url ← serviceUrl params.queryUrl ["admin", "ping"]
    return ⟨"GET", url, params.authorization, none⟩
  | .diagnostics => do
    let url ← serviceUrl params.queryUrl ["admin", "vitals"]
    return ⟨"GET", url, params.authorization, none⟩

/-! ## Replies -/

/-- The phrases that go with the numbers of statuses. -/
def reasonPhrases : List (Nat × String) :=
  [(100, "Continue"), (101, "Switching Protocols"), (102, "Processing"), (103, "Early Hints"),
    (200, "OK"), (201, "Created"), (202, "Accepted"), (203, "Non Authoritative Information"),
    (204, "No Content"), (205, "Reset Content"), (206, "Partial Content"), (207, "Multi-Status"),
    (208, "Already Reported"), (226, "IM Used"), (300, "Multiple Choices"),
    (301, "Moved Permanently"), (302, "Found"), (303, "See Other"), (304, "Not Modified"),
    (305, "Use Proxy"), (307, "Temporary Redirect"), (308, "Permanent Redirect"),
    (400, "Bad Request"), (401, "Unauthorized"), (402, "Payment Required"), (403, "Forbidden"),
    (404, "Not Found"), (405, "Method Not Allowed"), (406, "Not Acceptable"),
    (407, "Proxy Authentication Required"), (408, "Request Timeout"), (409, "Conflict"),
    (410, "Gone"), (411, "Length Required"), (412, "Precondition Failed"),
    (413, "Payload Too Large"), (414, "URI Too Long"), (415, "Unsupported Media Type"),
    (416, "Range Not Satisfiable"), (417, "Expectation Failed"), (418, "I'm a teapot"),
    (421, "Misdirected Request"), (422, "Unprocessable Entity"), (423, "Locked"),
    (424, "Failed Dependency"), (425, "Too Early"), (426, "Upgrade Required"),
    (428, "Precondition Required"), (429, "Too Many Requests"),
    (431, "Request Header Fields Too Large"), (451, "Unavailable For Legal Reasons"),
    (500, "Internal Server Error"), (501, "Not Implemented"), (502, "Bad Gateway"),
    (503, "Service Unavailable"), (504, "Gateway Timeout"), (505, "HTTP Version Not Supported"),
    (506, "Variant Also Negotiates"), (507, "Insufficient Storage"), (508, "Loop Detected"),
    (510, "Not Extended"), (511, "Network Authentication Required")]

/-- A status with its phrase. -/
def statusText (status : Nat) : String :=
  toString status ++ " " ++ (reasonPhrases.lookup status).getD "<unknown status code>"

/-- Whether a status tells of success. -/
def isSuccess (status : Nat) : Bool := decide (200 ≤ status) && decide (status < 300)

/-- What a reply says. -/
def ServiceReply.value (reply : ServiceReply) : Except StoreError Json :=
  match Json.ofText? reply.body with
  | some value => .ok value
  | none =>
    if isSuccess reply.status then .ok (.string reply.body)
    else
      .error ⟨none, statusText reply.status ++ ": " ++ reply.body, .string reply.body⟩

/-- What the query service says of a statement: its results, and its errors. -/
structure StatementReply where
  results : List Json
  errors : List Json
  deriving Repr

def StatementReply.reader : Reader StatementReply :=
  Reader.record [["results"], ["errors"]] fun record =>
    StatementReply.mk <$> record.defaulted "results" [] (on (.list .json))
      <*> record.defaulted "errors" [] (on (.list .json))

/-- Code and message of an error of the query service. -/
def errorReader : Reader (UInt64 × String) :=
  Reader.record [["code"], ["msg"]] fun record =>
    Prod.mk <$> record.required "code" (on .word)
      <*> record.defaulted "msg" "" (on .string)

/-- The rows of a statement. The first of several errors says what went wrong, the details hold
all of them. -/
def StatementReply.rows (reply : StatementReply) : Except StoreError (List Json) :=
  match reply.errors with
  | [] => .ok reply.results
  | first :: _ =>
    .error <|
      match errorReader.ofValue first with
      | .ok (code, message) => ⟨some code, message, .array reply.errors⟩
      | .error _ => ⟨none, first.compact, .array reply.errors⟩

/-- A list of scopes with their collections. -/
def scopesReader : Reader (List ScopeListing) :=
  let collection : Reader String :=
    Reader.record [["name"]] fun record => record.required "name" (on .string)
  let scope : Reader ScopeListing :=
    Reader.record [["name"], ["collections"]] fun record =>
      ScopeListing.mk <$> record.required "name" (on .string)
        <*> record.defaulted "collections" [] (on (.list collection))
  Reader.record [["scopes"]] fun record => record.required "scopes" (on (.list scope))

/-- What the reply to a call means. -/
def answer : (call : Call) → ServiceReply → call.Answer
  | .query .., reply => do
    let value ← reply.value
    match StatementReply.reader.ofValue value with
    | .ok statement => statement.rows
    | .error _ => throw ⟨none, "unexpected response from the query service", value⟩
  | .listScopes bucket, reply => do
    let value ← reply.value
    match scopesReader.ofValue value with
    | .ok scopes => return scopes
    | .error _ => throw ⟨none, "cannot read the scopes of " ++ bucket ++ ": ", value⟩
  | .ping, reply => do
    discard reply.value
  | .diagnostics, reply => reply.value

/-- The error of a request that got no reply. -/
def noReply (url : Url) : StoreError :=
  .transport ("error sending request for url (" ++ url.text ++ ")")

end N1qlConnector.Cluster
