import N1qlConnector.Json.Basic

/-!
# Requests and replies

A message of the connector's HTTP interface. The body of a request is bytes; that of a reply is JSON,
a text whose wording nobody relies on, or the state of the metrics.
-/

namespace N1qlConnector.Http

/-- A request. -/
structure Message where
  method : String := "GET"
  /-- Path, query and fragment, perhaps after a host. -/
  target : String := "/"
  headers : List (String × String) := []
  body : ByteArray := .empty

/-- What follows the host of an absolute target, which is one that names a scheme. -/
def afterHost? : List Char → Option (List Char)
  | ':' :: '/' :: '/' :: rest => some (rest.dropWhile (· != '/'))
  | _ :: rest => afterHost? rest
  | [] => none

namespace Message

/-- The path that a request is for, without query and fragment. Most targets start with it. An
absolute one names scheme and host before it, and stands for the root of the host if nothing comes
after them. A host without a scheme is all there is of its target, which has no path. -/
def path (message : Message) : String :=
  let target := message.target.toList.takeWhile fun c => c != '?' && c != '#'
  match target with
  | '/' :: _ | ['*'] => String.ofList target
  | _ =>
    match afterHost? target with
    | none => ""
    | some [] => "/"
    | some path => String.ofList path

/-- The first header of a name, in whatever case the name is written. -/
def header? (message : Message) (name : String) : Option String :=
  (message.headers.find? fun header =>
    header.1.toList.map Char.toLower == name.toList.map Char.toLower).map Prod.snd

end Message

/-- What has been counted. -/
structure Metrics where
  /-- Requests by route, the route that came first being the first. -/
  requests : List (String × Nat)
  /-- Statements that were sent and timed. -/
  statements : Nat
  deriving Repr, DecidableEq

namespace Metrics

/-- A route as the value of a label. Quotes are escaped, and so are backslashes unless they escape
something already. -/
def escapeLabel : List Char → List Char
  | [] => []
  | '\\' :: '\\' :: rest => '\\' :: '\\' :: escapeLabel rest
  | '\\' :: '"' :: rest => '\\' :: '"' :: escapeLabel rest
  | '\\' :: rest => '\\' :: '\\' :: escapeLabel rest
  | '"' :: rest => '\\' :: '"' :: escapeLabel rest
  | c :: rest => c :: escapeLabel rest

/-- The series that counts the requests for a route. -/
def requestSeries (route : String) : String :=
  "http_request_count\x7broute=\"" ++ String.ofList (escapeLabel route.toList) ++ "\"\x7d"

/-- The series that counts the statements. -/
def statementSeries : String := "query_durations_count"

/-- All series that have counted anything. -/
def series (metrics : Metrics) : List (String × Nat) :=
  metrics.requests.map (fun entry => (requestSeries entry.1, entry.2))
    ++ if metrics.statements = 0 then [] else [(statementSeries, metrics.statements)]

/-- The bounds of the classes that the times of statements are sorted into, in seconds: from a tenth
of a millisecond up to a thousand seconds, a factor of ten apart, and all beyond. -/
def timeBounds : List String :=
  ["0.0001", "0.001", "0.01", "0.1", "1", "10", "100", "1000", "+Inf"]

end Metrics

/-- The body of a reply. -/
inductive Body where
  | empty
  | json (value : Json)
  /-- A text for people. -/
  | text
  | metrics (metrics : Metrics)
  deriving Repr

/-- A reply. -/
structure Reply where
  status : Nat
  headers : List (String × String) := []
  body : Body := .empty
  deriving Repr

namespace Reply

/-- A reply with a JSON body. -/
def json (status : Nat) (value : Json) : Reply :=
  ⟨status, [("content-type", "application/json")], .json value⟩

/-- A reply with a text for people. -/
def text (status : Nat) : Reply := ⟨status, [("content-type", "text/plain; charset=utf-8")], .text⟩

/-- The reply without its body. -/
def withoutBody (reply : Reply) : Reply := { reply with body := .empty }

/-- The reply with more headers. -/
def withHeaders (reply : Reply) (headers : List (String × String)) : Reply :=
  { reply with headers := reply.headers ++ headers }

end Reply

end N1qlConnector.Http
