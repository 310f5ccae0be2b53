import N1qlConnector.Capabilities
import N1qlConnector.Http.MediaType
import N1qlConnector.Http.Message
import N1qlConnector.Json.Bytes
import N1qlConnector.Schema

/-!
# The HTTP interface

Each route serves one kind of request with one method; where that is `GET`, `HEAD` is served as
well, without the body. A request is looked at in this order: its path, its method, the form of its
body, its configuration, and only then what it asks for.

A mistake of the caller is answered with a status from 400 on, any other failure with 500, and the
body says what happened. A body that has no JSON form for its route, or no JSON form at all, is
answered with a text instead, before the configuration is looked at.

Requests can be counted by route, and scripts of other origins can be let in. The latter is the
outermost layer: it answers `OPTIONS` itself, so what it answers is not counted.
-/

namespace N1qlConnector.Http

/-! ## Routes -/

inductive Route where
  | capabilities
  | schema
  | query
  | explain
  | raw
  | health
  | metrics
  deriving DecidableEq, Repr

namespace Route

def path : Route → String
  | capabilities => "/capabilities"
  | schema => "/schema"
  | query => "/query"
  | explain => "/explain"
  | raw => "/raw"
  | health => "/health"
  | metrics => "/metrics"

/-- Whether the route takes a body. -/
def takesBody : Route → Bool
  | query | explain | raw => true
  | capabilities | schema | health | metrics => false

/-- The methods of the route, as the `allow` header lists them. -/
def allow (route : Route) : String := if route.takesBody then "POST" else "GET,HEAD"

/-- Whether a method is served. -/
def serves (route : Route) (method : String) : Bool :=
  if route.takesBody then method == "POST" else method == "GET" || method == "HEAD"

/-- All routes; the one to the metrics only if they are kept. -/
def all (metered : Bool) : List Route :=
  [capabilities, schema, query, explain, raw, health] ++ if metered then [metrics] else []

/-- The route with a path. -/
def ofPath? (metered : Bool) (path : String) : Option Route :=
  (all metered).find? (·.path == path)

end Route

/-- How a server is set up. -/
structure Server where
  settings : Settings := {}
  /-- Whether requests and statements are counted. -/
  metered : Bool := false
  /-- Whether scripts of other origins may use it. -/
  permissiveCors : Bool := false
  deriving Repr

/-! ## Configuration -/

/-- The header that holds the configuration. -/
def configHeader : String := "x-hasura-dataconnector-config"

/-- The characters that a header may have to be read as text. -/
def isHeaderText (value : String) : Bool :=
  value.toList.all fun c => c == '\t' || (decide (' ' ≤ c) && decide (c ≤ '~'))

/-- The text of the configuration header, if there is one. -/
def Message.configText (message : Message) : Except ConfigError (Option String) :=
  match message.header? configHeader with
  | none => .ok none
  | some text => if isHeaderText text then .ok (some text) else .error .invalidEncoding

/-- The configuration of a request. -/
def Message.config (message : Message) : Except ConfigError Config := do
  Config.ofHeader (← message.configText)

/-- The configuration of a request that can do without. -/
def Message.config? (message : Message) : Except ConfigError (Option Config) := do
  Config.ofHeader? (← message.configText)

/-! ## Serving a route -/

/-- The reply to a failure. -/
def Reply.ofFailure (failure : Failure) : Reply :=
  .json (if failure.isClientError then 400 else 500) failure.report.toJson

/-- The reply to an attempt. -/
def Reply.ofAttempt (attempt : Attempt Reply) : Session Reply := do
  match ← attempt.run with
  | .ok reply => return reply
  | .error failure => return .ofFailure failure

/-- Goes on with a configuration, or ends. -/
def withConfig {α : Type} (config : Except ConfigError α) (attempt : α → Attempt Reply) :
    Session Reply :=
  match config with
  | .ok config => Reply.ofAttempt (attempt config)
  | .error cause => return .ofFailure (.config cause)

/-- How many bytes the body of a request may have. -/
def maxBodySize : Nat := 2 * 1024 * 1024

/-- Reads the body of a request. The status of the reply says why it cannot be read. -/
def Message.read {α : Type} (message : Message) (reader : Reader α) : Except Reply α :=
  let type := (message.header? "content-type").filter isHeaderText
  if !(type.map isJsonMediaType).getD false then .error (.text 415)
  else if maxBodySize < message.body.size then .error (.text 413)
  else
    match reader.ofStart (Json.textOfBytes message.body) with
    | .ok value => .ok value
    | .error .malformed => .error (.text 400)
    | .error .mismatch => .error (.text 422)

/-- Goes on with the body of a request, or ends. -/
def withBody {α : Type} (message : Message) (reader : Reader α) (serve : α → Session Reply) :
    Session Reply :=
  match message.read reader with
  | .ok value => serve value
  | .error reply => return reply

/-- Checks on the cluster in the way that the configuration asks for. Without a configuration there
is nothing to check. -/
def checkHealth (config : Option Config) : Attempt Reply := do
  match config.bind Config.healthCheck with
  | none => pure ()
  | some .ping => Attempt.ofAnswer (Session.call .ping)
  | some .diagnostic => discard <| Attempt.ofAnswer (Session.call .diagnostics)
  return { status := 204 }

/-- Serves a request for a route, with what was counted so far. -/
def Server.serve (server : Server) (counted : List (String × Nat)) (message : Message) :
    Route → Session Reply
  | .capabilities => return .json 200 (N1qlConnector.capabilities server.metered)
  | .schema =>
    withConfig message.config fun config => do
      return .json 200 (← config.inferSchema).toJson
  | .query =>
    withBody message Request.reader fun request =>
      withConfig message.config fun config => do
        return .json 200 (← request.run config server.settings).toJson
  | .explain =>
    withBody message Request.reader fun request =>
      withConfig message.config fun config => do
        return .json 200 (← request.explain config server.settings).toJson
  | .raw =>
    withBody message RawRequest.reader fun request =>
      withConfig message.config fun config => do
        return .json 200 (← request.run config).toJson
  | .health => withConfig message.config? checkHealth
  | .metrics => do
    let trace ← Session.trace
    return { Reply.text 200 with body := .metrics ⟨counted, trace.timed⟩ }

/-! ## Dispatch -/

/-- Serves a request if its path and method are known. -/
def Server.dispatch (server : Server) (counted : List (String × Nat)) (message : Message) :
    Session Reply :=
  match Route.ofPath? server.metered message.path with
  | none => return { status := 404 }
  | some route =>
    if !route.serves message.method then
      return { status := 405, headers := [("allow", route.allow)] }
    else if message.method == "HEAD" then Reply.withoutBody <$> server.serve counted message route
    else server.serve counted message route

/-- Adds one request for a route to what was counted. -/
def count (counted : List (String × Nat)) (route : String) : List (String × Nat) :=
  Entries.insert counted route ((counted.lookup route).getD 0 + 1)

/-- What was counted once a request has come in. A path without a route is counted as it is. -/
def Server.counted (server : Server) (counted : List (String × Nat)) (message : Message) :
    List (String × Nat) :=
  if server.metered then count counted message.path else counted

/-- The headers by which every reply lets in scripts of the origin that asks. -/
def originHeaders (message : Message) : List (String × String) :=
  match message.header? "origin" with
  | some origin => [("access-control-allow-origin", origin)]
  | none => []

/-- The methods and headers that scripts may use. -/
def preflightHeaders : List (String × String) :=
  [("access-control-allow-methods", "GET,POST,OPTIONS"),
    ("access-control-allow-headers",
      "content-type,x-hasura-dataconnector-config,x-hasura-dataconnector-sourcename")]

/-- The answer to the question what scripts may do. Since no route serves `OPTIONS`, one that is
known adds the methods it does serve. -/
def Server.preflight (server : Server) (message : Message) : Reply :=
  let allow := match Route.ofPath? server.metered message.path with
    | some route => [("allow", route.allow)]
    | none => []
  { status := 200, headers := originHeaders message ++ preflightHeaders ++ allow }

/-- Handles a request, with what was counted before it. The answer holds the count after it. -/
def Server.handle (server : Server) (counted : List (String × Nat)) (message : Message) :
    Session (Reply × List (String × Nat)) :=
  if server.permissiveCors then
    if message.method == "OPTIONS" then return (server.preflight message, counted)
    else do
      let counted := server.counted counted message
      let reply ← server.dispatch counted message
      return (reply.withHeaders (originHeaders message), counted)
  else do
    let counted := server.counted counted message
    return (← server.dispatch counted message, counted)

end N1qlConnector.Http
