import N1qlConnector.Compile
import N1qlConnector.Failure
import N1qlConnector.Run.Shape
import N1qlConnector.Store.Session

/-!
# Running requests

A request is compiled first, and only then is anything sent. The row statement goes before the
aggregate statement, an empty statement is not sent, and the first error of the store ends the
request. To explain a request is to send the same statements with `EXPLAIN` in front.

Only the length of the row statement is limited, and only when it is to be run.
-/

namespace N1qlConnector

open Statement

/-- A session that can end with a failure. -/
abbrev Attempt := ExceptT Failure Session

namespace Attempt

/-- Ends with a failure if the store reports an error. -/
def ofAnswer {α : Type} (answer : Session (Except StoreError α)) : Attempt α :=
  ExceptT.mk do
    match ← answer with
    | .ok value => return .ok value
    | .error error => return .error (.ofStoreError error)

/-- Goes on with what was compiled, or ends. -/
def ofCompiled {α : Type} : Compiled α → Attempt α
  | .ok value => pure value
  | .error cause => throw (.compile cause)

/-- Runs an attempt with a store, going on from a trace. -/
def runWith {α : Type} (attempt : Attempt α) (store : Store) (trace : Trace) :
    Except Failure α × Trace :=
  Session.runWith attempt.run store trace

end Attempt

/-- Sends a statement and takes the time. -/
def timedQuery (statement : String) (parameters : Parameters) (context : String) :
    Session (Except StoreError (List Json)) := do
  let answer ← Session.call (.query statement parameters context)
  Session.recordTimed
  return answer

/-- The scope in which the statements of a configuration look for keyspaces. -/
def Config.context (config : Config) : String := queryContext config.bucket config.scope

/-- Runs a statement; an empty one has no rows and is not sent. -/
def execute (config : Config) (statement : String) (parameters : Parameters) :
    Attempt (List Json) :=
  if statement.isEmpty then pure []
  else .ofAnswer (timedQuery statement parameters config.context)

/-! ## Queries -/

/-- Refuses a statement that is longer than allowed. -/
def Settings.checkLength (settings : Settings) (statement : Prepared) : Attempt Unit :=
  match settings.queryLengthLimit with
  | none => pure ()
  | some limit =>
    let actual := statement.text.length
    if limit < actual then throw (.queryTooLong actual limit) else pure ()

/-- Runs both statements of a compiled request. The aggregates are the first row of their answer. -/
def CompiledRequest.run (compiled : CompiledRequest) (config : Config) (settings : Settings)
    (names : List String) : Attempt QueryResponse := do
  settings.checkLength compiled.rows
  let rows ← execute config compiled.rows.text compiled.rows.parameters
  let aggregates ←
    if compiled.totals.isEmpty then pure none
    else do
      let totals ← execute config compiled.totals.text compiled.totals.parameters
      pure (totals.head?.map Row.ofJson)
  return .shape names (rows.map Row.ofJson) aggregates

/-- Compiles and runs a request. -/
def Request.run (request : Request) (config : Config) (settings : Settings) :
    Attempt QueryResponse := do
  let compiled ← Attempt.ofCompiled (request.compile config settings)
  compiled.run config settings (request.query.fieldList.map Prod.fst)

/-! ## Plans -/

/-- The plan of a statement on a line of its own; an empty statement has none. -/
def Prepared.explain (statement : Prepared) (config : Config) : Attempt (List String) :=
  if statement.isEmpty then pure []
  else do
    let plan ← execute config ("EXPLAIN " ++ statement.text) statement.parameters
    return [(Json.array plan).pretty]

/-- Compiles a request and asks for the plans of its statements. -/
def Request.explain (request : Request) (config : Config) (settings : Settings) :
    Attempt ExplainResponse := do
  let compiled ← Attempt.ofCompiled (request.compile config settings)
  let rows ← compiled.rows.explain config
  let totals ← compiled.totals.explain config
  return ⟨compiled.rows.text ++ " " ++ compiled.totals.text, "" :: rows ++ totals⟩

/-! ## Statements of the caller -/

/-- Runs a caller's statement as it is. -/
def RawRequest.run (request : RawRequest) (config : Config) : Attempt RawResponse := do
  return ⟨← execute config request.statement []⟩

end N1qlConnector
