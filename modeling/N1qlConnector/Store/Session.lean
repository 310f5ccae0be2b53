import N1qlConnector.Statement.Parameters
import N1qlConnector.Store.Error

/-!
# Sessions with a store

Everything the connector wants of a store goes through four calls. A `Store` is any function that
answers them; it may take the calls before into account, so it can change, fail, and recover. A
`Session` is a computation that makes calls. Running it gives a result and a trace: the calls in the
order in which they were made, and how many statements were timed.
-/

namespace N1qlConnector

/-- A scope of a bucket with the names of its collections. -/
structure ScopeListing where
  name : String
  collections : List String
  deriving DecidableEq, Repr

/-- What can be asked of a store. -/
inductive Call where
  /-- To run a statement. -/
  | query (statement : String) (parameters : Statement.Parameters) (context : String)
  /-- To list the scopes of a bucket. -/
  | listScopes (bucket : String)
  | ping
  | diagnostics
  deriving Repr

/-- What a call is answered with. -/
abbrev Call.Answer : Call → Type
  | query .. => Except StoreError (List Json)
  | listScopes _ => Except StoreError (List ScopeListing)
  | ping => Except StoreError Unit
  | diagnostics => Except StoreError Json

/-- Answers a call, given the calls before. -/
def Store : Type := (history : List Call) → (call : Call) → call.Answer

/-- What can be seen of a session from outside. -/
structure Trace where
  /-- The calls, the first one first. -/
  calls : List Call
  /-- How many statements were timed. -/
  timed : Nat
  deriving Repr

/-- The trace before the first call. -/
def Trace.empty : Trace := ⟨[], 0⟩

/-- A computation that makes calls. -/
abbrev Session := ReaderT Store (StateM Trace)

namespace Session

/-- Makes a call. -/
def call (call : Call) : Session call.Answer := fun store trace =>
  (store trace.calls call, { trace with calls := trace.calls ++ [call] })

/-- Notes that a statement was timed. -/
def recordTimed : Session Unit := fun _ trace =>
  ((), { trace with timed := trace.timed + 1 })

/-- What has happened so far. -/
def trace : Session Trace := fun _ trace => (trace, trace)

/-- Runs a session with a store, going on from a trace. -/
def runWith {α : Type} (session : Session α) (store : Store) (trace : Trace) : α × Trace :=
  session store trace

end Session

end N1qlConnector
