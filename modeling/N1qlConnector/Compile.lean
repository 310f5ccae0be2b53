import N1qlConnector.Compile.Totals

/-!
# Compiling requests

A request becomes two statements: one for its rows and one for its aggregates. Either can be empty,
and an empty statement is never sent. Both are compiled before any of them is run, so a request that
cannot be compiled leaves no trace in a store.
-/

namespace N1qlConnector

open Statement

/-- The text of a statement and the values of its parameters. -/
structure Prepared where
  text : String
  parameters : Parameters
  deriving Repr

namespace Prepared

/-- A statement with nothing to do. -/
def isEmpty (statement : Prepared) : Bool := statement.text.isEmpty

/-- A row statement, ready to be sent. -/
def ofRows (tags : Tags) : Option Select × Parameters → Prepared
  | (none, parameters) => ⟨"", parameters⟩
  | (some select, parameters) => ⟨tags.tag "query" (select.text tags), parameters⟩

/-- An aggregate statement, ready to be sent. -/
def ofTotals (tags : Tags) : Option TotalsSelect × Parameters → Prepared
  | (none, parameters) => ⟨"", parameters⟩
  | (some select, parameters) => ⟨tags.tag "aggregate_query" (select.text tags), parameters⟩

end Prepared

/-- The tags that settings ask for. -/
def Settings.tags (settings : Settings) : Tags := ⟨settings.debuggingTags⟩

/-- The two statements of a request. -/
structure CompiledRequest where
  rows : Prepared
  totals : Prepared
  deriving Repr

/-- What the queries of a request are compiled in. -/
def Request.surroundings (request : Request) (config : Config) : Surroundings :=
  ⟨config, .ofDeclared request.relationships⟩

/-- The row statement of a request in a given scope. -/
def Request.compileRows (request : Request) (config : Config) (settings : Settings)
    (scope : Scope) : Compiled Prepared := do
  let compiled ← request.query.compileRows (request.surroundings config) request.table scope
  return .ofRows settings.tags compiled

/-- The aggregate statement of a request in a given scope. -/
def Request.compileTotals (request : Request) (config : Config) (settings : Settings)
    (scope : Scope) : Compiled Prepared := do
  let compiled ← request.query.compileTotals (request.surroundings config) request.table scope
  return .ofTotals settings.tags compiled

/-- Both statements of a request. -/
def Request.compile (request : Request) (config : Config) (settings : Settings) :
    Compiled CompiledRequest := do
  let scope := Scope.root request.table
  let rows ← request.compileRows config settings scope
  let totals ← request.compileTotals config settings scope
  return ⟨rows, totals⟩

end N1qlConnector
