import N1qlConnector.Request.TableName
import N1qlConnector.Statement.Parameters

/-!
# Scopes

A query and the queries nested in it are compiled into one statement, in which each reads its rows
under an alias. A scope says which alias that is, which aliases belong to the queries around it, and
how the parameters of the query begin.

An alias is the name of the table. Where a query around has it already, the name of the field that
leads to the nested query is appended, and a number if even that is taken: a nested query that
reused an alias would hide the row it depends on.
-/

namespace N1qlConnector

/-- Where a query stands among the queries around it. -/
structure Scope where
  /-- The alias of the rows that the query reads. -/
  rowAlias : String
  /-- The alias of the rows of the query around; at the root the query's own. -/
  enclosing : String
  /-- What the names of all parameters of the query begin with. -/
  stem : String
  /-- The aliases of all queries around, the outermost first. -/
  ancestors : List String
  deriving DecidableEq, Repr

namespace Scope

/-- The scope of a query that stands alone. -/
def root (table : TableName) : Scope := ⟨table.rowAlias, table.rowAlias, "p_", []⟩

/-- Whether the query stands inside another one. -/
def isNested (scope : Scope) : Bool := !scope.ancestors.isEmpty

/-- The alias of a table in a query that `field` leads to, with none of the `taken` ones. -/
def freshAlias (taken : List String) (table : TableName) (field : String) : String :=
  if table.rowAlias ∈ taken then
    Statement.freshName taken (table.rowAlias ++ "_" ++ Statement.bareWord field)
  else table.rowAlias

/-- The scope of the query of a table that `field` leads to. -/
def nested (scope : Scope) (table : TableName) (field : String) : Scope :=
  let ancestors := scope.ancestors ++ [scope.rowAlias]
  { rowAlias := freshAlias ancestors table field
    enclosing := scope.rowAlias
    stem := scope.stem ++ Statement.bareWord field ++ "_"
    ancestors }

end Scope

end N1qlConnector
