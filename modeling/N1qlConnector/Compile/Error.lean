import N1qlConnector.Request.TableName
import N1qlConnector.Text.Listing

/-!
# What cannot be compiled

A request that cannot be put into statements is refused before anything is sent to a store, with one
of these causes.
-/

namespace N1qlConnector

/-- A part of a request that has no counterpart in statements. -/
inductive Unsupported where
  | existsFilter
  /-- A column of a row other than the current and the enclosing one. -/
  | columnPath (column : String) (path : List String)
  /-- A relationship that the request does not declare. -/
  | undeclaredRelationship (relationship : String) (table : TableName)
  /-- Aggregates of the rows that a relationship leads to. -/
  | nestedAggregates (field : String)
  /-- An order by anything but a column of the rows themselves. -/
  | orderTarget
  | aggregateFunction (word : String)
  deriving DecidableEq, Repr

/-- Why a request cannot be compiled. -/
inductive CompileError where
  | invalidTableName (table : TableName)
  | unsupported (feature : Unsupported)
  deriving DecidableEq, Repr

/-- The result of compiling. -/
abbrev Compiled (α : Type) := Except CompileError α

def Unsupported.message : Unsupported → String
  | existsFilter => "exists expressions are not supported"
  | columnPath column path =>
    "column " ++ column ++ " has path " ++ Text.listing path
      ++ ", only [] and [\"$\"] are supported"
  | undeclaredRelationship relationship table =>
    "relationship " ++ relationship ++ " is not declared on table " ++ table.dotted
  | nestedAggregates field => "aggregates in relationship field " ++ field
  | orderTarget => "ordering by relationships or aggregates is not supported"
  | aggregateFunction word => "aggregate function " ++ word ++ " is not supported by N1QL"

def CompileError.message : CompileError → String
  | invalidTableName table =>
    table.dotted ++ " is not a valid table: expected 1 or 2 segments, got "
      ++ toString table.segments.length
  | unsupported feature => "Unsupported: " ++ feature.message

/-- Refuses a name that cannot be a table's. -/
def TableName.validate (table : TableName) : Compiled Unit :=
  if table.Valid then .ok () else .error (.invalidTableName table)

end N1qlConnector
