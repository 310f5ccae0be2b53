import N1qlConnector.Compile.Error
import N1qlConnector.Compile.Scope
import N1qlConnector.Request.Filter
import N1qlConnector.Statement.Condition

/-!
# From filters to conditions

A filter becomes a condition of the same shape. Columns become references to rows by their aliases,
and each value is bound to a parameter on the way, from left to right. The name of a parameter
starts with the stem of the scope, goes on with a word for every connective around the comparison,
and ends with the name of the column, so that in most statements a reader can tell which value it
holds.
-/

namespace N1qlConnector

open Statement

/-- The reference that a column stands for. -/
def Column.compile (scope : Scope) (column : Column) : Compiled Reference :=
  match column.path.getD [] with
  | [] => .ok (.ofColumn scope.rowAlias column.name)
  | path =>
    if path = ["$"] then .ok (.ofColumn scope.enclosing column.name)
    else .error (.unsupported (.columnPath column.name path))

/-- A comparison as a test, after binding its value. -/
def Comparison.compile (scope : Scope) (stem : String) (parameters : Parameters) :
    Comparison → Compiled (Test × Parameters)
  | .exists _ => .error (.unsupported .existsFilter)
  | .unary operator column => do
    let left ← column.compile scope
    return (.unary left operator, parameters)
  | .binary operator column (.column other) => do
    let left ← column.compile scope
    let right ← other.compile scope
    return (.binary left operator (.reference right), parameters)
  | .binary operator column (.scalar value _) => do
    let left ← column.compile scope
    let (name, parameters) := bind parameters (stem ++ column.name) value
    return (.binary left operator (.placeholder name), parameters)
  | .array operator column values _ => do
    let left ← column.compile scope
    let (name, parameters) := bind parameters (stem ++ column.name) (.array values)
    return (.array left operator name, parameters)

namespace Filter

/-- A filter as a condition, after binding all its values. -/
def compile (scope : Scope) (stem : String) (parameters : Parameters) :
    Filter → Compiled (Condition × Parameters)
  | .atom comparison => do
    let (test, parameters) ← comparison.compile scope stem parameters
    return (.atom test, parameters)
  | .not part => do
    let (condition, parameters) ← compile scope (stem ++ "not_") parameters part
    return (.not condition, parameters)
  | .all parts => do
    let (conditions, parameters) ← compileEach scope (stem ++ "and_") parameters parts
    return (.all conditions, parameters)
  | .any parts => do
    let (conditions, parameters) ← compileEach scope (stem ++ "or_") parameters parts
    return (.any conditions, parameters)
where
  /-- All parts of a combination. -/
  compileEach (scope : Scope) (stem : String) (parameters : Parameters) :
      List Filter → Compiled (List Condition × Parameters)
    | [] => .ok ([], parameters)
    | part :: rest => do
      let (condition, parameters) ← compile scope stem parameters part
      let (conditions, parameters) ← compileEach scope stem parameters rest
      return (condition :: conditions, parameters)

/-- A filter that may be absent, with parameters that begin with the stem of its scope. -/
def compileOption (scope : Scope) (parameters : Parameters) :
    Option Filter → Compiled (Option Condition × Parameters)
  | none => .ok (none, parameters)
  | some filter => do
    let (condition, parameters) ← filter.compile scope scope.stem parameters
    return (some condition, parameters)

end Filter

end N1qlConnector
