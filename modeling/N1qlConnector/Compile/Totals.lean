import N1qlConnector.Compile.Rows

/-!
# Statements for aggregates

The aggregates of a query are computed by a statement of their own, over the rows that the query
selects. If the query asks for a page of them, the statement reads from the documents of that page,
in which the key is a property like any other; the order then decides which rows are on the page.
Otherwise the order makes no difference and is not looked at.
-/

namespace N1qlConnector

open Statement

/-- The function that an aggregate function stands for. -/
def AggregateFunction.compile : AggregateFunction → Compiled TotalFunction
  | .avg => .ok .avg
  | .max => .ok .max
  | .min => .ok .min
  | .sum => .ok .sum
  | .total => .ok .sumOrZero
  | .unknown word => .error (.unsupported (.aggregateFunction word))

/-- An aggregate as a computed value. -/
def Aggregate.compile (rowAlias : String) (paged : Bool) : Aggregate → Compiled Total
  | .starCount => .ok .countRows
  | .columnCount column distinct =>
    .ok (.ofColumn (if distinct then .countDistinct else .count) (reference column))
  | .singleColumn column function _ => do
    return .ofColumn (← function.compile) (reference column)
where
  /-- A column of a document read from the store, or of one that a page holds. -/
  reference (column : String) : Reference :=
    if paged then .property rowAlias column else .ofColumn rowAlias column

/-- All aggregates with their names. -/
def compileAggregates (rowAlias : String) (paged : Bool) (aggregates : List (String × Aggregate)) :
    Compiled (List (String × Total)) :=
  aggregates.mapM fun (name, aggregate) => do
    return (name, ← aggregate.compile rowAlias paged)

/-- The aggregate statement of a query and its parameters; without aggregates there is none. -/
def Query.compileTotals (surroundings : Surroundings) (table : TableName) (scope : Scope)
    (query : Query) : Compiled (Option TotalsSelect × Parameters) := do
  table.validate
  if query.aggregateList.isEmpty then
    return (none, [])
  let (condition, parameters) ← Filter.compileOption scope [] query.filter
  let paged := query.limit.isSome || query.offset.isSome
  let items ← compileAggregates scope.rowAlias paged query.aggregateList
  let order ← if paged then Order.compileOption scope query.order else .ok none
  let rows : RowSet :=
    { source := table.keyspace surroundings.config
      rowAlias := scope.rowAlias
      kind := table.rowAlias
      condition, order
      limit := query.limit
      offset := query.offset }
  return (some ⟨items, rows⟩, parameters)

end N1qlConnector
