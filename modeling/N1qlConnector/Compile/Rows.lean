import N1qlConnector.Compile.Catalogue
import N1qlConnector.Compile.Filter
import N1qlConnector.Config
import N1qlConnector.Request.Query
import N1qlConnector.Statement.Select

/-!
# Row statements

A query becomes a statement with an item for every field. A relationship field reads from a
statement of its own, bound to the name of the field with an `l` before it; that statement is
compiled from the field's query in a nested scope, with the columns of the relationship as further
conditions. All statements that nest in one another share their parameters. The filter is compiled
before the fields, so that the parameters of the outer query get the plainest names.

A query without fields has no statement, whatever else it asks for; only its table is looked at.
-/

namespace N1qlConnector

open Statement

/-- What stays the same while a request is compiled. -/
structure Surroundings where
  config : Config
  catalogue : Catalogue

/-! ## Clauses -/

/-- Where the documents of a table are. What its name leaves open the configuration fills in. -/
def TableName.keyspace (config : Config) (table : TableName) : Keyspace where
  bucket := config.bucket
  scope := table.segments[0]?.getD config.scope
  collection := table.segments[1]?.getD config.collection

/-- The reference and direction of an order. -/
def OrderElement.compile (scope : Scope) (element : OrderElement) :
    Compiled (Reference × Direction) :=
  match element.target, element.path with
  | .column column, [] => .ok (.ofColumn scope.rowAlias column, element.direction)
  | _, _ => .error (.unsupported .orderTarget)

/-- The references and directions of an order that may be absent. -/
def Order.compileOption (scope : Scope) :
    Option Order → Compiled (Option (List (Reference × Direction)))
  | none => .ok none
  | some order => some <$> order.elements.mapM (OrderElement.compile scope)

/-- A column as an item. Rows of a nested query are not looked at again, so there a column that a
document lacks has to come out as `null` by itself. -/
def Scope.item (scope : Scope) (column : String) : Item :=
  let reference := Reference.ofColumn scope.rowAlias column
  if scope.isNested && column != keyColumn then .columnOrNull reference else .column reference

/-- The name that a relationship field's rows are bound to. -/
def bindingName (field : String) : String := "l" ++ field

/-! ## Relationships -/

/-- The condition that ties the rows of a relationship to the row it starts from. -/
def Relationship.correlations (relationship : Relationship) : List Filter :=
  relationship.columnMapping.map fun columns =>
    .atom (.binary .equal (.ofCurrent columns.2) (.column (.ofEnclosing columns.1)))

/-- The filter of a relationship field: its own, and the columns that have to agree. -/
def Relationship.filter (relationship : Relationship) (own : Option Filter) : Filter :=
  .all (own.toList ++ relationship.correlations)

/-- How many rows a relationship field reads: one, if the relationship leads to one. -/
def Relationship.limit (relationship : Relationship) (own : Option UInt64) : Option UInt64 :=
  match relationship.cardinality with
  | .object => some 1
  | .array => own

/-- The relationship that a field follows. -/
def Surroundings.relationship (surroundings : Surroundings) (table : TableName) (name : String) :
    Compiled Relationship :=
  match surroundings.catalogue.find? table name with
  | some relationship => .ok relationship
  | none => .error (.unsupported (.undeclaredRelationship name table))

/-! ## Statements -/

/-- The parts of a statement that fields contribute to. -/
structure Projection where
  items : List (String × Item)
  bindings : List (String × Option Select)

mutual

/-- The statement of a query, after binding all its values. The query's filter and limit are given
apart, since a relationship changes them. -/
def Query.compileWith (surroundings : Surroundings) (table : TableName) (scope : Scope)
    (filter : Option Filter) (limit : Option UInt64) (parameters : Parameters) :
    Query → Compiled (Option Select × Parameters)
  | ⟨none, _, _, _, _, _⟩ => do
    table.validate
    return (none, parameters)
  | ⟨some [], _, _, _, _, _⟩ => do
    table.validate
    return (none, parameters)
  | ⟨some (field :: fields), _, _, _, offset, order⟩ => do
    table.validate
    let (condition, parameters) ← Filter.compileOption scope parameters filter
    let (projection, parameters) ←
      compileFields surroundings table scope parameters (field :: fields)
    let order ← Order.compileOption scope order
    let rows : RowSet :=
      { source := table.keyspace surroundings.config
        rowAlias := scope.rowAlias
        kind := table.rowAlias
        condition, order, limit, offset }
    return (some ⟨projection.items, projection.bindings, rows⟩, parameters)

/-- What the fields of a query contribute, one after the other. -/
def compileFields (surroundings : Surroundings) (table : TableName) (scope : Scope)
    (parameters : Parameters) : List (String × Field) → Compiled (Projection × Parameters)
  | [] => .ok (⟨[], []⟩, parameters)
  | (name, .column column _) :: rest => do
    let (projection, parameters) ← compileFields surroundings table scope parameters rest
    return (⟨(name, scope.item column) :: projection.items, projection.bindings⟩, parameters)
  | (name, .relationship relationship query) :: rest => do
    let relationship ← surroundings.relationship table relationship
    if !query.aggregateList.isEmpty then
      throw (.unsupported (.nestedAggregates name))
    let (select, parameters) ←
      query.compileWith surroundings relationship.target (scope.nested relationship.target name)
        (some (relationship.filter query.filter)) (relationship.limit query.limit) parameters
    let (projection, parameters) ← compileFields surroundings table scope parameters rest
    return (⟨(name, .rows (bindingName name)) :: projection.items,
      (bindingName name, select) :: projection.bindings⟩, parameters)

end

/-- The row statement of a query and its parameters. -/
def Query.compileRows (surroundings : Surroundings) (table : TableName) (scope : Scope)
    (query : Query) : Compiled (Option Select × Parameters) :=
  query.compileWith surroundings table scope query.filter query.limit []

end N1qlConnector
