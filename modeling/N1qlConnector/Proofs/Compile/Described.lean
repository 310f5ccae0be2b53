import N1qlConnector.Compile
import N1qlConnector.Proofs.Statement.Outline
import N1qlConnector.Proofs.Statement.Spelling

/-!
# What requests describe

The trees and values that a request asks for, without a word about how they are written or in which
order they are found. These are the things that compiled statements are compared with.

* `Query.described` is the tree of the statement for the rows of a query, with values where the
  statement has parameters.
* `Query.listed` lists the values themselves: in each query that has fields the values of its filter
  from left to right, then those of its relationship fields, one after the other. With each value
  stand the name that its parameter should have and the comparison it belongs to.

Both follow the relationships that the request declares. What a request asks for and no statement
can say, such as an undeclared relationship, adds nothing: requests like that do not compile.
-/

namespace N1qlConnector

open Statement

/-! ## Operators that every caller knows -/

def Comparison.isBuiltIn : Comparison → Bool
  | .exists _ => true
  | .unary operator _ => operator.isBuiltIn
  | .binary operator _ _ => operator.isBuiltIn
  | .array operator _ _ _ => operator.isBuiltIn

def Filter.isBuiltIn (filter : Filter) : Bool := filter.atoms.all Comparison.isBuiltIn

mutual

/-- Whether all filters, at whatever depth, have operators that every caller knows. -/
def Query.isBuiltIn : Query → Bool
  | ⟨none, _, filter, _, _, _⟩ => filter.all Filter.isBuiltIn
  | ⟨some fields, _, filter, _, _, _⟩ => filter.all Filter.isBuiltIn && areBuiltIn fields

/-- The same for all fields. -/
def areBuiltIn : List (String × Field) → Bool
  | [] => true
  | (_, .column _ _) :: rest => areBuiltIn rest
  | (_, .relationship _ query) :: rest => query.isBuiltIn && areBuiltIn rest

end

/-! ## Filters -/

/-- Whether a column belongs to the row that is being filtered. -/
def Column.isCurrent (column : Column) : Bool := column.path.getD [] = []

/-- What a column refers to, in the row that is being filtered or in the one around it. -/
def Column.described (scope : Scope) (column : Column) : Reference :=
  .ofColumn (if column.isCurrent then scope.rowAlias else scope.enclosing) column.name

/-- A comparison with its value. No statement asks for rows of other tables, so what a filter says of
them is taken not to hold. -/
def Comparison.described (scope : Scope) : Comparison → Predicate Json
  | .exists _ => .compare (.number 1) .equal (.number 0)
  | .unary _ column => .isNull (.reference (column.described scope))
  | .binary operator column (.column other) =>
    .compare (.reference (column.described scope)) operator (.reference (other.described scope))
  | .binary operator column (.scalar value _) =>
    .compare (.reference (column.described scope)) operator (.parameter value)
  | .array _ column values _ =>
    .isIn (.reference (column.described scope)) (.parameter (.array values))

/-- A value to be bound, with what it is for. -/
structure Listed where
  /-- The name proposed for the parameter, not yet a bare word. -/
  proposal : String
  value : Json
  /-- The comparison with the value. -/
  predicate : Predicate Json

namespace Listed

/-- What is bound. -/
def entry (listed : Listed) : String × Json := (listed.proposal, listed.value)

/-- The comparison with the parameter that holds the value. -/
def named (listed : Listed) (name : String) : Predicate String :=
  listed.predicate.map fun _ => name

end Listed

def Comparison.listed (scope : Scope) (stem : String) : Comparison → List Listed
  | .binary operator column (.scalar value type) =>
    [⟨stem ++ column.name, value,
      Comparison.described scope (.binary operator column (.scalar value type))⟩]
  | .array operator column values type =>
    [⟨stem ++ column.name, .array values,
      Comparison.described scope (.array operator column values type)⟩]
  | _ => []

namespace Filter

/-- The values of a filter. Every connective around a value shows in the name of its parameter. -/
def listed (scope : Scope) (stem : String) : Filter → List Listed
  | .atom comparison => comparison.listed scope stem
  | .not part => listed scope (stem ++ "not_") part
  | .all parts => listedEach scope (stem ++ "and_") parts
  | .any parts => listedEach scope (stem ++ "or_") parts
where
  /-- The values of all parts. -/
  listedEach (scope : Scope) (stem : String) : List Filter → List Listed
    | [] => []
    | part :: rest => listed scope stem part ++ listedEach scope stem rest

/-- The values of a filter that may be absent. -/
def listedOption (scope : Scope) (stem : String) (filter : Option Filter) : List Listed :=
  (filter.map (listed scope stem)).getD []

/-- The condition that a filter asks for. -/
def described (scope : Scope) (filter : Filter) : Formula (Predicate Json) :=
  asWritten (Comparison.described scope) filter

end Filter

/-! ## Queries -/

/-- Where the documents of a table are: in the bucket of the configuration, and in the scope and
collection that the segments of its name say, if there are any. -/
def TableName.described (config : Config) (table : TableName) : Keyspace where
  bucket := config.bucket
  scope := table.segments.headD config.scope
  collection := table.segments.tail.headD config.collection

/-- The item of a field: a column, which is `null` in place of missing in nested queries, or the
rows that a relationship leads to. -/
def Field.described (scope : Scope) (field : String) : Field → Item
  | .column name _ =>
    if name = keyColumn then .column (.documentKey scope.rowAlias)
    else if scope.ancestors = [] then .column (.property scope.rowAlias name)
    else .columnOrNull (.property scope.rowAlias name)
  | .relationship _ _ => .rows ("l" ++ field)

/-- The columns of the rows themselves that an order names. -/
def OrderElement.described (scope : Scope) (element : OrderElement) :
    Option (Reference × Direction) :=
  match element.target, element.path with
  | .column column, [] => some (.ofColumn scope.rowAlias column, element.direction)
  | _, _ => none

/-- The condition of the rows that a relationship leads to: what the query of these rows asks for,
and the columns that have to agree with the row that the relationship starts from. -/
def Relationship.described (relationship : Relationship) (inner : Scope) (own : Option Filter) :
    Formula (Predicate Json) :=
  combined .all 1 ((own.map (Filter.described inner)).toList ++
    relationship.columnMapping.map fun columns =>
      .atom (.compare (.reference (.ofColumn inner.rowAlias columns.2)) .equal
        (.reference (.ofColumn inner.enclosing columns.1))))

/-- How many rows are read: one, where a relationship leads to one. -/
def Relationship.describedLimit (relationship : Relationship) (own : Option UInt64) : Option Nat :=
  if relationship.cardinality = .object then some 1 else own.map UInt64.toNat

mutual

/-- The tree that a query asks for, with its condition and limit given apart. A query without fields
asks for none. -/
def Query.describedWith (surroundings : Surroundings) (table : TableName) (scope : Scope)
    (condition : Option (Formula (Predicate Json))) (limit : Option Nat) :
    Query → Option (Outline Json)
  | ⟨none, _, _, _, _, _⟩ => none
  | ⟨some [], _, _, _, _, _⟩ => none
  | ⟨some (field :: fields), _, _, _, offset, order⟩ =>
    some {
      items := (field :: fields).map fun named => (named.1, named.2.described scope named.1)
      source := table.described surroundings.config
      rowAlias := scope.rowAlias
      bindings := describedBindings surroundings table scope (field :: fields)
      condition := some (gather .all (.atom (.compare
        (.reference (.property scope.rowAlias "type")) .equal (.text table.rowAlias))
          :: condition.toList))
      order := (order.map fun order =>
        order.elements.filterMap (OrderElement.described scope)).getD []
      limit
      offset := offset.map UInt64.toNat }

/-- The names and trees of all relationship fields. -/
def describedBindings (surroundings : Surroundings) (table : TableName) (scope : Scope) :
    List (String × Field) → List (String × Option (Outline Json))
  | [] => []
  | (_, .column _ _) :: rest => describedBindings surroundings table scope rest
  | (name, .relationship relationship query) :: rest =>
    match surroundings.catalogue.find? table relationship with
    | none => describedBindings surroundings table scope rest
    | some relationship =>
      let inner := scope.nested relationship.target name
      ("l" ++ name, query.describedWith surroundings relationship.target inner
        (some (relationship.described inner query.filter))
        (relationship.describedLimit query.limit))
      :: describedBindings surroundings table scope rest

end

mutual

/-- The values of a query with fields, the given ones first. -/
def Query.listedWith (surroundings : Surroundings) (table : TableName) (scope : Scope)
    (own : List Listed) : Query → List Listed
  | ⟨none, _, _, _, _, _⟩ => []
  | ⟨some [], _, _, _, _, _⟩ => []
  | ⟨some (field :: fields), _, _, _, _, _⟩ =>
    own ++ listedFields surroundings table scope (field :: fields)

/-- The values of all relationship fields. The filter of such a field counts as part of a
conjunction. -/
def listedFields (surroundings : Surroundings) (table : TableName) (scope : Scope) :
    List (String × Field) → List Listed
  | [] => []
  | (_, .column _ _) :: rest => listedFields surroundings table scope rest
  | (name, .relationship relationship query) :: rest =>
    match surroundings.catalogue.find? table relationship with
    | none => listedFields surroundings table scope rest
    | some relationship =>
      let inner := scope.nested relationship.target name
      query.listedWith surroundings relationship.target inner
        (Filter.listedOption inner (inner.stem ++ "and_") query.filter)
      ++ listedFields surroundings table scope rest

end

namespace Query

theorem describedWith_of_fieldList_eq_nil {surroundings : Surroundings} {table : TableName}
    {scope : Scope} {condition : Option (Formula (Predicate Json))} {limit : Option Nat}
    {query : Query} (h : query.fieldList = []) :
    query.describedWith surroundings table scope condition limit = none := by
  obtain ⟨fields, aggregates, filter, ownLimit, offset, order⟩ := query
  rcases fields_of_fieldList_eq_nil h with hNone | hNil
  · obtain rfl := hNone
    rw [describedWith]
  · obtain rfl := hNil
    rw [describedWith]

theorem listedWith_of_fieldList_eq_nil {surroundings : Surroundings} {table : TableName}
    {scope : Scope} {own : List Listed} {query : Query} (h : query.fieldList = []) :
    query.listedWith surroundings table scope own = [] := by
  obtain ⟨fields, aggregates, filter, limit, offset, order⟩ := query
  rcases fields_of_fieldList_eq_nil h with hNone | hNil
  · obtain rfl := hNone
    rw [listedWith]
  · obtain rfl := hNil
    rw [listedWith]

/-- The tree that a query asks for. -/
def described (surroundings : Surroundings) (table : TableName) (scope : Scope) (query : Query) :
    Option (Outline Json) :=
  query.describedWith surroundings table scope (query.filter.map (Filter.described scope))
    (query.limit.map UInt64.toNat)

/-- All values of a query. -/
def listed (surroundings : Surroundings) (table : TableName) (scope : Scope) (query : Query) :
    List Listed :=
  query.listedWith surroundings table scope (Filter.listedOption scope scope.stem query.filter)

end Query

/-- The tree of the row statement that a request asks for. -/
def Request.described (request : Request) (config : Config) : Option (Outline Json) :=
  request.query.described (request.surroundings config) request.table (.root request.table)

/-- All values that a request compares with in its row statement. -/
def Request.listed (request : Request) (config : Config) : List Listed :=
  request.query.listed (request.surroundings config) request.table (.root request.table)

end N1qlConnector
