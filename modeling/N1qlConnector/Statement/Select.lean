import N1qlConnector.Request.Order
import N1qlConnector.Statement.Condition

/-!
# Statements that select

`RowSet` says which rows a statement is about: those of one kind in a keyspace that meet a
condition, in some order, or a page of them. `Select` asks for values of each row, `TotalsSelect`
for values computed from all of them. Both say the same of their rows, clause by clause, since they
share the type and its texts.

A `Select` may read from further statements that depend on the row. Each is bound to a name with
`LET`, and where such a statement has nothing to select the name stands for the empty list.

A page of rows is cut before anything is computed from it, so totals of a page read from a statement
of their own, whose rows are the documents with their keys put into them.
-/

namespace N1qlConnector.Statement

/-! ## Rows -/

/-- The rows a statement is about. -/
structure RowSet where
  source : Keyspace
  rowAlias : String
  /-- The kind of documents; several kinds can share a collection. -/
  kind : String
  condition : Option Condition
  order : Option (List (Reference × Direction))
  limit : Option UInt64
  offset : Option UInt64
  deriving Repr

namespace RowSet

def fromText (rows : RowSet) : String :=
  "FROM " ++ rows.source.text ++ " AS " ++ quoteName rows.rowAlias

/-- The condition that tells documents of the kind from others in the collection. -/
def kindTest (rows : RowSet) : String :=
  quoteName rows.rowAlias ++ ".type = " ++ Json.quote rows.kind

def whereText (tags : Tags) (rows : RowSet) : String :=
  let conditions := rows.kindTest :: (rows.condition.map (Condition.text tags)).toList
  tags.tag "where" (clause "WHERE" " AND " conditions)

def directionText : Direction → String
  | .ascending => "ASC"
  | .descending => "DESC"

def orderText (tags : Tags) (rows : RowSet) : String :=
  let elements := (rows.order.getD []).map fun element =>
    element.1.text ++ " " ++ directionText element.2
  tags.tag "order" (clause "ORDER BY" ", " elements)

def limitText (tags : Tags) (rows : RowSet) : String :=
  match rows.limit with
  | some limit => tags.tag "limit" ("LIMIT " ++ toString limit.toNat)
  | none => ""

def offsetText (tags : Tags) (rows : RowSet) : String :=
  match rows.offset with
  | some offset => tags.tag "offset" ("OFFSET " ++ toString offset.toNat)
  | none => ""

/-- Whether only a page of the rows is meant. -/
def isPaged (rows : RowSet) : Bool := rows.limit.isSome || rows.offset.isSome

end RowSet

/-! ## Values of each row -/

/-- A value that is selected. -/
inductive Item where
  | column (reference : Reference)
  /-- A column that is `null` where the document has none. -/
  | columnOrNull (reference : Reference)
  /-- The rows bound to a name, as the only member of an object. -/
  | rows (binding : String)
  deriving DecidableEq, Repr

def Item.text : Item → String
  | column reference => reference.text
  | columnOrNull reference => "IFMISSING(" ++ reference.text ++ ", NULL)"
  | rows binding => "(SELECT * FROM [" ++ quoteName binding ++ "] AS `rows`)[0]"

/-- A statement that selects values of each row. -/
structure Select where
  /-- The values, by the names they get. -/
  items : List (String × Item)
  /-- The names bound to further statements. -/
  bindings : List (String × Option Select)
  rows : RowSet

/-- A selected value with its name. -/
def itemText (item : String × Item) : String := item.2.text ++ " AS " ++ quoteName item.1

/-- The text of a statement. -/
def Select.text (tags : Tags) : Select → String
  | ⟨items, bindings, rows⟩ =>
    joinClauses [
      "SELECT " ++ tags.tag "select_fields" (", ".intercalate (items.map itemText)),
      rows.fromText,
      tags.tag "let" (clause "LET" ", " (bindingTexts tags bindings)),
      rows.whereText tags,
      rows.orderText tags,
      rows.limitText tags,
      rows.offsetText tags]
where
  /-- The texts of all bindings. -/
  bindingTexts (tags : Tags) : List (String × Option Select) → List String
    | [] => []
    | (name, none) :: rest => (quoteName name ++ " = ([])") :: bindingTexts tags rest
    | (name, some select) :: rest =>
      (quoteName name ++ " = (" ++ select.text tags ++ ")") :: bindingTexts tags rest

/-! ## Values of all rows together -/

/-- What can be computed from the values of a column. -/
inductive TotalFunction where
  | count
  | countDistinct
  | avg
  | max
  | min
  | sum
  /-- The sum, or zero where there is none. -/
  | sumOrZero
  deriving DecidableEq, Repr

/-- A value computed from all rows. -/
inductive Total where
  | countRows
  | ofColumn (function : TotalFunction) (column : Reference)
  deriving DecidableEq, Repr

def Total.text : Total → String
  | countRows => "COUNT(*)"
  | ofColumn .count column => "COUNT(" ++ column.text ++ ")"
  | ofColumn .countDistinct column => "COUNT(DISTINCT " ++ column.text ++ ")"
  | ofColumn .avg column => "AVG(" ++ column.text ++ ")"
  | ofColumn .max column => "MAX(" ++ column.text ++ ")"
  | ofColumn .min column => "MIN(" ++ column.text ++ ")"
  | ofColumn .sum column => "SUM(" ++ column.text ++ ")"
  | ofColumn .sumOrZero column => "IFMISSINGORNULL(SUM(" ++ column.text ++ "), 0)"

/-- A statement that selects values computed from all rows. -/
structure TotalsSelect where
  /-- The values, by the names they get. -/
  items : List (String × Total)
  rows : RowSet
  deriving Repr

/-- A computed value with its name. -/
def totalText (item : String × Total) : String := item.2.text ++ " AS " ++ quoteName item.1

/-- The statement that selects a page of documents with their keys in them. -/
def RowSet.documentsText (tags : Tags) (rows : RowSet) : String :=
  let rowAlias := quoteName rows.rowAlias
  joinClauses [
    "SELECT RAW OBJECT_PUT(" ++ rowAlias ++ ", " ++ Json.quote keyColumn ++ ", META(" ++ rowAlias
      ++ ").id)",
    rows.fromText,
    rows.whereText tags,
    rows.orderText tags,
    rows.limitText tags,
    rows.offsetText tags]

/-- The text of a statement. -/
def TotalsSelect.text (tags : Tags) (select : TotalsSelect) : String :=
  let rows := select.rows
  let opening :=
    "SELECT " ++ tags.tag "aggregate_fields" (", ".intercalate (select.items.map totalText))
  if rows.isPaged then
    joinClauses [opening,
      "FROM (" ++ rows.documentsText tags ++ ") AS " ++ quoteName rows.rowAlias]
  else
    joinClauses [opening, rows.fromText, rows.whereText tags]

end N1qlConnector.Statement
