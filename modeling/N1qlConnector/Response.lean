import N1qlConnector.Request.Relationship

/-!
# Responses

What the connector answers to requests that succeed: rows and aggregates, plans of statements, the
answer to a caller's own statement, and the tables of a bucket.
-/

namespace N1qlConnector

/-- A row of an answer. -/
abbrev Row := Entries Json

/-- The answer to a query. -/
structure QueryResponse where
  rows : List Row
  aggregates : Option Row
  deriving Repr

/-- The plans of a query's statements. -/
structure ExplainResponse where
  /-- The statements themselves. -/
  query : String
  lines : List String
  deriving DecidableEq, Repr

/-- The answer to a caller's own statement. -/
structure RawResponse where
  rows : List Json
  deriving Repr

/-- A column of a table. -/
structure ColumnInfo where
  name : String
  nullable : Bool
  type : String
  deriving DecidableEq, Repr

/-- A reference from one table to another. -/
structure ForeignKey where
  /-- Columns of the table, each with the column of the other table that it names. -/
  columnMapping : Entries String
  foreignTable : TableName
  deriving DecidableEq, Repr

structure TableInfo where
  name : TableName
  columns : List ColumnInfo
  primaryKey : List String
  foreignKeys : Entries ForeignKey
  deriving DecidableEq, Repr

/-- The tables of a bucket. -/
structure SchemaResponse where
  tables : List TableInfo
  deriving DecidableEq, Repr

/-! ## Format -/

namespace Row

/-- A row is an object. -/
def reader : Reader Row := Reader.entries Reader.json

end Row

namespace QueryResponse

def reader : Reader QueryResponse :=
  Reader.record [["rows"], ["aggregates"]] fun record =>
    QueryResponse.mk <$> record.required "rows" (on (.list Row.reader))
      <*> record.optional "aggregates" (on Row.reader)

def toJson (response : QueryResponse) : Json :=
  .object (("rows", .array (response.rows.map .object))
    :: (response.aggregates.map fun row => ("aggregates", Json.object row)).toList)

end QueryResponse

namespace ExplainResponse

def reader : Reader ExplainResponse :=
  Reader.record [["query"], ["lines"]] fun record =>
    ExplainResponse.mk <$> record.required "query" (on .string)
      <*> record.required "lines" (on (.list .string))

def toJson (response : ExplainResponse) : Json :=
  .object [("query", .string response.query), ("lines", .array (response.lines.map .string))]

end ExplainResponse

namespace RawResponse

def reader : Reader RawResponse :=
  Reader.record [["rows"]] fun record =>
    RawResponse.mk <$> record.required "rows" (on (.list .json))

def toJson (response : RawResponse) : Json := .object [("rows", .array response.rows)]

end RawResponse

namespace ColumnInfo

def reader : Reader ColumnInfo :=
  Reader.record [["name"], ["nullable"], ["type"]] fun record =>
    ColumnInfo.mk <$> record.required "name" (on .string)
      <*> record.required "nullable" (on .bool)
      <*> record.required "type" (on .string)

def toJson (column : ColumnInfo) : Json :=
  .object [("name", .string column.name), ("nullable", .bool column.nullable),
    ("type", .string column.type)]

end ColumnInfo

namespace ForeignKey

def reader : Reader ForeignKey :=
  Reader.record [["column_mapping"], ["foreign_table"]] fun record =>
    ForeignKey.mk <$> record.required "column_mapping" (on (.entries .string))
      <*> record.required "foreign_table" (on TableName.reader)

def toJson (key : ForeignKey) : Json :=
  .object [("column_mapping", key.columnMapping.textsToJson),
    ("foreign_table", key.foreignTable.toJson)]

end ForeignKey

namespace TableInfo

def reader : Reader TableInfo :=
  Reader.record [["name"], ["columns"], ["primary_key"], ["foreign_keys"]] fun record =>
    TableInfo.mk <$> record.required "name" (on TableName.reader)
      <*> record.required "columns" (on (.list ColumnInfo.reader))
      <*> record.required "primary_key" (on (.list .string))
      <*> record.required "foreign_keys" (on (.entries ForeignKey.reader))

def toJson (table : TableInfo) : Json :=
  .object [("name", table.name.toJson), ("columns", .array (table.columns.map ColumnInfo.toJson)),
    ("primary_key", .array (table.primaryKey.map .string)),
    ("foreign_keys", .object (table.foreignKeys.map fun entry => (entry.1, entry.2.toJson)))]

end TableInfo

namespace SchemaResponse

def reader : Reader SchemaResponse :=
  Reader.record [["tables"]] fun record =>
    SchemaResponse.mk <$> record.required "tables" (on (.list TableInfo.reader))

def toJson (response : SchemaResponse) : Json :=
  .object [("tables", .array (response.tables.map TableInfo.toJson))]

end SchemaResponse

end N1qlConnector
