import N1qlConnector.Request.Aggregate
import N1qlConnector.Request.Filter
import N1qlConnector.Request.Order
import N1qlConnector.Request.Relationship

/-!
# Queries

A query asks for fields of the rows it selects. A field is a column, or a relationship together with
a query of the rows it leads to, so queries nest. `Request` adds the table and the relationships;
`RawRequest` is a statement that the caller wrote.

Whether a part of a query was left out can be seen when the query is written down again, so absent
fields and no fields at all are told apart.
-/

namespace N1qlConnector

mutual

/-- A field of a row. -/
inductive Field where
  | column (column : String) (columnType : Option String)
  | relationship (relationship : String) (query : Query)

/-- What is asked of the rows of a table. -/
structure Query where
  fields : Option (List (String × Field))
  aggregates : Option (List (String × Aggregate))
  filter : Option Filter
  limit : Option UInt64
  offset : Option UInt64
  order : Option Order

end

namespace Query

/-- The fields by the names they have in a row of the answer. -/
def fieldList (query : Query) : List (String × Field) := query.fields.getD []

/-- The aggregates by the names they have in the answer. -/
def aggregateList (query : Query) : List (String × Aggregate) := query.aggregates.getD []

/-- The query that asks for nothing. -/
instance : Inhabited Query := ⟨⟨none, none, none, none, none, none⟩⟩

end Query

/-- A query of a table, with the relationships it may follow. -/
structure Request where
  table : TableName
  relationships : List TableRelationships
  query : Query

/-- A statement to run as it is. -/
structure RawRequest where
  statement : String
  deriving DecidableEq, Repr

/-! ## Reading -/

namespace Query

/-- The ways in which a level of a text can be read. -/
structure Readings where
  query : Source → Read Query
  fields : Source → Read (List (String × Field))
  field : Source → Read Field

/-- Reads a level as a field. -/
def fieldOfLevel (level : Written.Level (Written.Part Readings)) (source : Source) :
    Read Field := do
  let (tag, content) ← Choice.ofLevel ["column", "relationship"] source level
  if tag = "column" then
    Choice.record content ["column", "column_type"] fun record =>
      Field.column <$> record.required "column" (on .string)
        <*> record.optional "column_type" (on .string)
  else
    Choice.record content ["relationship", "query"] fun record =>
      Field.relationship <$> record.required "relationship" (on .string)
        <*> record.required "query" fun source part => part.result.query source

/-- The names of a query's parts. -/
def names : List (List String) :=
  [["fields"], ["aggregates"], ["where"], ["limit"], ["offset"], ["order_by"]]

/-- Reads a level as a query. -/
def ofLevel (level : Written.Level (Written.Part Readings)) (source : Source) : Read Query := do
  let record ← Record.ofLevel source names level
  record.finish <|
    Query.mk <$> record.optional "fields" (fun source part => part.result.fields source)
      <*> record.optional "aggregates" (on (.entries Aggregate.reader))
      <*> record.optional "where" (on Filter.reader)
      <*> record.optional "limit" (on .word)
      <*> record.optional "offset" (on .word)
      <*> record.optional "order_by" (on Order.reader)

/-- All readings of a level. -/
def readings (level : Written.Level (Written.Part Readings)) : Readings where
  query := ofLevel level
  fields := fun source => level.entries fun part => part.result.field source
  field := fieldOfLevel level

def reader : Reader Query := fun source found => (found.recurse readings).query source

end Query

namespace Field

def reader : Reader Field := fun source found => (found.recurse Query.readings).field source

end Field

namespace Request

def reader : Reader Request :=
  Reader.record [["table"], ["table_relationships"], ["query"]] fun record =>
    Request.mk <$> record.required "table" (on TableName.reader)
      <*> record.defaulted "table_relationships" [] (on (.list TableRelationships.reader))
      <*> record.required "query" (on Query.reader)

end Request

namespace RawRequest

def reader : Reader RawRequest :=
  Reader.record [["query"]] fun record => RawRequest.mk <$> record.required "query" (on .string)

end RawRequest

/-! ## Writing -/

/-- A value for an absent part. -/
def Json.ofOption {α : Type} (toJson : α → Json) : Option α → Json
  | none => .null
  | some value => toJson value

mutual

/-- All parts of a query, absent ones as `null`. -/
def Query.toJson : Query → Json
  | ⟨fields, aggregates, filter, limit, offset, order⟩ =>
    .object [
      ("fields", match fields with
        | none => .null
        | some fields => .object (fieldsToJson fields)),
      ("aggregates", Json.ofOption (fun entries =>
        .object (entries.map fun entry => (entry.1, entry.2.toJson))) aggregates),
      ("where", Json.ofOption Filter.toJson filter),
      ("limit", Json.ofOption (fun n => Json.nat n.toNat) limit),
      ("offset", Json.ofOption (fun n => Json.nat n.toNat) offset),
      ("order_by", Json.ofOption Order.toJson order)]

def Field.toJson : Field → Json
  | .column column columnType =>
    .object ([("type", .string "column"), ("column", .string column)]
      ++ (columnType.map fun type => ("column_type", Json.string type)).toList)
  | .relationship relationship query =>
    .object [("type", .string "relationship"), ("relationship", .string relationship),
      ("query", query.toJson)]

/-- The fields as members. -/
def fieldsToJson : List (String × Field) → List (String × Json)
  | [] => []
  | (name, field) :: rest => (name, field.toJson) :: fieldsToJson rest

end

def Request.toJson (request : Request) : Json :=
  .object [("table", request.table.toJson),
    ("table_relationships", .array (request.relationships.map TableRelationships.toJson)),
    ("query", request.query.toJson)]

def RawRequest.toJson (request : RawRequest) : Json :=
  .object [("query", .string request.statement)]

end N1qlConnector
