import N1qlConnector.Format.Record
import N1qlConnector.Request.TableName

/-!
# Relationships between tables

A request declares the relationships that its query follows: for each source table the names it
knows, where they lead, whether to one row or to many, and which columns of the two rows agree.
-/

namespace N1qlConnector

/-- Whether a relationship leads to one row at most, or to any number of rows. -/
inductive Cardinality where
  | object
  | array
  deriving DecidableEq, Repr

structure Relationship where
  target : TableName
  cardinality : Cardinality
  /-- Columns of the source row, each with the column of the target row that equals it. -/
  columnMapping : Entries String
  deriving DecidableEq, Repr

/-- The relationships that start at one table. -/
structure TableRelationships where
  source : TableName
  relationships : Entries Relationship
  deriving DecidableEq, Repr

/-! ## Format -/

namespace Cardinality

def reader : Reader Cardinality := fun source found => do
  let word ← Reader.oneOf ["object", "array"] source found
  return if word = "object" then object else array

def word : Cardinality → String
  | object => "object"
  | array => "array"

end Cardinality

/-- A map from texts to texts as a value. -/
def Entries.textsToJson (entries : Entries String) : Json :=
  .object (entries.map fun entry => (entry.1, .string entry.2))

namespace Relationship

def reader : Reader Relationship :=
  Reader.record [["target_table"], ["relationship_type"], ["column_mapping"]] fun record =>
    Relationship.mk <$> record.required "target_table" (on TableName.reader)
      <*> record.required "relationship_type" (on Cardinality.reader)
      <*> record.required "column_mapping" (on (.entries .string))

def toJson (relationship : Relationship) : Json :=
  .object [("target_table", relationship.target.toJson),
    ("relationship_type", .string relationship.cardinality.word),
    ("column_mapping", relationship.columnMapping.textsToJson)]

end Relationship

namespace TableRelationships

def reader : Reader TableRelationships :=
  Reader.record [["source_table"], ["relationships"]] fun record =>
    TableRelationships.mk <$> record.required "source_table" (on TableName.reader)
      <*> record.required "relationships" (on (.entries Relationship.reader))

def toJson (declared : TableRelationships) : Json :=
  .object [("source_table", declared.source.toJson),
    ("relationships",
      .object (declared.relationships.map fun entry => (entry.1, entry.2.toJson)))]

end TableRelationships

end N1qlConnector
