import N1qlConnector.Format.Record
import N1qlConnector.Request.Operator

/-!
# Aggregates of a request

An aggregate is one value computed from all rows that a query selects.
-/

namespace N1qlConnector

inductive Aggregate where
  /-- How many rows there are. -/
  | starCount
  /-- How many values a column has, or how many different ones. -/
  | columnCount (column : String) (distinct : Bool)
  | singleColumn (column : String) (function : AggregateFunction) (resultType : Option String)
  deriving DecidableEq, Repr

namespace Aggregate

def tags : List String := ["star_count", "column_count", "single_column"]

def reader : Reader Aggregate := fun source found => do
  let (tag, content) ← Choice.ofLevel tags source found.level
  match tag with
  | "star_count" => Choice.record content [] fun _ => .ok starCount
  | "column_count" =>
    Choice.record content ["column", "distinct"] fun record =>
      columnCount <$> record.required "column" (on .string)
        <*> record.defaulted "distinct" false (on .bool)
  | _ =>
    Choice.record content ["column", "function", "result_type"] fun record =>
      singleColumn <$> record.required "column" (on .string)
        <*> record.required "function" (on (.wordAs AggregateFunction.ofWord))
        <*> record.optional "result_type" (on .string)

def toJson : Aggregate → Json
  | starCount => .object [("type", .string "star_count")]
  | columnCount column distinct =>
    .object [("type", .string "column_count"), ("column", .string column),
      ("distinct", .bool distinct)]
  | singleColumn column function resultType =>
    .object ([("type", .string "single_column"), ("column", .string column),
      ("function", .string function.word)]
      ++ (resultType.map fun type => ("result_type", Json.string type)).toList)

end Aggregate

end N1qlConnector
