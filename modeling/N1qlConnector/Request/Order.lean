import N1qlConnector.Format.Record
import N1qlConnector.Request.Operator

/-!
# Orders of a request

A request can ask for rows in the order of some targets. The format also allows targets that lie
behind relationships or are aggregates; a statement can only use plain columns.
-/

namespace N1qlConnector

inductive Direction where
  | ascending
  | descending
  deriving DecidableEq, Repr

/-- What rows are ordered by. -/
inductive OrderTarget where
  | column (column : String)
  | starCount
  | aggregate (column : String) (function : AggregateFunction)
  deriving DecidableEq, Repr

structure OrderElement where
  /-- The relationships that lead to the target. -/
  path : List String := []
  target : OrderTarget
  direction : Direction
  deriving DecidableEq, Repr

structure Order where
  elements : List OrderElement
  /-- Filters along the relationships, not looked at. -/
  relations : Json := .null
  deriving Repr

/-! ## Format -/

namespace Direction

def reader : Reader Direction := fun source found => do
  let word ← Reader.oneOf ["asc", "desc"] source found
  return if word = "asc" then ascending else descending

def word : Direction → String
  | ascending => "asc"
  | descending => "desc"

end Direction

namespace OrderTarget

def tags : List String := ["column", "star_count_aggregate", "single_column_aggregate"]

def reader : Reader OrderTarget := fun source found => do
  let (tag, content) ← Choice.ofLevel tags source found.level
  match tag with
  | "column" =>
    Choice.record content ["column"] fun record =>
      OrderTarget.column <$> record.required "column" (on .string)
  | "star_count_aggregate" => Choice.record content [] fun _ => .ok starCount
  | _ =>
    Choice.record content ["column", "function"] fun record =>
      aggregate <$> record.required "column" (on .string)
        <*> record.required "function" (on (.wordAs AggregateFunction.ofWord))

def toJson : OrderTarget → Json
  | column name => .object [("type", .string "column"), ("column", .string name)]
  | starCount => .object [("type", .string "star_count_aggregate")]
  | aggregate name function =>
    .object [("type", .string "single_column_aggregate"), ("column", .string name),
      ("function", .string function.word)]

end OrderTarget

namespace OrderElement

def reader : Reader OrderElement :=
  Reader.record [["target_path"], ["target"], ["order_direction"]] fun record =>
    OrderElement.mk <$> record.defaulted "target_path" [] (on (.list .string))
      <*> record.required "target" (on OrderTarget.reader)
      <*> record.required "order_direction" (on Direction.reader)

def toJson (element : OrderElement) : Json :=
  .object [("target_path", .array (element.path.map .string)), ("target", element.target.toJson),
    ("order_direction", .string element.direction.word)]

end OrderElement

namespace Order

def reader : Reader Order :=
  Reader.record [["elements"], ["relations"]] fun record =>
    Order.mk <$> record.required "elements" (on (.list OrderElement.reader))
      <*> record.defaulted "relations" .null (on .json)

def toJson (order : Order) : Json :=
  .object (("elements", .array (order.elements.map OrderElement.toJson))
    :: match order.relations with
      | .null => []
      | relations => [("relations", relations)])

end Order

end N1qlConnector
