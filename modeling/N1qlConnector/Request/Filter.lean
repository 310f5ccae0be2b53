import N1qlConnector.Format.Record
import N1qlConnector.Request.Formula
import N1qlConnector.Request.Operator

/-!
# Filters of a request

A filter combines comparisons of columns. A column belongs to the row that is being filtered, or, if
its path is `["$"]`, to the row of the enclosing query.

The format of a filter nests in itself, so it is read by `Written.recurse`: every level of the text
is read both as a filter and as a list of filters, and the level above takes what it needs.
-/

namespace N1qlConnector

/-- A column in a comparison. -/
structure Column where
  name : String
  columnType : Option String := none
  /-- The way to the row of the column: absent or empty for the current row. -/
  path : Option (List String) := none
  deriving DecidableEq, Repr, Inhabited

/-- What a column is compared with. -/
inductive Operand where
  | column (column : Column)
  | scalar (value : Json) (valueType : Option String)
  deriving Repr

/-- A comparison, the atom of a filter. -/
inductive Comparison where
  /-- Whether related rows exist. No statement can ask this. -/
  | exists (inTable : Json)
  | unary (operator : UnaryOperator) (column : Column)
  | binary (operator : BinaryOperator) (column : Column) (operand : Operand)
  | array (operator : ArrayOperator) (column : Column) (values : List Json)
      (valueType : Option String)
  deriving Repr

/-- A combination of comparisons. -/
abbrev Filter := Formula Comparison

/-! ## Columns and operands -/

namespace Column

/-- A column of the current row. -/
def ofCurrent (name : String) : Column := { name }

/-- A column of the enclosing query's row. -/
def ofEnclosing (name : String) : Column := { name, path := some ["$"] }

def reader : Reader Column :=
  Reader.record [["name"], ["column_type"], ["path"]] fun record =>
    Column.mk <$> record.required "name" (on .string)
      <*> record.optional "column_type" (on .string)
      <*> record.optional "path" (on (.list .string))

def toJson (column : Column) : Json :=
  .object (("name", .string column.name)
    :: (column.columnType.map fun type => ("column_type", Json.string type)).toList
    ++ (column.path.map fun path => ("path", Json.array (path.map .string))).toList)

end Column

namespace Operand

def reader : Reader Operand := fun source found => do
  let (tag, content) ← Choice.ofLevel ["column", "scalar"] source found.level
  if tag = "column" then
    Choice.record content ["column"] fun record =>
      .column <$> record.required "column" (on Column.reader)
  else
    Choice.record content ["value", "value_type"] fun record =>
      .scalar <$> record.required "value" (on .json)
        <*> record.optional "value_type" (on .string)

def toJson : Operand → Json
  | .column named => .object [("type", .string "column"), ("column", named.toJson)]
  | .scalar value valueType =>
    .object (("type", .string "scalar") :: ("value", value)
      :: (valueType.map fun type => ("value_type", Json.string type)).toList)

end Operand

/-! ## Filters -/

namespace Filter

/-- The ways in which a level of a text can be read. -/
structure Readings where
  filter : Source → Read Filter
  filters : Source → Read (List Filter)

/-- The tags of filters. -/
def tags : List String :=
  ["and", "or", "not", "exists", "unary_op", "binary_op", "binary_arr_op"]

/-- Reads a level as a filter. -/
def ofLevel (level : Written.Level (Written.Part Readings)) (source : Source) : Read Filter := do
  let (tag, content) ← Choice.ofLevel tags source level
  let parts (record : Record (Written.Part Readings)) : Outcome (List Filter) :=
    record.required "expressions" fun source part => part.result.filters source
  match tag with
  | "and" => Choice.record content ["expressions"] fun record => .all <$> parts record
  | "or" => Choice.record content ["expressions"] fun record => .any <$> parts record
  | "not" =>
    Choice.record content ["expression"] fun record =>
      .not <$> record.required "expression" fun source part => part.result.filter source
  | "exists" =>
    Choice.record content ["in_table"] fun record =>
      (fun table => .atom (.exists table)) <$> record.defaulted "in_table" .null (on .json)
  | "unary_op" =>
    Choice.record content ["operator", "column"] fun record =>
      (fun operator column => .atom (.unary operator column))
        <$> record.required "operator" (on (.wordAs UnaryOperator.ofWord))
        <*> record.required "column" (on Column.reader)
  | "binary_op" =>
    Choice.record content ["operator", "column", "value"] fun record =>
      (fun operator column operand => .atom (.binary operator column operand))
        <$> record.required "operator" (on (.wordAs BinaryOperator.ofWord))
        <*> record.required "column" (on Column.reader)
        <*> record.required "value" (on Operand.reader)
  | _ =>
    Choice.record content ["operator", "column", "values", "value_type"] fun record =>
      (fun operator column values type => .atom (.array operator column values type))
        <$> record.required "operator" (on (.wordAs ArrayOperator.ofWord))
        <*> record.required "column" (on Column.reader)
        <*> record.required "values" (on (.list .json))
        <*> record.optional "value_type" (on .string)

/-- Both readings of a level. -/
def readings (level : Written.Level (Written.Part Readings)) : Readings where
  filter := ofLevel level
  filters := fun source => level.list fun part => part.result.filter source

def reader : Reader Filter := fun source found =>
  (found.recurse readings).filter source

def comparisonToJson : Comparison → Json
  | .exists table => .object [("type", .string "exists"), ("in_table", table)]
  | .unary operator column =>
    .object [("type", .string "unary_op"), ("operator", .string operator.word),
      ("column", column.toJson)]
  | .binary operator column operand =>
    .object [("type", .string "binary_op"), ("operator", .string operator.word),
      ("column", column.toJson), ("value", operand.toJson)]
  | .array operator column values valueType =>
    .object ([("type", .string "binary_arr_op"), ("operator", .string operator.word),
      ("column", column.toJson), ("values", .array values)]
      ++ (valueType.map fun type => ("value_type", Json.string type)).toList)

def toJson : Filter → Json
  | .atom comparison => comparisonToJson comparison
  | .not part => .object [("type", .string "not"), ("expression", toJson part)]
  | .all parts => .object [("type", .string "and"), ("expressions", .array (eachToJson parts))]
  | .any parts => .object [("type", .string "or"), ("expressions", .array (eachToJson parts))]
where
  /-- All parts of a combination. -/
  eachToJson : List Filter → List Json
    | [] => []
    | part :: rest => toJson part :: eachToJson rest

end Filter

end N1qlConnector
