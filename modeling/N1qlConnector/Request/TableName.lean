import N1qlConnector.Format.Reader
import N1qlConnector.Text.Lowercase

/-!
# Names of tables

A table is a scope of a bucket or a collection in a scope, so its name has one or two segments.
Names of other lengths can be written in a request; they are refused when the request is compiled.

One name has three texts. `TableName.dotted` is for people. `TableName.rowAlias` is the lower case
form of all segments, and serves both as the alias of the table in a statement and as the kind that
its documents carry. `TableName.matchesDotted` compares with a name somebody wrote in a
configuration, where the case of letters does not count.
-/

namespace N1qlConnector

/-- The segments of a table's name: scope and, if there is a second one, collection. -/
structure TableName where
  segments : List String
  deriving DecidableEq, Repr, Inhabited

namespace TableName

/-- The lower case segments joined with underscores. -/
def rowAlias (table : TableName) : String := "_".intercalate (table.segments.map Text.lower)

/-- The segments joined with dots. -/
def dotted (table : TableName) : String := ".".intercalate table.segments

/-- Whether a dotted name means this table, in whatever case it is written. -/
def matchesDotted (table : TableName) (name : String) : Bool :=
  Text.lower table.dotted == Text.lower name

/-- A name that can be a table's. -/
def Valid (table : TableName) : Prop := table.segments.length = 1 ∨ table.segments.length = 2

instance (table : TableName) : Decidable table.Valid :=
  inferInstanceAs (Decidable (table.segments.length = 1 ∨ table.segments.length = 2))

/-! ## Format -/

/-- A name is written as the list of its segments. -/
def reader : Reader TableName := fun source found =>
  TableName.mk <$> Reader.list Reader.string source found

def toJson (table : TableName) : Json := .array (table.segments.map .string)

end TableName

end N1qlConnector
