import N1qlConnector.Json.Printer

/-!
# Names in statements

A statement cannot take a name as a parameter, so every name that a caller chose is written between
backticks. Inside, a backslash escapes a backtick and another backslash. The escape keeps texts
apart whatever characters they hold, so no name can end early and go on as something else.

The few values that have to stand in the text itself are written as JSON strings.
-/

namespace N1qlConnector.Statement

/-- How a character stands between backticks. -/
def escapeNameChar (c : Char) : List Char :=
  if c = '\\' then ['\\', '\\'] else if c = '\x60' then ['\\', '\x60'] else [c]

/-- The characters between the backticks. -/
def escapeName (name : List Char) : List Char := name.flatMap escapeNameChar

/-- A name between backticks. -/
def quoteName (name : String) : String :=
  String.ofList ('\x60' :: escapeName name.toList ++ ['\x60'])

@[simp] theorem toList_quoteName (name : String) :
    (quoteName name).toList = '\x60' :: escapeName name.toList ++ ['\x60'] := by
  simp [quoteName]

/-- Where documents are: a collection of a scope of a bucket. -/
structure Keyspace where
  bucket : String
  scope : String
  collection : String
  deriving DecidableEq, Repr

/-- The path of a keyspace. -/
def Keyspace.text (keyspace : Keyspace) : String :=
  quoteName keyspace.bucket ++ "." ++ quoteName keyspace.scope ++ "."
    ++ quoteName keyspace.collection

/-- The context of a statement: the scope in which a store looks for keyspaces that are given
without one. -/
def queryContext (bucket scope : String) : String :=
  "default:" ++ quoteName bucket ++ "." ++ quoteName scope

/-! ## Columns -/

/-- The column that stands for the key of a document. -/
def keyColumn : String := "id"

/-- What a statement says about a row. -/
inductive Reference where
  /-- The key under which the document is stored, which is not part of the document. -/
  | documentKey (rowAlias : String)
  /-- A property of the document. -/
  | property (rowAlias name : String)
  deriving DecidableEq, Repr

namespace Reference

/-- The reference to a column of the row called `rowAlias`. -/
def ofColumn (rowAlias column : String) : Reference :=
  if column = keyColumn then documentKey rowAlias else property rowAlias column

/-- The text of a reference. -/
def text : Reference → String
  | documentKey rowAlias => "META(" ++ quoteName rowAlias ++ ").id"
  | property rowAlias name => quoteName rowAlias ++ "." ++ quoteName name

end Reference

end N1qlConnector.Statement
