import N1qlConnector.Run

/-!
# The tables of a bucket

Documents have no schema, so the store is asked to infer one for every collection. Its answer is a
list of flavors, groups of documents that look alike, and a table is made of the first one. A
collection for which this fails is left out; that the scopes cannot be listed is a failure.

Keys between tables are not inferred. They come from the references that the configuration declares.
-/

namespace N1qlConnector

open Statement

/-! ## Columns -/

/-- The type of a property of which nothing but `null` is known. -/
def fallbackType : String := "string"

/-- Type and nullability of a property, from the types that were inferred: a single one, or a list
of which one may be `null`. -/
def propertyType : Option Json → String × Bool
  | some (.string single) => (single, false)
  | some (.array types) =>
    let types := types.filterMap Json.string?
    ((types.find? (· != "null")).getD fallbackType, types.contains "null")
  | _ => (fallbackType, true)

/-- The column of the document key, which every table has. -/
def ColumnInfo.documentKey : ColumnInfo := ⟨keyColumn, false, "string"⟩

/-- The columns of a flavor. A property called like the document key is hidden by it. -/
def columnsOfFlavor (flavor : Json) : List ColumnInfo :=
  let properties := match flavor.member? "properties" with
    | some (.object members) => members
    | _ => []
  .documentKey :: (properties.filter (·.1 != keyColumn)).map fun property =>
    let (type, nullable) := propertyType (property.2.member? "type")
    ⟨property.1, nullable, type⟩

/-! ## Foreign keys -/

/-- The segments of a dotted name. -/
def splitDots : List Char → List (List Char)
  | [] => [[]]
  | c :: rest =>
    match splitDots rest with
    | [] => [[c]]
    | segment :: segments =>
      if c = '.' then [] :: segment :: segments else (c :: segment) :: segments

/-- The table that a dotted name means. -/
def TableName.ofDotted (name : String) : TableName :=
  ⟨(splitDots name.toList).map String.ofList⟩

/-- The foreign keys of a table: one for every reference of its kind of document. -/
def declaredKeys (config : Config) (table : TableName) : Entries ForeignKey :=
  match config.documentKind table with
  | none => []
  | some document =>
    Entries.ofPairs <| document.references.map fun reference =>
      (table.dotted ++ " -> " ++ reference.target,
        ⟨reference.fieldMapping, .ofDotted reference.target⟩)

/-! ## Tables -/

/-- The table made of a flavor. -/
def TableInfo.ofFlavor (config : Config) (name : TableName) (flavor : Json) : TableInfo :=
  ⟨name, columnsOfFlavor flavor, [keyColumn], declaredKeys config name⟩

/-- The statement that infers the schema of a collection. -/
def inferStatement (bucket scope collection : String) : String :=
  "INFER " ++ Keyspace.text ⟨bucket, scope, collection⟩

/-- The first flavor in the answer to an inference: its only row is the list of all of them. -/
def firstFlavor? : List Json → Option Json
  | .array (flavor :: _) :: _ => some flavor
  | _ => none

/-- Adds the table of a collection, unless there is one already or it cannot be inferred. -/
def inferTable (config : Config) (tables : List TableInfo) (scope collection : String) :
    Session (List TableInfo) := do
  let name : TableName := ⟨[scope, collection]⟩
  if tables.any (·.name == name) then return tables
  let answer ← Session.call
    (.query (inferStatement config.bucket scope collection) [] config.context)
  match answer with
  | .error _ => return tables
  | .ok rows =>
    match firstFlavor? rows with
    | none => return tables
    | some flavor => return tables ++ [.ofFlavor config name flavor]

/-- Infers the tables of all collections, one after the other. -/
def inferTables (config : Config) : List TableInfo → List (String × String) →
    Session (List TableInfo)
  | tables, [] => return tables
  | tables, (scope, collection) :: rest => do
    inferTables config (← inferTable config tables scope collection) rest

/-- Scope and collection of everything that was listed. -/
def ScopeListing.pairs (scopes : List ScopeListing) : List (String × String) :=
  scopes.flatMap fun scope => scope.collections.map fun collection => (scope.name, collection)

/-- The tables of the configured bucket. -/
def Config.inferSchema (config : Config) : Attempt SchemaResponse := do
  let scopes ← Attempt.ofAnswer (Session.call (.listScopes config.bucket))
  let tables ← (inferTables config [] (ScopeListing.pairs scopes) : Session _)
  return ⟨tables⟩

end N1qlConnector
