import N1qlConnector.Request.Relationship

/-!
# The catalogue of relationships

All relationships that a request declares, by source table and name. Where the same one is declared
more than once the last declaration counts.
-/

namespace N1qlConnector

/-- The declared relationships, the last one first. -/
structure Catalogue where
  declarations : List (TableName × String × Relationship)
  deriving Repr

namespace Catalogue

/-- The catalogue of what a request declares. -/
def ofDeclared (declared : List TableRelationships) : Catalogue where
  declarations := (declared.flatMap fun table =>
    table.relationships.map fun entry => (table.source, entry.1, entry.2)).reverse

/-- The relationship that a table knows by a name. -/
def find? (catalogue : Catalogue) (table : TableName) (name : String) : Option Relationship :=
  (catalogue.declarations.find? fun declaration =>
    declaration.1 = table && declaration.2.1 = name).map fun declaration => declaration.2.2

end Catalogue

end N1qlConnector
