import N1qlConnector.Response

/-!
# Shaping rows

Documents have no schema, so a store leaves out of a row what a document does not have. A caller
gets every field it asked for, in the order in which it asked, `null` where the store had nothing;
what the store sent beyond that comes after, in the store's order.
-/

namespace N1qlConnector

/-- A value of a store's answer as a row. What is no object becomes the only member of one. -/
def Row.ofJson : Json → Row
  | .object members => members
  | value => [("value", value)]

/-- A row with a `null` for every field. -/
def Row.ofNames (names : List String) : Row :=
  Entries.ofPairs (names.map fun name => (name, .null))

/-- A row in which every field has a place. -/
def Row.shape (names : List String) (row : Row) : Row := Entries.extend (Row.ofNames names) row

/-- The answer made up of a store's rows. -/
def QueryResponse.shape (names : List String) (rows : List Row) (aggregates : Option Row) :
    QueryResponse :=
  ⟨rows.map (Row.shape names), aggregates⟩

end N1qlConnector
