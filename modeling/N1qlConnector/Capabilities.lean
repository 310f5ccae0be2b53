import N1qlConnector.Json.Basic

/-!
# Capabilities

What the connector can do, and the form of its configuration as a JSON schema. Metrics are named
only when they are served.
-/

namespace N1qlConnector

/-- A property of the configuration that is a text. -/
private def textProperty (description : String) (rest : List (String × Json)) : Json :=
  .object (("description", .string description) :: ("type", .string "string") :: rest)

/-- The form of a reference between documents. -/
private def referenceSchema : Json :=
  .object [
    ("type", .string "object"),
    ("required", .array [.string "field_mapping", .string "target_document"]),
    ("properties", .object [
      ("field_mapping", .object [
        ("type", .string "object"),
        ("additionalProperties", .object [("type", .string "string")])]),
      ("target_document", .object [("type", .string "string")])])]

/-- The form of a kind of document. -/
private def documentSchema : Json :=
  .object [
    ("type", .string "object"),
    ("required", .array [.string "name"]),
    ("properties", .object [
      ("name", .object [("type", .string "string")]),
      ("relations", .object [("type", .string "array"), ("items", referenceSchema)])])]

/-- The form of the configuration. -/
def configSchemas : Json :=
  .object [
    ("config_schema", .object [
      ("type", .string "object"),
      ("nullable", .bool false),
      ("required", .array [.string "bucket"]),
      ("properties", .object [
        ("bucket", textProperty "The Couchbase bucket." []),
        ("scope", textProperty "Scope of collections" [("default", .string "_default")]),
        ("collection",
          textProperty "Collection to make available in the schema and for querying"
            [("default", .string "_default"), ("nullable", .bool true)]),
        ("documents", .object [
          ("description",
            .string "Documents and the references between them, reported as foreign keys"),
          ("type", .string "array"),
          ("nullable", .bool true),
          ("items", .object [("$ref", .string "#/other_schemas/Document")])]),
        ("health_check_strategy",
          textProperty "How /health checks on the cluster"
            [("enum", .array [.string "ping", .string "diagnostic"]), ("nullable", .bool true),
              ("default", .null)])])]),
    ("other_schemas", .object [("Document", documentSchema)])]

/-- Everything the connector can do. -/
def capabilities (metrics : Bool) : Json :=
  .object [
    ("config_schemas", configSchemas),
    ("capabilities", .object ([
      ("data_schema", .object [
        ("supports_primary_keys", .bool false),
        ("supports_foreign_keys", .bool false),
        ("column_nullability", .string "nullable_and_non_nullable")]),
      ("scalar_types", .object [("DateTime", .object [])]),
      ("queries", .object []),
      ("relationships", .object []),
      ("comparisons", .object [
        ("subquery", .object [("supports_relations", .bool true)])]),
      ("explain", .object []),
      ("raw", .object [])]
      ++ if metrics then [("metrics", .object [])] else []))]

end N1qlConnector
