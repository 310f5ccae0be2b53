import N1qlConnector.Request.Relationship

/-!
# Configuration

Every request comes with a configuration in one of its headers: the bucket to work on, the scope and
collection to fall back to, and the documents that live in it with their references to each other.
Settings, in contrast, hold for the whole process.

Only the bucket has to be given, but a configuration without one is not a mistake everywhere: a
health check may run without. A header that cannot be read always is.
-/

namespace N1qlConnector

/-- How a health check asks for the state of the cluster. -/
inductive HealthCheck where
  | ping
  | diagnostic
  deriving DecidableEq, Repr

/-- A reference from one kind of document to another. -/
structure DocumentReference where
  /-- Fields of the document, each with the field of the target that it names. -/
  fieldMapping : Entries String
  target : String
  deriving DecidableEq, Repr

/-- A kind of document, with the references its documents hold. -/
structure DocumentKind where
  name : String
  references : List DocumentReference
  deriving DecidableEq, Repr

/-- The configuration of a request. -/
structure Config where
  bucket : String
  scope : String
  collection : String
  documents : List DocumentKind
  healthCheck : Option HealthCheck
  deriving DecidableEq, Repr

/-- What can be wrong with a configuration. -/
inductive ConfigError where
  | missingBucket
  | invalidJson
  | invalidEncoding
  deriving DecidableEq, Repr

/-- What holds for all requests. -/
structure Settings where
  /-- Whether statements are tagged with what made their parts. -/
  debuggingTags : Bool := false
  /-- How many characters a row statement may have; any number if absent. -/
  queryLengthLimit : Option Nat := none
  deriving DecidableEq, Repr

namespace Config

/-- The scope and the collection that a bucket has without further ado. -/
def defaultName : String := "_default"

/-- A bucket, and defaults for all else. -/
def ofBucket (bucket : String) : Config := ⟨bucket, defaultName, defaultName, [], none⟩

/-- The kind of document that a table holds: the first declared one whose name means the table. -/
def documentKind (config : Config) (table : TableName) : Option DocumentKind :=
  config.documents.find? fun document => table.matchesDotted document.name

end Config

/-! ## Format -/

namespace HealthCheck

def reader : Reader HealthCheck := fun source found => do
  let word ← Reader.oneOf ["ping", "diagnostic"] source found
  return if word = "ping" then ping else diagnostic

def word : HealthCheck → String
  | ping => "ping"
  | diagnostic => "diagnostic"

end HealthCheck

namespace DocumentReference

def reader : Reader DocumentReference :=
  Reader.record [["field_mapping"], ["target_document"]] fun record =>
    DocumentReference.mk <$> record.required "field_mapping" (on (.entries .string))
      <*> record.required "target_document" (on .string)

def toJson (reference : DocumentReference) : Json :=
  .object [("field_mapping", reference.fieldMapping.textsToJson),
    ("target_document", .string reference.target)]

end DocumentReference

namespace DocumentKind

/-- References may also be called `references`. -/
def reader : Reader DocumentKind :=
  Reader.record [["name"], ["relations", "references"]] fun record =>
    DocumentKind.mk <$> record.required "name" (on .string)
      <*> record.defaulted "relations" [] (on (.list DocumentReference.reader))

def toJson (document : DocumentKind) : Json :=
  .object [("name", .string document.name),
    ("relations", .array (document.references.map DocumentReference.toJson))]

end DocumentKind

namespace Config

/-- The names of the parts; the last one has two older spellings. -/
def names : List (List String) :=
  [["bucket"], ["scope"], ["collection"], ["documents"],
    ["health_check_strategy", "healtCheckStrategy", "healthCheckStrategy"]]

/-- Reads a configuration; without a bucket there is none. -/
def reader : Reader (Option Config) :=
  Reader.record names fun record =>
    (fun bucket scope collection documents healthCheck =>
      bucket.map fun bucket =>
        ⟨bucket, scope.getD defaultName, collection.getD defaultName, documents.getD [],
          healthCheck⟩)
      <$> record.nullable "bucket" (on .string)
      <*> record.nullable "scope" (on .string)
      <*> record.nullable "collection" (on .string)
      <*> record.optional "documents" (on (.list DocumentKind.reader))
      <*> record.optional "health_check_strategy" (on HealthCheck.reader)

/-- The configuration in a header, if it names a bucket. A missing header is an empty object. -/
def ofHeader? (header : Option String) : Except ConfigError (Option Config) :=
  match reader.ofText (header.getD "\x7b\x7d") with
  | .ok config => .ok config
  | .error _ => .error .invalidJson

/-- The configuration in a header, which has to name a bucket. -/
def ofHeader (header : Option String) : Except ConfigError Config :=
  match ofHeader? header with
  | .ok (some config) => .ok config
  | .ok none => .error .missingBucket
  | .error cause => .error cause

def toJson (config : Config) : Json :=
  .object [("bucket", .string config.bucket), ("scope", .string config.scope),
    ("collection", .string config.collection),
    ("documents", .array (config.documents.map DocumentKind.toJson)),
    ("health_check_strategy",
      match config.healthCheck with
      | none => .null
      | some strategy => .string strategy.word)]

end Config

end N1qlConnector
