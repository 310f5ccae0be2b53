import N1qlConnector.Compile.Error
import N1qlConnector.Config
import N1qlConnector.Format.Record
import N1qlConnector.Store.Error

/-!
# Failures

Whatever goes wrong is a `Failure`, and a failure is a cause. What a caller is told about it is an
`ErrorReport`: a message, whether the failure was unexpected, and details if there are any. A caller
is to blame for a configuration or a document that cannot be read, and for nothing else.
-/

namespace N1qlConnector

/-- Why a request was not served. -/
inductive Failure where
  | compile (cause : CompileError)
  /-- A row statement has more characters than allowed. -/
  | queryTooLong (actual limit : Nat)
  /-- The store could not use an index. -/
  | indexFailure (message : String) (details : Json)
  /-- The store failed for another reason. -/
  | unknown (message : String) (details : Json)
  | config (cause : ConfigError)
  /-- A file could not be read. -/
  | file (cause : String)
  /-- A document could not be read. -/
  | unreadable
  /-- The terminal could not be asked for a password. -/
  | prompt
  | metrics (cause : String)
  deriving Repr

/-- What a caller is told about a failure. -/
structure ErrorReport where
  message : String
  /-- Whether the failure was unexpected. -/
  uncaught : Bool
  details : Option Json
  deriving Repr

namespace ConfigError

/-- What is wrong. How the reader of JSON words its complaint is left open. -/
def message : ConfigError → String
  | missingBucket => "X-Hasura-DataConnector-Config header must specify a bucket"
  | invalidJson => "X-Hasura-DataConnector-Config header is not valid JSON: "
  | invalidEncoding => "X-Hasura-DataConnector-Config header is not valid UTF-8"

end ConfigError

namespace Failure

/-- The failure that an error of a store means. -/
def ofStoreError (error : StoreError) : Failure :=
  if error.isIndexFailure then indexFailure error.message error.details
  else unknown error.message error.details

def message : Failure → String
  | compile cause => cause.message
  | queryTooLong actual limit =>
    "Query too long: " ++ toString actual ++ " characters, the limit is " ++ toString limit
  | indexFailure message _ => "Backend index failure: " ++ message
  | unknown message _ => "Unknown error: " ++ message
  | config cause => "Invalid configuration: " ++ cause.message
  | file cause => "IO error:\n" ++ cause
  | unreadable => "JSON error:\n"
  | prompt => "Error reading data from stdin"
  | metrics cause => "Could not set up metrics: " ++ cause

/-- Whether the caller is to blame. -/
def isClientError : Failure → Bool
  | config _ | unreadable => true
  | _ => false

/-- What helps to understand a failure. -/
def details : Failure → Option Json
  | queryTooLong actual limit => some (.object [("actual", .nat actual), ("limit", .nat limit)])
  | indexFailure _ details | unknown _ details => some details
  | _ => none

/-- Whether nobody expects the failure. Those of an index are expected. -/
def isUncaught : Failure → Bool
  | indexFailure _ _ => false
  | _ => true

/-- What the caller is told. -/
def report (failure : Failure) : ErrorReport where
  message := failure.message
  uncaught := failure.isUncaught
  details := failure.details

end Failure

/-! ## Format -/

namespace ErrorReport

def reader : Reader ErrorReport :=
  Reader.record [["message"], ["type"], ["details"]] fun record =>
    (fun message type details => ⟨message, type.isSome, details⟩)
      <$> record.required "message" (on .string)
      <*> record.optional "type" (on (.oneOf ["uncaught-error"]))
      <*> record.optional "details" (on .json)

def toJson (report : ErrorReport) : Json :=
  .object (("message", .string report.message)
    :: (if report.uncaught then [("type", Json.string "uncaught-error")] else [])
    ++ (report.details.map fun details => ("details", details)).toList)

end ErrorReport

end N1qlConnector
