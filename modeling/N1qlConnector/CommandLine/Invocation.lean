import N1qlConnector.CommandLine.Reading
import N1qlConnector.CommandLine.Truth

/-!
# Invocations

There are two commands: to serve the HTTP interface, and to show the statements of a request. Both
share the option that says what is logged. It may stand before the command and after it, and the
latter counts.
-/

namespace N1qlConnector.CommandLine

/-- How to serve the HTTP interface. -/
structure ServeOptions where
  portNumber : Nat
  permissiveCors : Bool
  metrics : Bool
  debuggingTags : Bool
  queryLengthLimit : Option Nat
  queryUrl : String
  managementUrl : String
  username : String
  /-- Asked for if it is not given. -/
  password : Option String
  deriving DecidableEq, Repr

/-- Of what to show the statements. -/
structure PreviewOptions where
  /-- The path of the request. -/
  request : String
  /-- The path of the configuration. -/
  config : String
  debuggingTags : Bool
  deriving DecidableEq, Repr

/-- What to do. -/
inductive Task where
  | serve (options : ServeOptions)
  | preview (options : PreviewOptions)
  deriving DecidableEq, Repr

/-- What to do and what to log. -/
structure Invocation where
  logLevel : String
  task : Task
  deriving DecidableEq, Repr

/-! ## The commands -/

/-- The options that every command has. -/
def sharedOptions : List Parameter :=
  [{ name := "log-level", inEnvironment := some "LOG_LEVEL" },
    { name := "help", letter := some 'h', arity := .never, question := some .helpAsked },
    { name := "version", letter := some 'V', arity := .never, question := some .versionAsked }]

/-- The command line as a whole. -/
def rootCommand : Command where
  options := sharedOptions
  commands := ["serve", "translate", "help"]

/-- A switch that can also be set to a value. -/
def switchOption (name inEnvironment : String) : Parameter :=
  { name, inEnvironment := some inEnvironment, arity := .optional, form := .switch }

def serveCommand : Command where
  options :=
    [{ name := "port", letter := some 'p', form := .portNumber, inEnvironment := some "PORT" },
      switchOption "permissive-cors" "PERMISSIVE_CORS",
      switchOption "debugging-tags" "DEBUGGING_TAGS",
      switchOption "metrics" "METRICS",
      { name := "query-length-limit", form := .count, inEnvironment := some "QUERY_LENGTH_LIMIT" },
      { name := "query-url", inEnvironment := some "COUCHBASE_QUERY_URL" },
      { name := "management-url", inEnvironment := some "COUCHBASE_MANAGEMENT_URL" },
      { name := "username", letter := some 'u', inEnvironment := some "COUCHBASE_USERNAME" },
      { name := "password", inEnvironment := some "COUCHBASE_PASSWORD" }]
    ++ sharedOptions

def previewCommand : Command where
  options :=
    [{ name := "config", letter := some 'c', form := .path, isRequired := true },
      { name := "debugging-tags", arity := .never, form := .switch }]
    ++ sharedOptions
  operands := [{ name := "request", form := .path, isRequired := true }]

/-! ## From values to options -/

/-- Whether a switch was turned on. -/
def Given.isOn (given : Given) (name : String) : Bool :=
  ((given.lookup name).map isTruthy).getD false

def ServeOptions.ofGiven (given : Given) : ServeOptions where
  portNumber := ((given.lookup "port").bind portNumber?).getD 8100
  permissiveCors := given.isOn "permissive-cors"
  metrics := given.isOn "metrics"
  debuggingTags := given.isOn "debugging-tags"
  queryLengthLimit := (given.lookup "query-length-limit").bind countNumber?
  queryUrl := (given.lookup "query-url").getD "http://localhost:8093"
  managementUrl := (given.lookup "management-url").getD "http://localhost:8091"
  username := (given.lookup "username").getD "Administrator"
  password := given.lookup "password"

def PreviewOptions.ofGiven (given : Given) : PreviewOptions where
  request := (given.lookup "request").getD ""
  config := (given.lookup "config").getD ""
  debuggingTags := given.isOn "debugging-tags"

/-! ## From arguments to an invocation -/

/-- The mistake of asking for the help of `topics`. The help there is counts as one, too. -/
def helpMistake : List String → Mistake
  | [] => .helpAsked
  | [topic] => if rootCommand.commands.contains topic then .helpAsked else .unknownCommand
  | _ => .unknownCommand

namespace Invocation

/-- What is logged: the word after the command counts before that in front of it, and any argument
before the environment. -/
def logLevelOf (environment : List (String × String)) (outer inner : Given) : String :=
  ((inner.lookup "log-level").or (outer.lookup "log-level")).getD
    ((environment.lookup "LOG_LEVEL").getD "info")

/-- What to do with `arguments` after the name of a command, where `outer` was read before it. The
mistakes of the command come before those in front of it. -/
def ofCommand (environment : List (String × String)) (outer : Reading) (command : Command)
    (task : Given → Task) (arguments : List String) : Except Mistake Invocation := do
  let (inner, full) ← command.read environment arguments
  let outer ← outer.settle
  return ⟨logLevelOf environment outer.given inner, task full⟩

/-- What the arguments, in an environment, ask for. -/
def ofArguments (environment : List (String × String)) (arguments : List String) :
    Except Mistake Invocation := do
  let (outer, next) ← Reading.scan rootCommand { operands := [] } arguments
  match next with
  | some ("serve", rest) =>
    ofCommand environment outer serveCommand (fun given => .serve (.ofGiven given)) rest
  | some ("translate", rest) =>
    ofCommand environment outer previewCommand (fun given => .preview (.ofGiven given)) rest
  | some (_, rest) => throw (helpMistake rest)
  | none =>
    let full ← (← outer.settle).addEnvironment environment rootCommand.options
    throw (if full.given.isEmpty then .nothingGiven else .missingCommand)

end Invocation

end N1qlConnector.CommandLine
