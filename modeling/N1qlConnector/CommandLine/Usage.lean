import N1qlConnector.CommandLine.Invocation

/-!
# What to say about arguments

Who asks for help or the version gets an answer. Who made a mistake is told which one, on the
channel for errors and with an exit code of its own.
-/

namespace N1qlConnector.CommandLine

def version : String := "0.1.0"

def usage : String :=
  "Usage: n1ql-connector [OPTIONS] <COMMAND>\n\n"
    ++ "Commands:\n"
    ++ "  serve      Runs the data connector HTTP API\n"
    ++ "  translate  Compiles a query request to N1QL without running it\n"
    ++ "  help       Prints this message\n"

namespace Mistake

/-- Whether the mistake is none, but a question. -/
def isQuestion : Mistake → Bool
  | helpAsked | versionAsked => true
  | _ => false

def message : Mistake → String
  | helpAsked | nothingGiven => usage
  | versionAsked => "n1ql-connector " ++ version ++ "\n"
  | missingCommand => "error: a command is missing\n\n" ++ usage
  | unknownCommand => "error: there is no such command\n\n" ++ usage
  | unknownArgument => "error: unexpected argument\n\n" ++ usage
  | invalidValue => "error: invalid value\n\n" ++ usage
  | missingValue => "error: a value is required\n\n" ++ usage
  | repeatedOption => "error: an option cannot be used more than once\n\n" ++ usage
  | missingArgument => "error: a required argument was not given\n\n" ++ usage
  | surplusValue => "error: unexpected value\n\n" ++ usage

end Mistake

/-- The variables of the environment that set parameters. -/
def environmentNames : List String :=
  (serveCommand.options ++ previewCommand.options).filterMap (·.inEnvironment)

end N1qlConnector.CommandLine
