import N1qlConnector.CommandLine.Preview
import N1qlConnector.CommandLine.Usage

/-!
# The command line program

Reads arguments, environment and files, and prints what the library makes of them. The network that
the HTTP interface needs is not part of this library, so the command to serve it ends at once.
-/

namespace N1qlConnector.CommandLine

/-- The variables that are set. -/
def readEnvironment : List String → IO (List (String × String))
  | [] => return []
  | name :: rest => do
    let value? ← IO.getEnv name
    let others ← readEnvironment rest
    return (value?.map fun value => (name, value)).toList ++ others

/-- The text of a file, if it can be read. -/
def readFile? (path : String) : IO (Option String) := do
  try return some (← IO.FS.readFile path) catch _ => return none

/-- Prints a report and ends with its exit code. -/
def Report.print (report : Report) : IO UInt32 := do
  IO.print report.output
  IO.eprint report.errors
  return UInt32.ofNat report.exitCode

/-- The report on a task. -/
def Task.run : Task → IO Report
  | .preview options => do
    let request ← readFile? options.request
    let config ← readFile? options.config
    return .ofPreview false (CommandLine.preview request config options.debuggingTags)
  | .serve _ => return ⟨1, "", "error: there is no network to serve\n"⟩

/-- The report on arguments that ask for nothing. -/
def Report.ofMistake (mistake : Mistake) : Report :=
  if mistake.isQuestion then ⟨0, mistake.message, ""⟩ else ⟨2, "", mistake.message⟩

end N1qlConnector.CommandLine

open N1qlConnector.CommandLine in
def main (arguments : List String) : IO UInt32 := do
  let environment ← readEnvironment environmentNames
  match Invocation.ofArguments environment arguments with
  | .ok invocation => (← invocation.task.run).print
  | .error mistake => (Report.ofMistake mistake).print
