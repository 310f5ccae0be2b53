import N1qlConnector.Run

/-!
# Showing the statements of a request

A request and a configuration are read from files, compiled, and shown: each statement under a
heading, with its parameters below. Both files are read before either is looked at, and the request
is looked at first.
-/

namespace N1qlConnector.CommandLine

/-- A statement under its heading. -/
structure Section where
  title : String
  statement : Prepared
  deriving Repr

/-- What a program leaves behind. -/
structure Report where
  exitCode : Nat
  output : String
  errors : String
  deriving DecidableEq, Repr

/-! ## From files to sections -/

/-- The text of a file, if there is such a file. -/
def fileText : Option String → Except Failure String
  | some text => .ok text
  | none => .error (.file "No such file or directory (os error 2)")

/-- The statements of a request. Empty ones are not shown. -/
def preview (request config : Option String) (debuggingTags : Bool) :
    Except Failure (List Section) := do
  let request ← fileText request
  let config ← fileText config
  let request ← (Request.reader.ofText request).mapError fun _ => Failure.unreadable
  let config ← (Config.ofHeader (some config)).mapError Failure.config
  let compiled ← (request.compile config { debuggingTags }).mapError Failure.compile
  return [⟨"query", compiled.rows⟩, ⟨"aggregate query", compiled.totals⟩].filter
    fun part => !part.statement.isEmpty

/-! ## Showing -/

/-- A text in bold print, if the terminal has colors. -/
def bold (color : Bool) (text : String) : String :=
  if color then "\x1b[1m" ++ text ++ "\x1b[0m" else text

/-- A text in bold red print, if the terminal has colors. -/
def alarming (color : Bool) (text : String) : String :=
  if color then "\x1b[1;31m" ++ text ++ "\x1b[0m" else text

/-- A section as it is shown. Parameters are shown if there are any. -/
def Section.render (color : Bool) (part : Section) : String :=
  bold color ("-- " ++ part.title) ++ "\n" ++ part.statement.text ++ "\n" ++
    match part.statement.parameters with
    | [] => ""
    | parameters => bold color "-- parameters" ++ "\n" ++ (Json.object parameters).pretty ++ "\n"

/-- What is left behind after a failure. -/
def Report.ofFailure (color : Bool) (failure : Failure) : Report :=
  ⟨1, "", alarming color "error" ++ ": " ++ failure.message ++ "\n"⟩

/-- What is left behind after a preview. -/
def Report.ofPreview (color : Bool) : Except Failure (List Section) → Report
  | .ok sections => ⟨0, "".intercalate (sections.map (Section.render color)), ""⟩
  | .error failure => .ofFailure color failure

end N1qlConnector.CommandLine
