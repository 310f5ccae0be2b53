import N1qlConnector.CommandLine.Command

/-!
# Reading arguments

The arguments of a command are read from left to right. An option stands behind two hyphens with its
name, or behind one with its letter, and letters can follow each other. Its value is attached to it
or is the next argument, unless that looks like an option itself. After two hyphens alone everything
is an operand.

The value that may still follow an option is the reason why an option is accepted only when the next
argument has been seen: until then it is pending. An argument that is out of place is reported
before anything that is wrong with the pending option.

Where no argument sets a parameter the environment does, and where neither does the parameter keeps
its default.
-/

namespace N1qlConnector.CommandLine

/-- The values that parameters were set to. -/
abbrev Given := List (String × String)

/-- How far the arguments of a command have been read. -/
structure Reading where
  given : Given := []
  /-- The parameter read last, and its value if that has been read as well. -/
  pending : Option (Parameter × Option String) := none
  /-- Whether only operands follow. -/
  trailing : Bool := false
  /-- The operands that have not been read. -/
  operands : List Parameter
  deriving Repr

namespace Reading

/-- Whether the pending option may still get a value. -/
def isAwaiting (reading : Reading) : Bool :=
  match reading.pending with
  | some (_, none) => true
  | _ => false

/-- Sets a parameter. A switch that is given without a value is on. -/
def accept (reading : Reading) (parameter : Parameter) (value? : Option String) :
    Except Mistake Reading :=
  match parameter.question with
  | some question => .error question
  | none =>
    if parameter.arity = .always && value?.isNone then .error .missingValue
    else if (reading.given.lookup parameter.name).isSome then .error .repeatedOption
    else
      let value := value?.getD "true"
      match parameter.form.mistake? value with
      | some mistake => .error mistake
      | none => .ok { reading with given := reading.given ++ [(parameter.name, value)] }

/-- Accepts what is pending. -/
def settle (reading : Reading) : Except Mistake Reading :=
  match reading.pending with
  | none => .ok reading
  | some (parameter, value?) => { reading with pending := none }.accept parameter value?

/-- Sets a parameter once what is pending has been accepted. -/
def settleAndAccept (reading : Reading) (parameter : Parameter) (value? : Option String) :
    Except Mistake Reading := do
  (← reading.settle).accept parameter value?

/-- Leaves a parameter pending once what was pending has been accepted. -/
def settleAndWait (reading : Reading) (parameter : Parameter) (value? : Option String) :
    Except Mistake Reading := do
  return { ← reading.settle with pending := some (parameter, value?) }

/-! ## Arguments -/

/-- Reads an option that is given by name, perhaps with a value after an equals sign. -/
def readName (command : Command) (reading : Reading) (text : List Char) :
    Except Mistake Reading :=
  let name := text.takeWhile (· != '=')
  let value? := (text.drop name.length).tail?.map String.ofList
  match command.options.find? (·.name == String.ofList name) with
  | none => .error .unknownArgument
  | some option =>
    match option.arity, value? with
    | .never, some _ => .error .surplusValue
    | .never, none => reading.settleAndAccept option none
    | _, some value => reading.settleAndAccept option (some value)
    | _, none => reading.settleAndWait option none

/-- Reads options that are given by their letters. The last one may have a value attached. -/
def readLetters (command : Command) (reading : Reading) : List Char → Except Mistake Reading
  | [] => .ok reading
  | letter :: rest =>
    match command.options.find? (·.letter == some letter) with
    | none => .error .unknownArgument
    | some option =>
      if option.arity = .never then do
        readLetters command (← reading.settleAndAccept option none) rest
      else
        match rest with
        | [] => reading.settleAndWait option none
        | '=' :: value => reading.settleAndAccept option (some (String.ofList value))
        | value => reading.settleAndAccept option (some (String.ofList value))

/-- Reads the next operand. A command that expects another command has none. -/
def readOperand (command : Command) (reading : Reading) (text : String) :
    Except Mistake Reading :=
  match reading.operands with
  | operand :: rest => { reading with operands := rest }.settleAndWait operand (some text)
  | [] =>
    if command.commands.isEmpty || (reading.trailing && command.commands.contains text) then
      .error .unknownArgument
    else .error .unknownCommand

/-- Reads one argument. -/
def step (command : Command) (reading : Reading) (text : String) : Except Mistake Reading :=
  if reading.trailing then readOperand command reading text
  else
    match text.toList with
    | ['-', '-'] => .ok { reading with trailing := true }
    | '-' :: '-' :: option => readName command reading option
    | '-' :: letter :: rest => readLetters command reading (letter :: rest)
    | _ =>
      match reading.pending with
      | some (option, none) => .ok { reading with pending := some (option, some text) }
      | _ => readOperand command reading text

/-- Reads arguments up to the name of another command. The answer holds that name and what follows
it. -/
def scan (command : Command) (reading : Reading) :
    List String → Except Mistake (Reading × Option (String × List String))
  | [] => .ok (reading, none)
  | text :: rest =>
    if !reading.trailing && !reading.isAwaiting && command.commands.contains text then
      .ok (reading, some (text, rest))
    else do
      scan command (← step command reading text) rest

/-! ## What no argument sets -/

/-- Sets what the environment sets and no argument does. -/
def addEnvironment (environment : List (String × String)) (reading : Reading) :
    List Parameter → Except Mistake Reading
  | [] => .ok reading
  | parameter :: rest => do
    let value? := parameter.inEnvironment.bind fun name => environment.lookup name
    let reading ← match reading.given.lookup parameter.name, value? with
      | none, some value => reading.accept parameter (some value)
      | _, _ => .ok reading
    addEnvironment environment reading rest

/-- Refuses to go on without a required parameter. -/
def checkRequired (command : Command) (reading : Reading) : Except Mistake Unit :=
  let required := (command.operands ++ command.options).filter (·.isRequired)
  if required.all fun parameter => (reading.given.lookup parameter.name).isSome then .ok ()
  else .error .missingArgument

end Reading

/-- Reads the arguments of a command that no other command follows. The answer tells what arguments
set from what the environment sets besides. -/
def Command.read (command : Command) (environment : List (String × String))
    (arguments : List String) : Except Mistake (Given × Given) := do
  let (reading, _) ← Reading.scan command { operands := command.operands } arguments
  let reading ← reading.settle
  let full ← reading.addEnvironment environment command.options
  full.checkRequired command
  return (reading.given, full.given)

end N1qlConnector.CommandLine
