import N1qlConnector.Text.Digits

/-!
# Commands and their parameters

A command says which parameters it has: options, which are given by name, and operands, which are
given by their place. What a parameter may be set to is its `Form`.
-/

namespace N1qlConnector.CommandLine

/-- Why arguments do not say what to do. -/
inductive Mistake where
  /-- Help was asked for. -/
  | helpAsked
  /-- The version was asked for. -/
  | versionAsked
  /-- There is nothing to go by at all. -/
  | nothingGiven
  /-- There is no command among the arguments. -/
  | missingCommand
  | unknownCommand
  | unknownArgument
  /-- A value that is not of the form of its parameter. -/
  | invalidValue
  | missingValue
  | repeatedOption
  | missingArgument
  /-- A value for an option that takes none. -/
  | surplusValue
  deriving DecidableEq, Repr

/-- Whether the name of an option is followed by a value. -/
inductive Arity where
  | never
  | optional
  | always
  deriving DecidableEq, Repr

/-- What a parameter may be set to. -/
inductive Form where
  | text
  /-- The path of a file, which is not empty. -/
  | path
  /-- The number of a TCP port. -/
  | portNumber
  /-- A number of 64 bits. -/
  | count
  /-- A text that means yes or no. -/
  | switch
  deriving DecidableEq, Repr

/-- A parameter of a command. -/
structure Parameter where
  name : String
  /-- The letter that stands for the name. -/
  letter : Option Char := none
  arity : Arity := .always
  form : Form := .text
  /-- The variable of the environment that sets the parameter if no argument does. -/
  inEnvironment : Option String := none
  isRequired : Bool := false
  /-- Set if the parameter is a question that ends everything else. -/
  question : Option Mistake := none
  deriving Repr

/-- A command. -/
structure Command where
  options : List Parameter
  operands : List Parameter := []
  /-- The names of the commands that can come next. -/
  commands : List String := []
  deriving Repr

/-! ## Numbers -/

/-- The number of a TCP port. Signs and leading zeros are allowed. -/
def portNumber? (text : String) : Option Nat :=
  let value? : Option Int := match text.toList with
    | '-' :: digits => (Text.readDigits? 10 digits).map fun value => -(value : Int)
    | '+' :: digits => (Text.readDigits? 10 digits).map Int.ofNat
    | digits => (Text.readDigits? 10 digits).map Int.ofNat
  (value?.filter fun value : Int => decide (0 ≤ value) && decide (value < UInt16.size)).map
    Int.toNat

/-- A number of 64 bits. A plus sign and leading zeros are allowed. -/
def countNumber? (text : String) : Option Nat :=
  let value? := match text.toList with
    | '+' :: digits => Text.readDigits? 10 digits
    | digits => Text.readDigits? 10 digits
  value?.filter fun value => decide (value < UInt64.size)

/-- What is wrong with a value. -/
def Form.mistake? : Form → String → Option Mistake
  | text, _ | switch, _ => none
  | path, value => if value.isEmpty then some .missingValue else none
  | portNumber, value => if (portNumber? value).isNone then some .invalidValue else none
  | count, value => if (countNumber? value).isNone then some .invalidValue else none

end N1qlConnector.CommandLine
