import N1qlConnector.Format.Value

/-!
# Readers of single values, lists and maps

A `Reader` takes a written value apart. The readers here never convert: a number is not read from a
string, an integer not from a number with a point, and `null` only where a value may be absent.

Lists and maps are read in the order of the text, so the first fault is the one reported; that the
closing bracket is missing comes after the faults of all parts.
-/

namespace N1qlConnector

/-- Reads a value of type `α`. -/
abbrev Reader (α : Type) := Source → Written → Read α

/-- What has a written form: a text, or a part of one that something was found out about. -/
class HasWritten (α : Type) where
  written : α → Written

export HasWritten (written)

instance : HasWritten Written := ⟨id⟩

instance {α : Type} : HasWritten (Written.Part α) := ⟨Written.Part.written⟩

/-! ## Levels -/

namespace Written.Level

variable {α β : Type}

/-- Reads every item in turn. -/
def list (item : α → Read β) : Level α → Read (List β)
  | .array items closed => do
    let found ← items.mapM item
    if closed then return found else throw .malformed
  | .tooDeep false => throw .malformed
  | level => throw level.unexpected

/-- Reads the members in turn. A key that is repeated keeps its place and takes the new value. -/
def entries (value : α → Read β) : Level α → Read (Entries β)
  | .object members closed => do
    let found ← members.mapM fun (key, part) =>
      match key with
      | some key => return (key, ← value part)
      | none => throw .malformed
    if closed then return Entries.ofPairs found else throw .malformed
  | .tooDeep true => throw .malformed
  | level => throw level.unexpected

end Written.Level

/-! ## Readers -/

namespace Reader

variable {α : Type}

/-- Any text. -/
def string : Reader String := fun _ found =>
  match found with
  | .string (some value) => return value
  | found => throw found.level.unexpected

/-- A natural number that fits 64 bits. -/
def word : Reader UInt64 := fun _ found =>
  match found with
  | .number (some (.integer value)) =>
    if 0 ≤ value ∧ value < UInt64.size then return UInt64.ofNat value.toNat else throw .mismatch
  | found => throw found.level.unexpected

def bool : Reader Bool := fun _ found =>
  match found with
  | .bool value => return value
  | found => throw found.level.unexpected

/-- Any value at all. -/
def json : Reader Json := Written.read

/-- A value that `null` stands in for when it is absent. -/
def optional (reader : Reader α) : Reader (Option α) := fun source found =>
  match found with
  | .null => return none
  | found => some <$> reader source found

def list (item : Reader α) : Reader (List α) := fun source found =>
  found.level.list (item source)

def entries (value : Reader α) : Reader (Entries α) := fun source found =>
  found.level.entries (value source)

/-- One of a few words. It may also stand as the only key of an object whose value is `null`. -/
def oneOf (words : List String) : Reader String := fun source found =>
  let odd := source.surplus
  match found with
  | .string (some word) => if word ∈ words then return word else throw .mismatch
  | .string none => throw .malformed
  | .object [] _ => throw odd
  | .object ((none, _) :: _) _ => throw .malformed
  | .object ((some word, empty) :: rest) closed => do
    if word ∉ words then throw .mismatch
    match empty with
    | .null => pure ()
    | .object [] true => if source = .choice then pure () else throw .mismatch
    | empty => throw empty.level.unexpected
    if !rest.isEmpty then throw odd
    if closed then return word else throw .malformed
  | .tooDeep true => throw .malformed
  | _ => throw odd

/-! ## Whole texts and values -/

/-- Reads a whole text; anything after the value is a fault. -/
def ofText (reader : Reader α) (text : String) : Read α := reader .text (Written.ofText text)

/-- Reads the value that a text starts with, and ignores the rest. -/
def ofStart (reader : Reader α) (text : String) : Read α := reader .text (Written.ofStart text)

/-- Reads a value. -/
def ofValue (reader : Reader α) (value : Json) : Read α := reader .value (Written.ofJson value)

end Reader

end N1qlConnector
