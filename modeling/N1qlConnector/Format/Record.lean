import N1qlConnector.Format.Reader

/-!
# Records and tagged choices

A record is written as an object with a member for each field, in any order, or as an array of its
fields in the order of declaration. In an object a field may have several names, members of other
names are skipped, and a field given twice is a fault. In an array only fields at the end may be
missing, and only those that have a default.

A choice between records is written as a record with one more member `type`, the tag, or as an array
that the tag comes first in. Everything beside the tag is held back until the end, so there even a
part that no field asks for has to be flawless.
-/

namespace N1qlConnector

/-- A record as it was written: what each field was given, and how the record ended. -/
structure Record (α : Type) where
  source : Source
  /-- Field, place and part, in the order of the text. -/
  given : List (String × Nat × α)
  /-- The place at which the record ended. -/
  stop : Nat
  /-- The fault found there, if any. -/
  cause : Option Fault
  /-- Whether the record was written as an array. -/
  positional : Bool

namespace Record

variable {α β : Type}

/-! ## Taking a record apart -/

/-- Assigns the members of an object to the fields. Each field is listed with all its names, the
first of which stands for it. -/
def ofMembers (source : Source) (fields : List (List String)) (closed : Bool) :
    List (Option String × α) → Nat → List (String × Nat × α) → Record α
  | [], place, given => ⟨source, given, place, if closed then none else some .malformed, false⟩
  | (none, _) :: _, place, given => ⟨source, given, place, some .malformed, false⟩
  | (some key, part) :: rest, place, given =>
    match fields.find? (·.contains key) with
    | none | some [] => ofMembers source fields closed rest (place + 1) given
    | some (field :: _) =>
      if given.any (·.1 == field) then ⟨source, given, place, some .mismatch, false⟩
      else ofMembers source fields closed rest (place + 1) (given ++ [(field, place, part)])

/-- Assigns the items of an array to the fields. -/
def ofItems (source : Source) (fields : List (List String)) (closed : Bool) (items : List α) :
    Record α :=
  let names := fields.filterMap List.head?
  let given := (names.zip items).zipIdx.map fun ((field, part), place) => (field, place, part)
  let cause :=
    if !closed then some .malformed
    else if items.length ≤ names.length then none
    else some source.surplus
  ⟨source, given, given.length, cause, true⟩

/-- The record that a level holds. -/
def ofLevel (source : Source) (fields : List (List String)) :
    Written.Level α → Read (Record α)
  | .object members closed => return ofMembers source fields closed members 0 []
  | .array items closed => return ofItems source fields closed items
  | .tooDeep _ => throw .malformed
  | level => throw level.unexpected

/-! ## Fields -/

/-- Reads a field if it was given. -/
def field? (record : Record α) (name : String) (read : Source → α → Read β) :
    Option (Outcome β) :=
  (record.given.lookup name).map fun (place, part) => .ofRead place (read record.source part)

/-- A field that is missing although it must be there. -/
def missing (record : Record α) : Outcome β :=
  match record.cause with
  | some cause => .fault record.stop cause
  | none => .fault (record.stop + 1) .mismatch

/-- A field that must be there. -/
def required (record : Record α) (name : String) (read : Source → α → Read β) : Outcome β :=
  (record.field? name read).getD record.missing

/-- A field that has a default. -/
def defaulted (record : Record α) (name : String) (default : β) (read : Source → α → Read β) :
    Outcome β :=
  (record.field? name read).getD (.ok default)

/-- A field that may be `null` or missing. -/
def optional [HasWritten α] (record : Record α) (name : String) (read : Source → α → Read β) :
    Outcome (Option β) :=
  record.defaulted name none fun source part =>
    match written part with
    | .null => return none
    | _ => some <$> read source part

/-- A field that may be `null`, or missing from an object but not from an array. -/
def nullable [HasWritten α] (record : Record α) (name : String) (read : Source → α → Read β) :
    Outcome (Option β) :=
  let found := record.required name fun source part =>
    match written part with
    | .null => return none
    | _ => some <$> read source part
  if record.positional then found else
    match record.given.lookup name with
    | none => .ok none
    | some _ => found

/-- The record that its fields make up, unless it ended with a fault before any of theirs. -/
def finish (record : Record α) (outcome : Outcome β) : Read β :=
  match outcome, record.cause with
  | .ok value, none => return value
  | .ok _, some cause => throw cause
  | .fault _ cause, none => throw cause
  | .fault place cause, some cause' => throw (if place < record.stop then cause else cause')

end Record

/-- Reads a part of a record by its written form alone. -/
def on {α β : Type} [HasWritten α] (reader : Reader β) : Source → α → Read β :=
  fun source part => reader source (written part)

/-- Reads a record. -/
def Reader.record {β : Type} (fields : List (List String)) (outcome : Record Written → Outcome β) :
    Reader β := fun source found => do
  let record ← Record.ofLevel source fields found.level
  record.finish (outcome record)

/-! ## Choices -/

namespace Choice

variable {α : Type} [HasWritten α]

/-- The tag of a choice. Below another choice it may also be the number of the tag. -/
def tag (tags : List String) : Reader String := fun source found =>
  match found with
  | .string (some tag) => if tag ∈ tags then return tag else throw .mismatch
  | .number (some (.integer index)) =>
    match source, decide (0 ≤ index), tags[index.toNat]? with
    | .choice, true, some tag => return tag
    | _, _, _ => throw .mismatch
  | found => throw found.level.unexpected

/-- Refuses a part with a fault in it. -/
def checkFlawless (source : Source) (part : α) : Read Unit :=
  if source = .text then
    match (written part).value? with
    | some _ => return ()
    | none => throw .malformed
  else return ()

/-- Parts the tag from the other members. -/
def split (tags : List String) (source : Source) :
    List (Option String × α) → Option String → Read (Option String × List (Option String × α))
  | [], found => return (found, [])
  | (none, _) :: _, _ => throw .malformed
  | (some key, part) :: rest, found => do
    if key = "type" then
      if found.isSome then throw .mismatch
      split tags source rest (some (← tag tags source (written part)))
    else
      checkFlawless source part
      let (found, others) ← split tags source rest found
      return (found, (some key, part) :: others)

/-- The tag of a choice and what is left without it. -/
def ofLevel (tags : List String) (source : Source) :
    Written.Level α → Read (String × Written.Level α)
  | .object members closed => do
    let (found, others) ← split tags source members none
    if !closed then throw .malformed
    match found with
    | some tag => return (tag, .object others true)
    | none => throw .mismatch
  | .array [] closed => throw (if closed then .mismatch else .malformed)
  | .array (first :: others) closed => do
    let tag ← tag tags source (written first)
    others.forM (checkFlawless source)
    if closed then return (tag, .array others true) else throw .malformed
  | .tooDeep _ => throw .malformed
  | level => throw level.unexpected

/-- Reads the fields of the record that was chosen. -/
def record {β : Type} (content : Written.Level α) (fields : List String)
    (outcome : Record α → Outcome β) : Read β := do
  let record ← Record.ofLevel .choice (fields.map ([·])) content
  record.finish (outcome record)

end Choice

end N1qlConnector
