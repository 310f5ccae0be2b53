import N1qlConnector.Format.Fault

/-!
# Values of any kind

Where a format allows any value, an object may stand for a value that is spelled out in a text of
its own: its first and only key is `embeddingKey`, and what belongs to the key is that text. Only
the value that was spelled out is ever seen. Such a text is held to all rules of a whole text, nests
as deep as one, and may have further texts embedded in it. A key of this name in any other place is
a key like all others.

The text of a string is shorter than the text that the string stands in, so a text has fewer texts
embedded in one another than it has characters. That bounds the recursion in `Json.ofText?`.
-/

namespace N1qlConnector

/-- The key of an object that stands for the value spelled out in a text. -/
def embeddingKey : String := "$serde_json::private::RawValue"

/-- What an array or object holds more than it may. A text is broken there; in a value that was read
before only the form is wrong. -/
def Source.surplus : Source → Fault
  | .text => .malformed
  | .value | .choice => .mismatch

namespace Written

/-- What the members of an object stand for: the part that spells out a value, and whether more
members follow it, or nothing of the kind. -/
def embedded? : List (Option String × Written) → Option (Written × Bool)
  | (some key, part) :: rest =>
    if key = embeddingKey then some (part, !rest.isEmpty) else none
  | _ => none

/-- Reads the part of an object that spells out a value, given what a whole text says. -/
def readEmbedded (textValue : String → Option Json) (source : Source) (surplus closed : Bool) :
    Written → Read Json
  | string (some text) =>
    match textValue text with
    | none => throw .mismatch
    | some value =>
      if surplus then throw source.surplus
      else if closed then return value
      else throw .malformed
  | part => throw part.level.unexpected

/-- Reads any value, given what a whole text says. -/
def readWith (textValue : String → Option Json) (source : Source) : Written → Read Json
  | null => return .null
  | bool value => return .bool value
  | number (some value) => return .number value
  | string (some value) => return .string value
  | array items closed => do
    let found ← readItems items
    if closed then return .array found else throw .malformed
  | object members closed =>
    match embedded? members with
    | some (part, surplus) => readEmbedded textValue source surplus closed part
    | none => do
      let found ← readMembers members
      if closed then return .object (Entries.ofPairs found) else throw .malformed
  | number none | string none | tooDeep _ | broken => throw .malformed
where
  /-- Reads all items in turn. -/
  readItems : List Written → Read (List Json)
    | [] => return []
    | item :: rest => return (← item.readWith textValue source) :: (← readItems rest)
  /-- Reads all members in turn. -/
  readMembers : List (Option String × Written) → Read (List (String × Json))
    | [] => return []
    | (none, _) :: _ => throw .malformed
    | (some key, value) :: rest =>
      return (key, ← value.readWith textValue source) :: (← readMembers rest)

end Written

/-- The value of a whole text in which fewer than `bound` texts are embedded in one another. -/
def Json.ofTextWithin : Nat → String → Option Json
  | 0, _ => none
  | bound + 1, text => ((Written.ofText text).readWith (ofTextWithin bound) .text).toOption

/-- The value of a whole text without any fault. -/
def Json.ofText? (text : String) : Option Json := ofTextWithin text.length text

/-- Reads any value. -/
def Written.read (source : Source) (found : Written) : Read Json :=
  found.readWith Json.ofText? source

end N1qlConnector
