import N1qlConnector.Json.Token
import N1qlConnector.Entries

/-!
# JSON as it was written

A format that is read from text can see more of the text than its value: that a key was given twice,
that a number is too large, that brackets nest too deep, or that the text breaks off or goes on with
something that is not JSON. `Written` keeps all of this, so that a reader of a format meets the
faults of a text where they stand, and those in a part that it skips not at all.

`Written.value?` is the value of a flawless text, in which a repeated key keeps its first place and
takes its last value. `Written.ofJson` writes a value down again.
-/

namespace N1qlConnector

/-- A JSON value as it was written, up to the point where the text breaks. -/
inductive Written where
  | null
  | bool (value : Bool)
  /-- A number, `none` if it is too large. -/
  | number (value : Option Number)
  /-- A string, `none` if its escapes name no characters. -/
  | string (value : Option String)
  /-- The items before the end, and whether the bracket that closes them was found there. -/
  | array (items : List Written) (closed : Bool)
  /-- The members before the end, and whether the bracket that closes them was found there. -/
  | object (members : List (Option String × Written)) (closed : Bool)
  /-- An array or, if `isObject`, an object that lies too deep to be read. -/
  | tooDeep (isObject : Bool)
  /-- No value: the text breaks off here or goes on with something else. -/
  | broken
  deriving Repr, Inhabited

namespace Written

/-! ## Values -/

/-- The value, `none` if the text has any fault. -/
def value? : Written → Option Json
  | null => some .null
  | bool value => some (.bool value)
  | number value => value.map .number
  | string value => value.map .string
  | array items true => (values items).map .array
  | object members true => (memberValues members).map fun pairs => .object (Entries.ofPairs pairs)
  | array _ false | object _ false | tooDeep _ | broken => none
where
  /-- The values of all items. -/
  values : List Written → Option (List Json)
    | [] => some []
    | item :: rest => do return (← item.value?) :: (← values rest)
  /-- The keys and values of all members. -/
  memberValues : List (Option String × Written) → Option (List (String × Json))
    | [] => some []
    | (key, value) :: rest => do return (← key, ← value.value?) :: (← memberValues rest)

/-- A value written down without any fault. -/
def ofJson : Json → Written
  | .null => null
  | .bool value => bool value
  | .number value => number (some value)
  | .string value => string (some value)
  | .array items => array (each items) true
  | .object members => object (eachMember members) true
where
  /-- All items written down. -/
  each : List Json → List Written
    | [] => []
    | item :: rest => ofJson item :: each rest
  /-- All members written down. -/
  eachMember : List (String × Json) → List (Option String × Written)
    | [] => []
    | (key, value) :: rest => (some key, ofJson value) :: eachMember rest

/-! ## Recursion over a whole text -/

/-- One level of a text: what `Written` holds, with something else in place of the parts. -/
inductive Level (α : Type) where
  | null
  | bool (value : Bool)
  | number (value : Option Number)
  | string (value : Option String)
  | array (items : List α) (closed : Bool)
  | object (members : List (Option String × α)) (closed : Bool)
  | tooDeep (isObject : Bool)
  | broken

/-- A part of a text together with what was found out about it. -/
structure Part (α : Type) where
  written : Written
  result : α

/-- The result of a text, given how the result of each level follows from its parts. Formats that
contain themselves are read this way. -/
def recurse {α : Type} (step : Level (Part α) → α) : Written → α
  | null => step .null
  | bool value => step (.bool value)
  | number value => step (.number value)
  | string value => step (.string value)
  | array items closed => step (.array (parts step items) closed)
  | object members closed => step (.object (memberParts step members) closed)
  | tooDeep isObject => step (.tooDeep isObject)
  | broken => step .broken
where
  /-- The items with their results. -/
  parts {α : Type} (step : Level (Part α) → α) : List Written → List (Part α)
    | [] => []
    | item :: rest => ⟨item, recurse step item⟩ :: parts step rest
  /-- The members with their results. -/
  memberParts {α : Type} (step : Level (Part α) → α) :
      List (Option String × Written) → List (Option String × Part α)
    | [] => []
    | (key, value) :: rest => (key, ⟨value, recurse step value⟩) :: memberParts step rest

/-- The uppermost level of a text. -/
def level : Written → Level Written
  | null => .null
  | bool value => .bool value
  | number value => .number value
  | string value => .string value
  | array items closed => .array items closed
  | object members closed => .object members closed
  | tooDeep isObject => .tooDeep isObject
  | broken => .broken

/-! ## Reading text -/

/-- How many arrays and objects may lie inside one another. -/
def maxDepth : Nat := 127

/-- An array or object whose closing bracket was not reached yet, with its parts in reverse. -/
inductive Frame where
  | array (items : List Written)
  | object (members : List (Option String × Written))
  /-- An object in which a key was read and its value was not. -/
  | member (members : List (Option String × Written)) (key : Option String)

/-- Puts a complete value into the innermost frame. -/
def Frame.add (value : Written) : Frame → Frame
  | array items => array (value :: items)
  | object members => object members
  | member members key => object ((key, value) :: members)

/-- The array or object of a frame at nesting level `depth`. A key without a value gets one that is
broken. -/
def Frame.finish (depth : Nat) (closed : Bool) : Frame → Written
  | array items => if maxDepth < depth then tooDeep false else .array items.reverse closed
  | object members => if maxDepth < depth then tooDeep true else .object members.reverse closed
  | member members key =>
    if maxDepth < depth then tooDeep true
    else .object ((key, broken) :: members).reverse closed

/-- What may come next. -/
inductive Expected where
  | value
  | valueOrClose
  | key
  | keyOrClose
  | colon
  | commaOrClose
  deriving DecidableEq

/-- What a token does to the open frames. -/
inductive Progress where
  /-- More tokens are needed. -/
  | more (expected : Expected) (frames : List Frame)
  /-- The outermost value is complete. -/
  | finished (value : Written)
  /-- The token has no place here. -/
  | fault

/-- Puts a complete value where it belongs; without an open frame it is the value of the text. -/
def place (value : Written) : List Frame → Progress
  | [] => .finished value
  | frame :: outer => .more .commaOrClose (frame.add value :: outer)

/-- Starts a value. -/
def begin? (token : Token) (frames : List Frame) : Progress :=
  match token with
  | .null => place null frames
  | .bool value => place (bool value) frames
  | .number value => place (number value) frames
  | .string value => place (string value) frames
  | .openArray => .more .valueOrClose (.array [] :: frames)
  | .openObject => .more .keyOrClose (.object [] :: frames)
  | _ => .fault

/-- Reads the key of a member. -/
def key? (token : Token) (frames : List Frame) : Progress :=
  match token, frames with
  | .string key, .object members :: outer => .more .colon (.member members key :: outer)
  | _, _ => .fault

/-- Closes the innermost frame. -/
def close? (token : Token) (frames : List Frame) : Progress :=
  match token, frames with
  | .closeArray, .array items :: outer =>
    place ((Frame.array items).finish (outer.length + 1) true) outer
  | .closeObject, .object members :: outer =>
    place ((Frame.object members).finish (outer.length + 1) true) outer
  | _, _ => .fault

/-- What a token does, given what may come next. -/
def advance (token : Token) (frames : List Frame) : Expected → Progress
  | .value => begin? token frames
  | .valueOrClose => if token = .closeArray then close? token frames else begin? token frames
  | .key => key? token frames
  | .keyOrClose => if token = .closeObject then close? token frames else key? token frames
  | .colon => if token = .colon then .more .value frames else .fault
  | .commaOrClose =>
    match token, frames with
    | .comma, .array _ :: _ => .more .value frames
    | .comma, .object _ :: _ => .more .key frames
    | _, _ => close? token frames

/-- Ends all open frames around a value that was not closed either. -/
def endAll (inner : Written) : List Frame → Written
  | [] => inner
  | frame :: outer => endAll ((frame.add inner).finish (outer.length + 1) false) outer

/-- Where a text breaks every open frame ends, the innermost first. -/
def abandon : List Frame → Written
  | [] => broken
  | frame :: outer => endAll (frame.finish (outer.length + 1) false) outer

/-- Reads one value from tokens; also gives the tokens after it. The open frames stand innermost
first. After a break nothing is left to read. -/
def ofTokens : List Token → Expected → List Frame → Written × List Token
  | [], _, frames => (abandon frames, [])
  | token :: rest, expected, frames =>
    match advance token frames expected with
    | .more expected frames => ofTokens rest expected frames
    | .finished value => (value, rest)
    | .fault => (abandon frames, [])

/-- The value that a text starts with. What comes after it is not looked at. -/
def ofStart (text : String) : Written := (ofTokens (Token.all text.toList) .value []).1

/-- The value that makes up a whole text; anything after it is a fault. -/
def ofText (text : String) : Written :=
  match ofTokens (Token.all text.toList) .value [] with
  | (value, []) => value
  | (_, _ :: _) => broken

end Written

end N1qlConnector
