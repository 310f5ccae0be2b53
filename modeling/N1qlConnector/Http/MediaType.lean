/-!
# Media types

A request says of what type its body is. The type has a main part, a subtype, and parameters, which
may be quoted. Here it only matters whether the type is well formed and means JSON: that is
`application/json`, and every other subtype of `application` with `json` after its last plus sign.
-/

namespace N1qlConnector.Http

/-- The characters of words in a media type. -/
def isTokenChar (c : Char) : Bool := c.isAlphanum || "!#$%&'*+-.^_`|~".toList.contains c

/-- What follows the word that a text starts with. -/
def afterToken (text : List Char) : List Char := text.dropWhile isTokenChar

/-- Where a check of parameters stands. -/
inductive ParameterState where
  /-- Before a parameter. -/
  | start
  | name
  /-- Just after the equals sign. -/
  | valueStart
  | value
  /-- Just after an opening quote. -/
  | quoteStart
  | quoted
  /-- After a closing quote. -/
  | afterQuote

/-- The state after a character, `none` if it must not stand there. -/
def ParameterState.next? (c : Char) : ParameterState → Option ParameterState
  | start => if c = ' ' then some start else if isTokenChar c then some name else none
  | name => if c = '=' then some valueStart else if isTokenChar c then some name else none
  | valueStart => if c = '"' then some quoteStart else if isTokenChar c then some value else none
  | value => if c = ';' then some start else if isTokenChar c then some value else none
  | quoteStart => if c.toNat < 32 || c.toNat = 127 then none else some quoted
  | quoted =>
    if c = '"' then some afterQuote else if c.toNat < 32 || c.toNat = 127 then none else some quoted
  | afterQuote => if c = ';' then some start else if c = ' ' then some afterQuote else none

/-- Whether a text may end in a state. -/
def ParameterState.isFinal : ParameterState → Bool
  | start | valueStart | value | afterQuote => true
  | name | quoteStart | quoted => false

/-- Whether parameters are well formed. -/
def wellFormedParameters : ParameterState → List Char → Bool
  | state, [] => state.isFinal
  | state, c :: rest =>
    match state.next? c with
    | some state => wellFormedParameters state rest
    | none => false

/-- Parts a subtype at its last plus sign. A plus sign at the start does not count. -/
def splitSuffix (subtype : List Char) : List Char × Option (List Char) :=
  let suffix := (subtype.reverse.takeWhile (· != '+')).reverse
  let stem := subtype.take (subtype.length - suffix.length - 1)
  if suffix.length = subtype.length || stem.isEmpty then (subtype, none) else (stem, some suffix)

/-- Whether a media type is well formed and means JSON. -/
def isJsonMediaType (type : String) : Bool :=
  let text := type.toList.map Char.toLower
  let main := text.takeWhile isTokenChar
  match afterToken text with
  | '/' :: rest =>
    let subtype := rest.takeWhile isTokenChar
    let wellFormed := match afterToken rest with
      | [] => true
      | ';' :: parameters => !subtype.isEmpty && wellFormedParameters .start parameters
      | _ => false
    let (stem, suffix) := splitSuffix subtype
    wellFormed && main == "application".toList
      && (stem == "json".toList || suffix == some "json".toList)
  | _ => false

end N1qlConnector.Http
