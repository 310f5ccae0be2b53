import N1qlConnector.Json.Basic
import N1qlConnector.Text.Digits

/-!
# Writing JSON

Two layouts: `Json.compact` without any blank, and `Json.pretty` with one item or member a line and
two blanks a level. In both an empty array or object stays on its line, members keep their order,
and a string escapes the quote, the backslash and the control characters below U+0020, nothing else.

Floating point numbers are written with the fewest digits that read back. From `1e-5` up to, but
without, `1e16` they are positional and always have a point; beyond, they are scientific with a
signed exponent.
-/

namespace N1qlConnector

/-! ## Strings -/

/-- How a character stands inside a JSON string. -/
def Json.escapeChar (c : Char) : List Char :=
  if c = '"' then ['\\', '"']
  else if c = '\\' then ['\\', '\\']
  else if c = '\x08' then ['\\', 'b']
  else if c = '\t' then ['\\', 't']
  else if c = '\n' then ['\\', 'n']
  else if c = '\x0c' then ['\\', 'f']
  else if c = '\r' then ['\\', 'r']
  else if c.toNat < 0x20 then
    ['\\', 'u', '0', '0', Text.hexDigit (c.toNat / 16), Text.hexDigit (c.toNat % 16)]
  else [c]

/-- The characters between the quotes of a string. -/
def Json.escape (text : List Char) : List Char := text.flatMap Json.escapeChar

/-- A string between quotes. -/
def Json.quote (text : String) : String :=
  String.ofList ('"' :: Json.escape text.toList ++ ['"'])

@[simp] theorem Json.toList_quote (text : String) :
    (Json.quote text).toList = '"' :: Json.escape text.toList ++ ['"'] := by
  simp [Json.quote]

/-! ## Numbers -/

namespace Binary64

/-- `0` repeated. -/
private def zeros (count : Nat) : List Char := List.replicate count '0'

/-- The digits with a point before position `place`, counted from the first digit. -/
def positional (digits : List Char) (place : Int) : List Char :=
  if place ≤ 0 then '0' :: '.' :: (zeros (-place).toNat ++ digits)
  else if place < digits.length then
    digits.take place.toNat ++ '.' :: digits.drop place.toNat
  else digits ++ zeros (place - digits.length).toNat ++ ['.', '0']

/-- One digit before the point, no point after a lone digit, and the exponent with its sign. -/
def scientific (digits : List Char) (place : Int) : List Char :=
  let exponent := place - 1
  let sign := if exponent < 0 then '-' else '+'
  let mantissa := if digits.length ≤ 1 then digits else digits.take 1 ++ '.' :: digits.drop 1
  mantissa ++ 'e' :: sign :: (toString exponent.natAbs).toList

/-- The text of a floating point number. -/
def text (x : Binary64) : String :=
  let magnitude :=
    if x.isZero then ['0', '.', '0']
    else
      let decimal := x.shortest
      let digits := (toString decimal.digits).toList
      let place : Int := digits.length + decimal.exponent
      if -5 < place ∧ place ≤ 16 then positional digits place else scientific digits place
  String.ofList (if x.negative then '-' :: magnitude else magnitude)

end Binary64

/-- The text of a number. -/
def Number.text : Number → String
  | integer value => toString value
  | binary value => value.text

/-! ## Values -/

namespace Json

/-- The text of a value without blanks. -/
def compact : Json → String
  | null => "null"
  | bool true => "true"
  | bool false => "false"
  | number value => value.text
  | string value => quote value
  | array items => "[" ++ ",".intercalate (each items) ++ "]"
  | object members => "\x7b" ++ ",".intercalate (eachMember members) ++ "\x7d"
where
  /-- The texts of the items. -/
  each : List Json → List String
    | [] => []
    | item :: rest => item.compact :: each rest
  /-- The texts of the members. -/
  eachMember : List (String × Json) → List String
    | [] => []
    | (key, value) :: rest => (quote key ++ ":" ++ value.compact) :: eachMember rest

/-- A line break and the blanks of a nesting level. -/
def lineBreak (level : Nat) : String :=
  String.ofList ('\n' :: List.replicate (2 * level) ' ')

/-- The parts between two brackets, each on a line of its own. -/
def block (opening closing : String) (level : Nat) : List String → String
  | [] => opening ++ closing
  | parts =>
    opening ++ lineBreak (level + 1) ++ ("," ++ lineBreak (level + 1)).intercalate parts
      ++ lineBreak level ++ closing

/-- The text of a value at a nesting level, one item or member a line. -/
def prettyAt (level : Nat) : Json → String
  | array items => block "[" "]" level (each (level + 1) items)
  | object members => block "\x7b" "\x7d" level (eachMember (level + 1) members)
  | null => "null"
  | bool true => "true"
  | bool false => "false"
  | number value => value.text
  | string value => quote value
where
  /-- The texts of the items. -/
  each (level : Nat) : List Json → List String
    | [] => []
    | item :: rest => item.prettyAt level :: each level rest
  /-- The texts of the members. -/
  eachMember (level : Nat) : List (String × Json) → List String
    | [] => []
    | (key, value) :: rest =>
      (quote key ++ ": " ++ value.prettyAt level) :: eachMember level rest

/-- The text of a value, one item or member a line and two blanks a level. -/
def pretty (value : Json) : String := value.prettyAt 0

end Json

end N1qlConnector
