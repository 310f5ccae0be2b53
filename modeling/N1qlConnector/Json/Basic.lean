import N1qlConnector.Json.Binary64

/-!
# JSON values

The values that requests carry, parameters bind and a store answers with. A value keeps what a
reader of the text can see: the order of an object's members, and whether a number was written as
an integer or with a fraction or an exponent.

An object is the list of its members. Reading never makes one with a repeated key.
-/

namespace N1qlConnector

/-- A JSON number. Reading makes an `integer` only of what fits 64 bits, signed or unsigned. -/
inductive Number where
  | integer (value : Int)
  | binary (value : Binary64)
  deriving DecidableEq, Repr

/-- A JSON value. -/
inductive Json where
  | null
  | bool (value : Bool)
  | number (value : Number)
  | string (value : String)
  | array (items : List Json)
  | object (members : List (String × Json))
  deriving Repr, BEq, Inhabited

namespace Json

/-- A natural number as a value. -/
def nat (n : Nat) : Json := number (.integer n)

/-- The value of a member, `none` if there is no such member or the value is no object. -/
def member? : Json → String → Option Json
  | object members, key => members.lookup key
  | _, _ => none

/-- The text of a string value. -/
def string? : Json → Option String
  | string value => some value
  | _ => none

end Json

end N1qlConnector
