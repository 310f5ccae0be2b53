import N1qlConnector.Text.Digits
import N1qlConnector.Text.Split

/-!
# Addresses by number

An IPv4 address is written as up to four numbers, each decimal, octal after a `0`, or hexadecimal
after a `0x`; the last one fills the bytes that the others leave. It is shown as four decimal bytes.

An IPv6 address is written as eight pieces of sixteen bits. Two colons stand for as many zeros as
are missing, and the last two pieces may be written as an IPv4 address of four decimal bytes. It is
shown with its longest run of zeros left out, the first of several, if that has more than one.
-/

namespace N1qlConnector.Cluster.Url

/-! ## IPv4 -/

/-- A number of an IPv4 address. -/
def ipv4Number? : List Char → Option Nat
  | ['0', 'x'] | ['0', 'X'] => some 0
  | '0' :: 'x' :: digits | '0' :: 'X' :: digits => Text.readDigits? 16 digits
  | '0' :: first :: digits => Text.readDigits? 8 (first :: digits)
  | digits => Text.readDigits? 10 digits

/-- The parts of a name between its full stops. One at the end ends the name. -/
def labels (name : List Char) : List (List Char) :=
  let parts := Text.splitWhere (· == '.') name
  if parts.getLast? == some [] then parts.dropLast else parts

/-- Whether a name ends in a number, so that it has to be an IPv4 address. -/
def endsInNumber (name : List Char) : Bool :=
  match (labels name).getLast? with
  | none | some [] => false
  | some last => last.all Char.isDigit || (ipv4Number? last).isSome

/-- An IPv4 address. The last number has all the bits that the others do not have. -/
def ipv4Address? (name : List Char) : Option UInt32 := do
  let numbers ← (labels name).mapM ipv4Number?
  let leading := numbers.dropLast
  let last ← numbers.getLast?
  let bits := 32 - 8 * leading.length
  if leading.length < 4 ∧ (∀ number ∈ leading, number < 256) ∧ last < 1 <<< bits then
    return UInt32.ofNat ((leading.foldl (256 * · + ·) 0) <<< bits + last)
  else none

/-- The four bytes of an address with full stops between them. -/
def ipv4Text (address : UInt32) : String :=
  ".".intercalate <| [24, 16, 8, 0].map fun shift => toString (address.toNat >>> shift % 256)

/-! ## IPv6 -/

/-- A piece of an IPv6 address, of one to four hexadecimal digits. -/
def ipv6Piece? (digits : List Char) : Option Nat :=
  if digits.length ≤ 4 then Text.readDigits? 16 digits else none

/-- A decimal byte without leading zeros. -/
def decimalByte? (digits : List Char) : Option Nat :=
  if digits.head? == some '0' && digits != ['0'] then none
  else (Text.readDigits? 10 digits).filter fun value => decide (value < 256)

/-- The two pieces that are written as four decimal bytes. -/
def dottedPieces? (text : List Char) : Option (List Nat) :=
  match (Text.splitWhere (· == '.') text).mapM decimalByte? with
  | some [a, b, c, d] => some [256 * a + b, 256 * c + d]
  | _ => none

/-- The pieces that an IPv6 address ends with. -/
def lastPieces? : List (List Char) → Option (List Nat)
  | [] => some []
  | [last] => if last.contains '.' then dottedPieces? last else (ipv6Piece? last).map ([·])
  | digits :: rest => do return (← ipv6Piece? digits) :: (← lastPieces? rest)

/-- What stands before the first two colons in a row, and what after them. -/
def splitDoubleColon? : List Char → Option (List Char × List Char)
  | [] => none
  | ':' :: ':' :: rest => some ([], rest)
  | c :: rest => (splitDoubleColon? rest).map fun (front, back) => (c :: front, back)

/-- The texts of pieces between colons; an empty text has none. -/
def splitPieces (text : List Char) : List (List Char) :=
  if text.isEmpty then [] else Text.splitWhere (· == ':') text

/-- The eight pieces of an IPv6 address. -/
def ipv6Pieces? (text : List Char) : Option (List Nat) := do
  match splitDoubleColon? text with
  | none =>
    let pieces ← lastPieces? (splitPieces text)
    if pieces.length = 8 then return pieces else none
  | some (front, back) =>
    let front ← (splitPieces front).mapM ipv6Piece?
    let back ← lastPieces? (splitPieces back)
    let written := front.length + back.length
    if written < 8 then return front ++ List.replicate (8 - written) 0 ++ back else none

/-- An IPv6 address. -/
def ipv6Address? (text : List Char) : Option (BitVec 128) :=
  (ipv6Pieces? text).map fun pieces => BitVec.ofNat 128 (pieces.foldl (65536 * · + ·) 0)

/-- How many zeros a list starts with. -/
def leadingZeros (pieces : List Nat) : Nat := (pieces.takeWhile (· == 0)).length

/-- Where the longest run of zeros starts, the first of several. -/
def longestZeros (pieces : List Nat) : Nat :=
  (List.range pieces.length).foldl (fun best start =>
    if leadingZeros (pieces.drop best) < leadingZeros (pieces.drop start) then start else best) 0

/-- Pieces with colons between them. -/
def joinPieces (pieces : List Nat) : String :=
  ":".intercalate (pieces.map fun piece => String.ofList (Text.hexDigits piece))

/-- The eight pieces of an address. -/
def ipv6Pieces (address : BitVec 128) : List Nat :=
  [112, 96, 80, 64, 48, 32, 16, 0].map fun shift => address.toNat >>> shift % 65536

/-- An IPv6 address between brackets. -/
def ipv6Text (address : BitVec 128) : String :=
  let pieces := ipv6Pieces address
  let start := longestZeros pieces
  let count := leadingZeros (pieces.drop start)
  if count < 2 then "[" ++ joinPieces pieces ++ "]"
  else
    "[" ++ joinPieces (pieces.take start) ++ "::" ++ joinPieces (pieces.drop (start + count)) ++ "]"

end N1qlConnector.Cluster.Url
