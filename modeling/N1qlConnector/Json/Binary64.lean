/-!
# Binary floating point numbers of 64 bits

JSON numbers with a fraction or an exponent, and integers too large for a word, are kept as binary
numbers of 53 significant bits. They are only read, passed on and written, so the few operations
that reading needs are defined here on exact natural numbers: a result is the quotient of two
naturals, rounded once to the nearest number of the format, a tie going to the even significand.
Nothing depends on the machine's floating point unit, and every definition can be computed by hand.

## Main results

* `Binary64.ofRatio` — the nearest number to a quotient, `none` if it is too large for the format.
* `Binary64.ofDecimal` — what the decimal `significand · 10 ^ exponent` is read as.
-/

namespace N1qlConnector

/-- The finite number `± significand · 2 ^ exponent`. Numbers of the format have a significand below
`2 ^ 53` and an exponent from `-1074` to `971`; zero keeps its sign. -/
structure Binary64 where
  negative : Bool
  significand : Nat
  exponent : Int
  deriving DecidableEq, Repr

namespace Binary64

/-- The smallest exponent of the format. Numbers with it may have fewer than 53 bits. -/
def minExponent : Int := -1074

/-- The largest exponent of the format. -/
def maxExponent : Int := 971

/-- Zero with the given sign. -/
def zero (negative : Bool) : Binary64 := ⟨negative, 0, minExponent⟩

def isZero (x : Binary64) : Bool := x.significand == 0

/-! ## Rounding -/

/-- A power of two. -/
def twoTo (k : Nat) : Nat := Nat.pow 2 k

/-- A power of ten. -/
def tenTo (k : Nat) : Nat := Nat.pow 10 k

/-- The quotient rounded to the nearest natural number, a tie to the even one. -/
def roundedQuotient (dividend divisor : Nat) : Nat :=
  let floor := dividend / divisor
  let twice := 2 * (dividend % divisor)
  if twice < divisor then floor
  else if divisor < twice then floor + 1
  else if floor % 2 == 0 then floor else floor + 1

/-- `2 ^ k` on the side of the quotient that keeps both sides natural. -/
private def scaleByTwo (dividend divisor : Nat) (k : Int) : Nat × Nat :=
  if 0 ≤ k then (dividend * twoTo k.toNat, divisor) else (dividend, divisor * twoTo (-k).toNat)

/-- The exponent at which the quotient has 53 bits before the point, or the smallest one of the
format if that is larger. -/
def exponentFor (dividend divisor : Nat) : Int :=
  let guess : Int := (Nat.log2 dividend : Int) - (Nat.log2 divisor : Int) - 52
  let (top, bottom) := scaleByTwo dividend divisor (-guess)
  max minExponent (if top < bottom * twoTo 52 then guess - 1 else guess)

/-- The number nearest to `dividend / divisor`, `none` if rounding takes it past the largest one. -/
def ofRatio (dividend divisor : Nat) : Option Binary64 :=
  if dividend == 0 then some (zero false)
  else
    let exponent := exponentFor dividend divisor
    let (top, bottom) := scaleByTwo dividend divisor (-exponent)
    let rounded := roundedQuotient top bottom
    let (significand, exponent) :=
      if rounded == twoTo 53 then (twoTo 52, exponent + 1) else (rounded, exponent)
    if maxExponent < exponent then none else some ⟨false, significand, exponent⟩

/-! ## Arithmetic on magnitudes -/

/-- The rounded product; signs are ignored. -/
def mul? (x y : Binary64) : Option Binary64 :=
  let (top, bottom) := scaleByTwo (x.significand * y.significand) 1 (x.exponent + y.exponent)
  ofRatio top bottom

/-- The rounded quotient by a number other than zero; signs are ignored. -/
def div? (x y : Binary64) : Option Binary64 :=
  let (top, bottom) := scaleByTwo x.significand y.significand (x.exponent - y.exponent)
  ofRatio top bottom

/-- The number nearest to `n`. -/
def ofNat (n : Nat) : Option Binary64 := ofRatio n 1

/-- The number nearest to `10 ^ k`. -/
def powerOfTen (k : Nat) : Option Binary64 := ofRatio (tenTo k) 1

/-- The largest power of ten in the format. -/
def maxPowerOfTen : Nat := 308

/-! ## Decimals -/

/-- Divides by `10 ^ k`, in two steps if the power is too large for the format. Beyond twice the
largest power nothing is left of a number that fits a word. -/
def divPowerOfTen (x : Binary64) (k : Nat) : Option Binary64 := do
  if k ≤ maxPowerOfTen then
    x.div? (← powerOfTen k)
  else if k ≤ 2 * maxPowerOfTen then
    (← x.div? (← powerOfTen maxPowerOfTen)).div? (← powerOfTen (k - maxPowerOfTen))
  else
    return zero false

/-- What `significand · 10 ^ exponent` is read as: significand and power of ten are rounded first,
and their product or quotient once more. The result is `none` if it is past the largest number; a
result too small for the format is zero. -/
def ofDecimal (negative : Bool) (significand : Nat) (exponent : Int) : Option Binary64 := do
  let magnitude ←
    if significand == 0 then pure (zero false)
    else if exponent < 0 then (← ofNat significand).divPowerOfTen (-exponent).toNat
    else if exponent.toNat ≤ maxPowerOfTen then
      (← ofNat significand).mul? (← powerOfTen exponent.toNat)
    else none
  return { magnitude with negative }

/-! ## The shortest decimal that reads back -/

/-- A decimal `digits · 10 ^ exponent`. -/
structure Decimal where
  digits : Nat
  exponent : Int
  deriving DecidableEq, Repr

/-- The points halfway to the two neighbours, in quarters of the last bit: what lies between them
rounds to the number. Below a power of two the lower neighbour is only half as far away. -/
def roundingInterval (x : Binary64) : Nat × Nat :=
  let quarters := 4 * x.significand
  let lower := if x.significand == twoTo 52 && minExponent < x.exponent then 1 else 2
  (quarters - lower, quarters + 2)

/-- Whether the decimal lies in the rounding interval. The end points belong to it if the
significand is even, since ties go there. -/
def contains (x : Binary64) (d : Decimal) : Bool :=
  let (low, high) := x.roundingInterval
  let tens := tenTo d.exponent.natAbs
  let (point, unit) := if 0 ≤ d.exponent then (d.digits * tens, 1) else (d.digits, tens)
  let twos := x.exponent - 2
  let (scale, point) :=
    if 0 ≤ twos then (unit * twoTo twos.toNat, point) else (unit, point * twoTo (-twos).toNat)
  if x.significand % 2 == 0 then
    decide (low * scale ≤ point) && decide (point ≤ high * scale)
  else
    decide (low * scale < point) && decide (point < high * scale)

/-- The magnitude as a quotient of two naturals. -/
def magnitude (x : Binary64) : Nat × Nat := scaleByTwo x.significand 1 x.exponent

/-- The power of ten just above the magnitude: `10 ^ (e - 1) ≤ x < 10 ^ e`. The logarithm to base
two gives it up to one. -/
def decimalExponent (x : Binary64) : Int :=
  let (top, bottom) := x.magnitude
  let guess : Int := ((Nat.log2 top : Int) - (Nat.log2 bottom : Int)) * 30103 / 100000
  let below (e : Int) : Bool :=
    if 0 ≤ e then decide (top < bottom * tenTo e.toNat)
    else decide (top * tenTo (-e).toNat < bottom)
  ([guess - 1, guess, guess + 1].find? below).getD (guess + 2)

/-- The two decimals of the grid `10 ^ exponent` next to the magnitude, the nearer one first. Of two
equally near ones the even one is first. -/
def neighbours (x : Binary64) (exponent : Int) : List Decimal :=
  let (top, bottom) := x.magnitude
  let (top, bottom) :=
    if 0 ≤ exponent then (top, bottom * tenTo exponent.toNat)
    else (top * tenTo (-exponent).toNat, bottom)
  let floor := top / bottom
  let twice := 2 * (top % bottom)
  let floorFirst := if twice == bottom then floor % 2 == 0 else decide (twice < bottom)
  if floorFirst then [⟨floor, exponent⟩, ⟨floor + 1, exponent⟩]
  else [⟨floor + 1, exponent⟩, ⟨floor, exponent⟩]

/-- The decimal with the fewest digits that reads back as this number, and of those the nearest.
Seventeen digits always suffice. The upper neighbour of nine is ten, which is one digit again. -/
def shortest (x : Binary64) : Decimal :=
  let top := x.decimalExponent
  let hit (places : Nat) : Option Decimal :=
    (x.neighbours (top - places - 1)).find? x.contains
  match ((List.range 17).findSome? hit).getD ⟨0, 0⟩ with
  | ⟨10, exponent⟩ => ⟨1, exponent + 1⟩
  | decimal => decimal

end Binary64

end N1qlConnector
