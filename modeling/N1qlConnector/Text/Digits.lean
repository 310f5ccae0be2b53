/-!
# Digits

Numbers in bases up to sixteen. Digits are written in lower case and read in either case.
-/

namespace N1qlConnector.Text

/-- The digit of a value below sixteen. -/
def hexDigit (n : Nat) : Char :=
  if n < 10 then Char.ofNat ('0'.toNat + n) else Char.ofNat ('a'.toNat + n - 10)

/-- The hexadecimal digits of a number, without leading zeros. -/
def hexDigits (n : Nat) : List Char :=
  if n < 16 then [hexDigit n] else hexDigits (n / 16) ++ [hexDigit (n % 16)]
termination_by n

/-- The value of a hexadecimal digit. -/
def hexValue? (c : Char) : Option Nat :=
  if '0' ≤ c ∧ c ≤ '9' then some (c.toNat - '0'.toNat)
  else if 'a' ≤ c ∧ c ≤ 'f' then some (c.toNat - 'a'.toNat + 10)
  else if 'A' ≤ c ∧ c ≤ 'F' then some (c.toNat - 'A'.toNat + 10)
  else none

/-- The number that digits of a base stand for. At least one digit is needed. -/
def readDigits? (base : Nat) : List Char → Option Nat
  | [] => none
  | digits => digits.foldlM (fun value c =>
      ((hexValue? c).filter fun digit => decide (digit < base)).map (base * value + ·)) 0

end N1qlConnector.Text
