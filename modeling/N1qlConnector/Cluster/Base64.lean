/-!
# Base 64

Three bytes are written as four characters of an alphabet of sixty-four. One or two bytes that are
left over are written with two or three characters, and equals signs make up the four.
-/

namespace N1qlConnector.Cluster

/-- The character for six bits. -/
def base64Char (bits : Nat) : Char :=
  if bits < 26 then Char.ofNat ('A'.toNat + bits)
  else if bits < 52 then Char.ofNat ('a'.toNat + bits - 26)
  else if bits < 62 then Char.ofNat ('0'.toNat + bits - 52)
  else if bits = 62 then '+' else '/'

/-- The characters for bytes. -/
def base64 : List UInt8 → List Char
  | [] => []
  | [a] =>
    let bits := a.toNat * 16
    [base64Char (bits / 64), base64Char (bits % 64), '=', '=']
  | [a, b] =>
    let bits := (a.toNat * 256 + b.toNat) * 4
    [base64Char (bits / 4096), base64Char (bits / 64 % 64), base64Char (bits % 64), '=']
  | a :: b :: c :: rest =>
    let bits := (a.toNat * 256 + b.toNat) * 256 + c.toNat
    base64Char (bits / 262144) :: base64Char (bits / 4096 % 64) :: base64Char (bits / 64 % 64)
      :: base64Char (bits % 64) :: base64 rest

end N1qlConnector.Cluster
