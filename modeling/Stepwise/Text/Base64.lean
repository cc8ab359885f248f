/-!
# Base 64

Bytes as text: every three bytes become four characters of an alphabet of 64,
and an incomplete group at the end is filled up with equals signs.
-/

namespace Stepwise.Text

/-- The character for six bits. -/
def base64Char (n : Nat) : Char :=
  if n < 26 then Char.ofNat ('A'.toNat + n)
  else if n < 52 then Char.ofNat ('a'.toNat + (n - 26))
  else if n < 62 then Char.ofNat ('0'.toNat + (n - 52))
  else if n = 62 then '+'
  else '/'

/-- Bytes in base 64. -/
def base64 : List UInt8 → List Char
  | a :: b :: c :: rest =>
      let group := a.toNat * Nat.pow 2 16 + b.toNat * Nat.pow 2 8 + c.toNat
      base64Char (group / Nat.pow 2 18) :: base64Char (group / Nat.pow 2 12 % 64) ::
        base64Char (group / Nat.pow 2 6 % 64) :: base64Char (group % 64) :: base64 rest
  | [a, b] =>
      let group := a.toNat * Nat.pow 2 16 + b.toNat * Nat.pow 2 8
      [base64Char (group / Nat.pow 2 18), base64Char (group / Nat.pow 2 12 % 64),
        base64Char (group / Nat.pow 2 6 % 64), '=']
  | [a] =>
      let group := a.toNat * Nat.pow 2 16
      [base64Char (group / Nat.pow 2 18), base64Char (group / Nat.pow 2 12 % 64), '=', '=']
  | [] => []

end Stepwise.Text
