import Stepwise.Numeric.Shortest
import Stepwise.Text.Digits

/-!
# Layout of decimals

How a format writes the shortest decimal of a double. Numbers of moderate size
have a point and at least one digit on either side of it; all others have one
digit in front of the point, no point without digits behind it, and a signed
exponent. What is moderate, how wide an exponent is at least and what becomes
of ties differs from format to format.
-/

namespace Stepwise.Numeric

open Stepwise.Text

/-- The choices of a format. -/
structure Layout where
  /-- The least exponent of a leading digit that is written without exponent. -/
  positionalFrom : Int
  /-- The least exponent above that is written with an exponent again. -/
  positionalBelow : Int
  /-- The least number of digits of an exponent. -/
  exponentWidth : Nat
  /-- Which of two shortest decimals is taken if they are equally near. -/
  tie : Tie

namespace Layout

/-- Digits with a point, for a leading digit with an exponent. -/
def positional (digits : List Char) : (exponent : Int) → List Char
  | .ofNat n =>
      if digits.length ≤ n + 1 then
        digits ++ List.replicate (n + 1 - digits.length) '0' ++ ['.', '0']
      else digits.take (n + 1) ++ '.' :: digits.drop (n + 1)
  | .negSucc n => '0' :: '.' :: List.replicate n '0' ++ digits

/-- Digits with an exponent. -/
def scientific (width : Nat) (digits : List Char) (exponent : Int) : List Char :=
  let mantissa := match digits with
    | first :: second :: rest => first :: '.' :: second :: rest
    | short => short
  let size := decimal exponent.natAbs
  mantissa ++ 'e' :: (if exponent < 0 then '-' else '+') ::
    List.replicate (width - size.length) '0' ++ size

variable (l : Layout)

/-- A finite double without its sign. -/
def writeMagnitude (x : Binary64) : List Char :=
  if x.magnitude = 0 then positional ['0'] 0
  else
    let shortest := x.shortest l.tie
    let digits := decimal shortest.coefficient
    let exponent := shortest.exponent + (digits.length - 1 : Nat)
    if l.positionalFrom ≤ exponent ∧ exponent < l.positionalBelow then
      positional digits exponent
    else scientific l.exponentWidth digits exponent

/-- A finite double. -/
def write (x : Binary64) : List Char :=
  if x.isNegative then '-' :: l.writeMagnitude x else l.writeMagnitude x

end Layout

end Stepwise.Numeric
