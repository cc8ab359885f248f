import Stepwise.Numeric.Round

/-!
# Doubles

A double is its 64 bits. The bits below the sign, its *magnitude*, are also the
rank of the double among all that are not negative, and for a finite double

    magnitude = shift · 2 ^ 52 + mantissa

while its value is `mantissa · 2 ^ shift` times the least positive double. Both
directions go through that equation: taking a double apart, and finding the
nearest double of a quotient. All arithmetic is on natural numbers and exact.

## Main results

* `shift_mul_add_mantissa`: the equation above.
-/

namespace Stepwise.Numeric

/-- A double, as its bits. -/
structure Binary64 where
  bits : UInt64
  deriving DecidableEq

namespace Binary64

/-- The magnitude of infinity. What lies above is not a number. -/
def infinity : Nat := 0x7ff0000000000000

variable (x : Binary64)

/-- Whether the sign bit is set. -/
def isNegative : Bool := Nat.pow 2 63 ≤ x.bits.toNat

/-- The bits below the sign. -/
def magnitude : Nat := x.bits.toNat % Nat.pow 2 63

def isFinite : Bool := x.magnitude < infinity

def isNaN : Bool := infinity < x.magnitude

/-- The number of doublings behind the mantissa. -/
def shift : Nat := x.magnitude / Nat.pow 2 52 - 1

def mantissa : Nat := x.magnitude - x.shift * Nat.pow 2 52

theorem shift_mul_add_mantissa : x.shift * Nat.pow 2 52 + x.mantissa = x.magnitude := by
  simp only [mantissa, shift, Nat.pow_eq]
  omega

/-- The least positive double goes into one this many times. -/
def unitsInOne : Nat := Nat.pow 2 1074

/-- The value without its sign, in units of the least positive double. -/
def units : Nat := x.mantissa * Nat.pow 2 x.shift

/-- The double with a sign and a magnitude. -/
def ofMagnitude (negative : Bool) (magnitude : Nat) : Binary64 :=
  ⟨UInt64.ofNat (magnitude + if negative then Nat.pow 2 63 else 0)⟩

/-- The magnitude of the nearest double to `num / den`; of two that are
equally near, the one with an even mantissa. -/
def nearestMagnitude (num den : Nat) : Nat :=
  let inUnits := num * unitsInOne
  let shift := (inUnits / den).log2 - 52
  min infinity (shift * Nat.pow 2 52 + roundDiv .toEven inUnits (den * Nat.pow 2 shift))

/-- The nearest double to `num / den`, with a sign. -/
def ofRatio (negative : Bool) (num den : Nat) : Binary64 :=
  ofMagnitude negative (nearestMagnitude num den)

/-- The nearest double to an integer. -/
def ofInt (n : Int) : Binary64 := ofRatio (n < 0) n.natAbs 1

/-- The same double with the other sign. -/
def neg : Binary64 := ofMagnitude (!x.isNegative) x.magnitude

/-- The product of two finite doubles. -/
def times (y : Binary64) : Binary64 :=
  ofRatio (x.isNegative != y.isNegative) (x.units * y.units) (unitsInOne * unitsInOne)

/-- The quotient of two finite doubles, the second other than zero. -/
def dividedBy (y : Binary64) : Binary64 :=
  ofRatio (x.isNegative != y.isNegative) x.units y.units

/-- Whether two doubles are equal as numbers: zeros are, whatever their signs,
and what is not a number is not equal to anything. -/
def same (x y : Binary64) : Bool :=
  !x.isNaN && !y.isNaN &&
    (x.bits == y.bits || (x.magnitude == 0 && y.magnitude == 0))

end Binary64

end Stepwise.Numeric
