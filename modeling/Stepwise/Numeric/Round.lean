/-!
# Rounding a quotient

The nearest natural number to a quotient of two. The only choice is what
happens to a quotient that lies in the middle between two numbers.

## Main results

* `two_mul_roundDiv_le`, `le_two_mul_roundDiv`: the result is at most one half
  away from the quotient, in either direction.
-/

namespace Stepwise.Numeric

/-- What becomes of a quotient half way between two numbers. -/
inductive Tie where
  | toEven
  | up
  deriving DecidableEq

/-- Whether half a unit above an integer part rounds up. -/
def Tie.roundsUp : Tie → Nat → Bool
  | toEven, below => below % 2 = 1
  | up, _ => true

/-- The nearest number to `num / den`. -/
def roundDiv (tie : Tie) (num den : Nat) : Nat :=
  let below := num / den
  let rest := num % den
  if 2 * rest < den then below
  else if 2 * rest = den ∧ tie.roundsUp below = false then below
  else below + 1

theorem two_mul_roundDiv_le (tie : Tie) (num : Nat) {den : Nat} (h : 0 < den) :
    2 * (roundDiv tie num den * den) ≤ 2 * num + den := by
  have split := Nat.div_add_mod num den
  have small := Nat.mod_lt num h
  rw [Nat.mul_comm den] at split
  simp only [roundDiv]
  split
  · omega
  · split
    · omega
    · rw [Nat.add_mul]; omega

theorem le_two_mul_roundDiv (tie : Tie) (num : Nat) {den : Nat} (h : 0 < den) :
    2 * num ≤ 2 * (roundDiv tie num den * den) + den := by
  have split := Nat.div_add_mod num den
  have small := Nat.mod_lt num h
  rw [Nat.mul_comm den] at split
  simp only [roundDiv]
  split
  · omega
  · split
    · omega
    · rw [Nat.add_mul]; omega

end Stepwise.Numeric
