import Stepwise.Numeric.Binary64

/-!
# Shortest decimals

The decimal number with the fewest digits among those that are read back as a
certain double, and of several the one nearest to it.

The numbers that are read back as a double form an interval. Its ends and all
grids of decimal numbers that matter are multiples of one tiny unit, so the
search is a comparison of natural numbers. It goes from coarse grids to fine
ones, and on each looks at the two neighbours of the double: if any point of a
grid lies in the interval, so does one of these.

## Main results

* `contains_of_nearest`: what is found on a grid is read back.
* `lt_ten_pow_top`: the search starts above the leading digit.
-/

namespace Stepwise.Numeric

/-- A value and the numbers that stand for it, all in one unit. -/
structure Interval where
  low : Nat
  value : Nat
  high : Nat
  /-- Whether the ends stand for the value too. -/
  closed : Bool

namespace Interval

variable (i : Interval)

/-- Whether a number stands for the value. -/
def contains (n : Nat) : Bool :=
  if i.closed then i.low ≤ n ∧ n ≤ i.high else i.low < n ∧ n < i.high

/-- Which multiple of `step` next to the value stands for it, and of two the
nearer one. -/
def nearest (tie : Tie) (step : Nat) : Option Nat :=
  let below := i.value / step
  match i.contains (below * step), i.contains ((below + 1) * step) with
  | true, true => some (roundDiv tie i.value step)
  | true, false => some below
  | false, true => some (below + 1)
  | false, false => none

theorem contains_of_nearest {i : Interval} {tie : Tie} {step n : Nat}
    (h : i.nearest tie step = some n) : i.contains (n * step) = true := by
  simp only [nearest] at h
  split at h
  · rename_i below above
    have either : roundDiv tie i.value step = i.value / step ∨
        roundDiv tie i.value step = i.value / step + 1 := by
      simp only [roundDiv]
      split
      · exact .inl rfl
      · split
        · exact .inl rfl
        · exact .inr rfl
    simp only [Option.some.injEq] at h
    subst h
    rcases either with e | e
    · rw [e]; exact below
    · rw [e]; exact above
  · simp_all
  · simp_all
  · simp at h

/-- The coarsest grid of the form `unit · 10 ^ place` with a point that stands
for the value, from a place downwards: the point and the place. -/
def shortestBelow (tie : Tie) (unit : Nat) : Nat → Nat × Nat
  | 0 => (roundDiv tie i.value unit, 0)
  | place + 1 =>
      match i.nearest tie (unit * Nat.pow 10 (place + 1)) with
      | some n => (n, place + 1)
      | none => shortestBelow tie unit place

/-- A place above the leading digit of a number. -/
def top (n : Nat) : Nat := n.log2 / 3 + 1

theorem lt_ten_pow_top (n : Nat) : n < Nat.pow 10 (top n) := by
  have small : n < Nat.pow 2 (3 * top n) := by
    refine Nat.lt_of_lt_of_le Nat.lt_log2_self ?_
    exact Nat.pow_le_pow_right (by decide) (by simp only [top]; omega)
  rw [Nat.pow_eq, Nat.pow_mul] at small
  exact Nat.lt_of_lt_of_le small (Nat.pow_le_pow_left (by decide) _)

/-- The coarsest grid with a point that stands for the value. -/
def shortest (tie : Tie) (unit : Nat) : Nat × Nat :=
  i.shortestBelow tie unit (top (i.value / unit))

end Interval

/-- The number `coefficient · 10 ^ exponent`. -/
structure Decimal where
  coefficient : Nat
  exponent : Int

namespace Binary64

/-- The finest decimal place that is looked at, after the point. Seventeen
digits tell any two doubles apart, and none is less than `10 ^ -324`. -/
def places : Nat := 341

/-- The numbers that are read back as a finite double. They reach half way to
its neighbours; the lower one is nearer if the double is a power of two. The
unit is a quarter of the least positive double, divided by `10 ^ places`. -/
def interval (x : Binary64) : Interval :=
  let narrow := x.mantissa = Nat.pow 2 52 ∧ 0 < x.shift
  let scale := Nat.pow 2 x.shift * Nat.pow 10 places
  { low := (4 * x.mantissa - if narrow then 1 else 2) * scale
    value := 4 * x.mantissa * scale
    high := (4 * x.mantissa + 2) * scale
    closed := x.mantissa % 2 = 0 }

/-- The shortest decimal number that is read back as a finite double other
than zero. -/
def shortest (tie : Tie) (x : Binary64) : Decimal :=
  let found := x.interval.shortest tie (4 * unitsInOne)
  ⟨found.1, (found.2 : Int) - places⟩

end Binary64

end Stepwise.Numeric
