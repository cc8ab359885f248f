import Stepwise.Numeric.Shortest
import Stepwise.Proofs.NearestDouble

/-!
# How long a shortest decimal is

The search for a shortest decimal goes from coarse grids to fine ones. A grid on
which nothing is found has steps at least as wide as the interval, so on the next
one, with steps a tenth as wide, there are not many steps up to the end of the
interval. This is why a shortest decimal has no more than seventeen digits.

What is found is in the interval, and so below half a step beyond the double. Of
the greatest double that is not enough to know, since its interval goes beyond
all doubles, but it has one shortest decimal and that can be computed.

## Main results

* `shortest_coefficient_lt`: a shortest decimal has at most seventeen digits.
* `shortest_le_bound`: no shortest decimal is above that of the greatest double.
-/

namespace Stepwise.Numeric

namespace Interval

variable {i : Interval}

/-- A grid without a point in an interval has wide steps. -/
theorem high_le_of_nearest {tie : Tie} {step : Nat} (hlow : i.low ≤ i.value)
    (hhigh : i.value < i.high) (hstep : 0 < step) (h : i.nearest tie step = none) :
    i.high ≤ i.low + step := by
  have hbelow : i.value / step * step ≤ i.value := Nat.div_mul_le_self _ _
  have habove : i.value < i.value / step * step + step := by
    rw [← Nat.succ_mul, Nat.mul_comm]
    exact Nat.lt_mul_div_succ i.value hstep
  have hnone : i.contains (i.value / step * step) = false ∧
      i.contains (i.value / step * step + step) = false := by
    rw [← Nat.succ_mul]
    revert h
    unfold nearest
    dsimp only
    cases i.contains (i.value / step * step) <;>
      cases i.contains ((i.value / step + 1) * step) <;> simp
  obtain ⟨hleft, hright⟩ := hnone
  unfold contains at hleft hright
  cases hclosed : i.closed with
  | true =>
      simp only [hclosed, if_true, decide_eq_false_iff_not] at hleft hright
      omega
  | false =>
      simp only [hclosed, Bool.false_eq_true, if_false, decide_eq_false_iff_not] at hleft hright
      omega

/-- Only the next points of a grid are looked at. -/
theorem le_of_nearest {tie : Tie} {step n : Nat} (h : i.nearest tie step = some n) :
    n ≤ i.value / step + 1 := by
  revert h
  unfold nearest
  dsimp only
  cases i.contains (i.value / step * step) <;> cases i.contains ((i.value / step + 1) * step)
  · simp
  · rintro ⟨⟩
    exact Nat.le_refl _
  · rintro ⟨⟩
    exact Nat.le_succ _
  · rintro ⟨⟩
    exact roundDiv_le tie i.value step

/-- What is found on any but the finest grid is in the interval. -/
theorem shortestBelow_contains (i : Interval) (tie : Tie) (unit place : Nat) :
    (i.shortestBelow tie unit place).2 = 0 ∨
      i.contains ((i.shortestBelow tie unit place).1 *
        (unit * 10 ^ (i.shortestBelow tie unit place).2)) = true := by
  induction place with
  | zero => exact .inl rfl
  | succ place ih =>
      rw [shortestBelow]
      split
      · next n hfound => exact .inr (contains_of_nearest hfound)
      · exact ih

theorem le_high_of_contains {n : Nat} (h : i.contains n = true) : n ≤ i.high := by
  unfold contains at h
  split at h
  · exact (of_decide_eq_true h).2
  · exact (of_decide_eq_true h).2.le

theorem low_le_of_contains {n : Nat} (h : i.contains n = true) : i.low ≤ n := by
  unfold contains at h
  split at h
  · exact (of_decide_eq_true h).1
  · exact (of_decide_eq_true h).1.le

/-- What is found is not zero. -/
theorem shortestBelow_pos (tie : Tie) {unit : Nat} (hunit : 0 < unit) (hlow : 0 < i.low)
    (hvalue : unit ≤ i.value) (place : Nat) : 0 < (i.shortestBelow tie unit place).1 := by
  induction place with
  | zero =>
      rw [shortestBelow]
      have hone : 1 ≤ i.value / unit := (Nat.one_le_div_iff hunit).mpr hvalue
      exact hone.trans (div_le_roundDiv tie i.value unit)
  | succ place ih =>
      rw [shortestBelow]
      split
      · next n hfound =>
          have hcontains := low_le_of_contains (contains_of_nearest hfound)
          exact Nat.pos_of_mul_pos_right (Nat.lt_of_lt_of_le hlow hcontains)
      · exact ih

/-- If nothing is found on a grid, then what is found on a finer one is no great
multiple of its step. -/
theorem shortestBelow_mul_le {tie : Tie} {unit place : Nat} (hunit : 0 < unit)
    (hlow : i.low ≤ i.value) (hroom : i.value + unit ≤ i.high)
    (hgap : i.high ≤ i.low + unit * 10 ^ (place + 1)) :
    (i.shortestBelow tie unit place).1 * (i.high - i.low) ≤ 10 * i.high := by
  induction place with
  | zero =>
      rw [shortestBelow]
      have hround := two_mul_roundDiv_le tie i.value hunit
      have hten : i.high - i.low ≤ 10 * unit := by omega
      calc roundDiv tie i.value unit * (i.high - i.low)
          ≤ roundDiv tie i.value unit * (10 * unit) := Nat.mul_le_mul_left _ hten
        _ = 10 * (roundDiv tie i.value unit * unit) := by ring
        _ ≤ 10 * i.high := Nat.mul_le_mul_left _ (by omega)
  | succ place ih =>
      rw [shortestBelow]
      split
      · next n hfound =>
          have hhigh := le_high_of_contains (contains_of_nearest hfound)
          have hten : i.high - i.low ≤ 10 * (unit * Nat.pow 10 (place + 1)) := by
            have hstep : unit * 10 ^ (place + 1 + 1) = 10 * (unit * Nat.pow 10 (place + 1)) := by
              rw [Nat.pow_eq, Nat.pow_succ 10 (place + 1)]
              ring
            omega
          calc n * (i.high - i.low)
              ≤ n * (10 * (unit * Nat.pow 10 (place + 1))) := Nat.mul_le_mul_left _ hten
            _ = 10 * (n * (unit * Nat.pow 10 (place + 1))) := by ring
            _ ≤ 10 * i.high := Nat.mul_le_mul_left _ hhigh
      · next hnone =>
          have hpositive : 0 < unit * Nat.pow 10 (place + 1) :=
            Nat.mul_pos hunit (Nat.pow_pos (by decide))
          exact ih (high_le_of_nearest hlow (by omega) hpositive hnone)

/-- On the coarsest grid only zero and one step are looked at. -/
theorem shortest_mul_le {tie : Tie} {unit : Nat} (hunit : 0 < unit) (hpositive : 0 < i.low)
    (hlow : i.low ≤ i.value) (hroom : i.value + unit ≤ i.high) :
    (i.shortest tie unit).1 * (i.high - i.low) ≤ 10 * i.high := by
  have htop : i.value < unit * Nat.pow 10 (top (i.value / unit)) := by
    rw [Nat.mul_comm]
    exact (Nat.div_lt_iff_lt_mul hunit).mp (lt_ten_pow_top _)
  rw [shortest]
  rw [top] at htop ⊢
  generalize (i.value / unit).log2 / 3 = place at htop ⊢
  have hstep : 0 < unit * Nat.pow 10 (place + 1) := Nat.mul_pos hunit (Nat.pow_pos (by decide))
  have hzero : i.value / (unit * Nat.pow 10 (place + 1)) = 0 := Nat.div_eq_of_lt htop
  rw [shortestBelow]
  split
  · next n hfound =>
      have hone : n ≤ 1 := by
        have hnext := le_of_nearest hfound
        rwa [hzero] at hnext
      calc n * (i.high - i.low) ≤ 1 * (i.high - i.low) := Nat.mul_le_mul_right _ hone
        _ ≤ 10 * i.high := by omega
  · next hnone =>
      exact shortestBelow_mul_le hunit hlow hroom
        (high_le_of_nearest hlow (by omega) hstep hnone)

end Interval

namespace Binary64

variable {x : Binary64}

theorem mantissa_pos (h : x.magnitude ≠ 0) : 0 < x.mantissa := by
  have hpow : Nat.pow 2 52 = 4503599627370496 := by decide
  rw [mantissa, shift, hpow]
  omega

/-- The unit of the finest grid fits in half an interval. -/
theorem unit_le_scale (x : Binary64) :
    4 * unitsInOne ≤ 2 * (Nat.pow 2 x.shift * Nat.pow 10 places) := by
  have hplaces : 4 * unitsInOne ≤ 2 * Nat.pow 10 places := by decide +kernel
  generalize Nat.pow 10 places = fine at hplaces ⊢
  exact hplaces.trans (Nat.mul_le_mul_left 2 (Nat.le_mul_of_pos_left _ (Nat.two_pow_pos _)))

/-- What is searched for the shortest decimal of a double. The numbers are known by
name only, as what they stand for is not to be computed. The lower end of the
interval is one or two quarters of a unit below the double. -/
structure Search (x : Binary64) where
  interval : Interval
  unit : Nat
  scale : Nat
  fine : Nat
  below : Nat
  shortest_eq : ∀ tie, x.shortest tie =
    ⟨(interval.shortest tie unit).1, ((interval.shortest tie unit).2 : Int) - fine⟩
  unit_eq : 4 * unitsInOne = unit
  unit_pos : 0 < unit
  unit_le : unit ≤ 2 * scale
  fine_pos : 0 < fine
  scale_eq : scale = 2 ^ x.shift * 10 ^ fine
  below_cases : below = 1 ∧ x.mantissa = 2 ^ 52 ∨ below = 2
  low_eq : interval.low = (4 * x.mantissa - below) * scale
  value_eq : interval.value = 4 * x.mantissa * scale
  high_eq : interval.high = (4 * x.mantissa + 2) * scale

/-- A shortest decimal, with the interval and the unit known by name only. -/
theorem shortest_eq {i : Interval} {unit : Nat} (hinterval : x.interval = i)
    (hunit : 4 * unitsInOne = unit) (tie : Tie) :
    x.shortest tie = ⟨(i.shortest tie unit).1, ((i.shortest tie unit).2 : Int) - places⟩ := by
  rw [shortest, hinterval, hunit]

theorem exists_search (x : Binary64) : Nonempty (Search x) := by
  have hpositive : 0 < 4 * unitsInOne := Nat.mul_pos (by decide) unitsInOne_pos
  have hends : ∃ below, (below = 1 ∧ x.mantissa = 2 ^ 52 ∨ below = 2) ∧
      x.interval.low = (4 * x.mantissa - below) * (Nat.pow 2 x.shift * Nat.pow 10 places) ∧
      x.interval.value = 4 * x.mantissa * (Nat.pow 2 x.shift * Nat.pow 10 places) ∧
      x.interval.high = (4 * x.mantissa + 2) * (Nat.pow 2 x.shift * Nat.pow 10 places) := by
    rw [interval]
    dsimp only
    generalize Nat.pow 2 x.shift * Nat.pow 10 places = scale
    by_cases hnarrow : x.mantissa = Nat.pow 2 52 ∧ 0 < x.shift
    · rw [if_pos hnarrow]
      exact ⟨1, .inl ⟨rfl, hnarrow.1⟩, rfl, rfl, rfl⟩
    · rw [if_neg hnarrow]
      exact ⟨2, .inr rfl, rfl, rfl, rfl⟩
  obtain ⟨below, hbelow, hlow, hvalue, hhigh⟩ := hends
  obtain ⟨scale, hscale⟩ : ∃ scale, Nat.pow 2 x.shift * Nat.pow 10 places = scale := ⟨_, rfl⟩
  obtain ⟨unit, hunit⟩ : ∃ unit, 4 * unitsInOne = unit := ⟨_, rfl⟩
  have hroom := x.unit_le_scale
  have hpow : ∀ fine, Nat.pow 2 x.shift * Nat.pow 10 fine = 2 ^ x.shift * 10 ^ fine :=
    fun _ => rfl
  rw [hscale] at hlow hvalue hhigh hroom
  rw [hunit] at hroom hpositive
  exact ⟨{
    interval := x.interval
    unit := unit
    scale := scale
    fine := places
    below := below
    shortest_eq := shortest_eq rfl hunit
    unit_eq := hunit
    unit_pos := hpositive
    unit_le := hroom
    fine_pos := by decide
    scale_eq := hscale.symm.trans (hpow places)
    below_cases := hbelow
    low_eq := hlow
    value_eq := hvalue
    high_eq := hhigh }⟩

namespace Search

variable (s : Search x)

theorem scale_pos : 0 < s.scale := by
  have hpositive := s.unit_pos
  have hroom := s.unit_le
  omega

theorem low_pos (h : x.magnitude ≠ 0) : 0 < s.interval.low := by
  have hmantissa := mantissa_pos h
  have hbelow := s.below_cases
  rw [s.low_eq]
  exact Nat.mul_pos (by omega) s.scale_pos

theorem low_le_value : s.interval.low ≤ s.interval.value := by
  rw [s.low_eq, s.value_eq]
  exact Nat.mul_le_mul_right _ (Nat.sub_le _ _)

theorem value_add_unit_le : s.interval.value + s.unit ≤ s.interval.high := by
  rw [s.value_eq, s.high_eq, Nat.add_mul]
  exact Nat.add_le_add_left s.unit_le _

theorem unit_le_value (h : x.magnitude ≠ 0) : s.unit ≤ s.interval.value := by
  have hmantissa := mantissa_pos h
  rw [s.value_eq]
  exact s.unit_le.trans (Nat.mul_le_mul_right _ (by omega))

end Search

/-- A shortest decimal has at most seventeen digits. -/
theorem shortest_coefficient_lt (tie : Tie) (h : x.magnitude ≠ 0) :
    (x.shortest tie).coefficient < 10 ^ 17 := by
  obtain ⟨s⟩ := x.exists_search
  have hbits := mantissa_lt x
  have hbelow := s.below_cases
  have hsearch : (s.interval.shortest tie s.unit).1 * (s.interval.high - s.interval.low) ≤
      10 * s.interval.high :=
    Interval.shortest_mul_le s.unit_pos (s.low_pos h) s.low_le_value s.value_add_unit_le
  have hwidth : s.interval.high - s.interval.low = (2 + s.below) * s.scale := by
    have hmantissa := mantissa_pos h
    rw [s.high_eq, s.low_eq, ← Nat.sub_mul]
    congr 1
    omega
  rw [hwidth, s.high_eq, ← Nat.mul_assoc, ← Nat.mul_assoc] at hsearch
  have hcount := Nat.le_of_mul_le_mul_right hsearch s.scale_pos
  rw [s.shortest_eq]
  show (s.interval.shortest tie s.unit).1 < 10 ^ 17
  rcases hbelow with ⟨hone, hpower⟩ | htwo
  · rw [hone] at hcount
    omega
  · rw [htwo] at hcount
    omega

theorem shortest_coefficient_pos (tie : Tie) (h : x.magnitude ≠ 0) :
    0 < (x.shortest tie).coefficient := by
  obtain ⟨s⟩ := x.exists_search
  rw [s.shortest_eq]
  exact Interval.shortestBelow_pos tie s.unit_pos (s.low_pos h) (s.unit_le_value h) _

/-! ## The greatest shortest decimal -/

/-- The greatest finite double. -/
def greatest : Binary64 := ⟨0x7fefffffffffffff⟩

/-- The value of its shortest decimal. -/
def shortestBound : Nat := 17976931348623157 * Nat.pow 10 292

theorem shortestBound_eq : ∃ fine, fine = 292 ∧ shortestBound = 17976931348623157 * 10 ^ fine := by
  refine ⟨292, rfl, ?_⟩
  decide +kernel

theorem shortest_greatest (tie : Tie) : (greatest.shortest tie).coefficient = 17976931348623157 ∧
    (greatest.shortest tie).exponent = 292 := by
  cases tie <;> decide +kernel

/-- A shortest decimal does not depend on the sign. -/
theorem shortest_congr {y : Binary64} (h : x.magnitude = y.magnitude) (tie : Tie) :
    x.shortest tie = y.shortest tie := by
  have hshift : x.shift = y.shift := by rw [shift, shift, h]
  have hmantissa : x.mantissa = y.mantissa := by rw [mantissa, mantissa, hshift, h]
  have hinterval : x.interval = y.interval := by rw [interval, interval, hshift, hmantissa]
  rw [shortest_eq hinterval rfl, shortest_eq rfl rfl]

/-- Of two shifts the greater one decides where an interval ends. -/
theorem high_le_of_shift {m shift top : Nat} (hbits : m < 2 ^ 53) (hshift : shift < top) :
    (4 * m + 2) * 2 ^ shift ≤ (4 * (2 ^ 53 - 2) + 2) * 2 ^ top := by
  calc (4 * m + 2) * 2 ^ shift
      ≤ (2 * (4 * (2 ^ 53 - 2) + 2)) * 2 ^ shift := Nat.mul_le_mul_right _ (by omega)
    _ = (4 * (2 ^ 53 - 2) + 2) * 2 ^ (shift + 1) := by ring
    _ ≤ (4 * (2 ^ 53 - 2) + 2) * 2 ^ top :=
        Nat.mul_le_mul_left _ (Nat.pow_le_pow_right (by decide) hshift)

/-- The interval of a double below the greatest one ends below the shortest
decimal of that. -/
theorem high_le_bound (h : x.magnitude < greatest.magnitude) :
    (4 * x.mantissa + 2) * 2 ^ x.shift ≤ 4 * unitsInOne * shortestBound := by
  obtain ⟨top, htop⟩ : ∃ top, top = 2045 := ⟨_, rfl⟩
  have hbound : (4 * (2 ^ 53 - 2) + 2) * 2 ^ top ≤ 4 * unitsInOne * shortestBound := by
    rw [htop]
    decide +kernel
  have hgreatest : greatest.magnitude = 9218868437227405311 := by decide
  have hpow : Nat.pow 2 52 = 4503599627370496 := by decide
  have hbits := mantissa_lt x
  have hsplit := shift_mul_add_mantissa x
  have hlead : 0 < x.shift → 2 ^ 52 ≤ x.mantissa := le_mantissa
  rw [hgreatest] at h
  rw [hpow] at hsplit
  refine Nat.le_trans ?_ hbound
  by_cases hlast : x.shift = top
  · have hmantissa : 4 * x.mantissa + 2 ≤ 4 * (2 ^ 53 - 2) + 2 := by omega
    rw [hlast]
    exact Nat.mul_le_mul_right _ hmantissa
  · exact high_le_of_shift hbits (by omega)

/-- What is found on any but the finest grid is below the end of the interval. -/
theorem shortest_mul_le_high {tie : Tie} (hexponent : 0 ≤ (x.shortest tie).exponent) :
    (x.shortest tie).coefficient * 10 ^ (x.shortest tie).exponent.toNat * (4 * unitsInOne) ≤
      (4 * x.mantissa + 2) * 2 ^ x.shift := by
  obtain ⟨s⟩ := x.exists_search
  have hpositive := s.fine_pos
  have hfound : (s.interval.shortest tie s.unit).2 = 0 ∨ s.interval.contains
      ((s.interval.shortest tie s.unit).1 *
        (s.unit * 10 ^ (s.interval.shortest tie s.unit).2)) = true :=
    s.interval.shortestBelow_contains tie s.unit _
  rw [s.shortest_eq] at hexponent ⊢
  rw [s.unit_eq]
  generalize s.interval.shortest tie s.unit = found at hfound hexponent ⊢
  obtain ⟨n, place⟩ := found
  dsimp only at hfound hexponent ⊢
  obtain ⟨exponent, rfl⟩ : ∃ exponent, place = exponent + s.fine := ⟨place - s.fine, by omega⟩
  have htoNat : ((exponent + s.fine : Nat) - s.fine : Int).toNat = exponent := by omega
  have hhigh := Interval.le_high_of_contains (hfound.resolve_left (by omega))
  rw [s.high_eq, s.scale_eq] at hhigh
  rw [htoNat]
  have hfine : 0 < 10 ^ s.fine := Nat.pow_pos (by decide)
  refine Nat.le_of_mul_le_mul_right ?_ hfine
  calc n * 10 ^ exponent * s.unit * 10 ^ s.fine = n * (s.unit * 10 ^ (exponent + s.fine)) := by
        rw [Nat.pow_add]
        ring
    _ ≤ (4 * x.mantissa + 2) * (2 ^ x.shift * 10 ^ s.fine) := hhigh
    _ = (4 * x.mantissa + 2) * 2 ^ x.shift * 10 ^ s.fine := by ring

/-- No shortest decimal is above that of the greatest double. -/
theorem shortest_le_bound {tie : Tie} (hfinite : x.isFinite = true)
    (hexponent : 0 ≤ (x.shortest tie).exponent) :
    (x.shortest tie).coefficient * 10 ^ (x.shortest tie).exponent.toNat ≤ shortestBound := by
  have hbelow : x.magnitude < 9218868437227405312 := isFinite_iff.mp hfinite
  have hgreatest : greatest.magnitude = 9218868437227405311 := by decide
  rcases Nat.lt_or_ge x.magnitude greatest.magnitude with hlt | hge
  · have hpositive : 0 < 4 * unitsInOne := by
      have hone := unitsInOne_pos
      omega
    have hvalue := (shortest_mul_le_high hexponent).trans (high_le_bound hlt)
    rw [Nat.mul_comm (4 * unitsInOne)] at hvalue
    exact Nat.le_of_mul_le_mul_right hvalue hpositive
  · have hsame : x.magnitude = greatest.magnitude := by omega
    obtain ⟨hcoefficient, hplace⟩ := shortest_greatest tie
    rw [shortest_congr hsame, hcoefficient, hplace]
    decide +kernel

end Binary64

end Stepwise.Numeric
