import Mathlib.Data.Nat.Log
import Mathlib.Tactic.Ring
import Stepwise.Numeric.Binary64

/-!
# Rounding goes up with what is rounded

A greater quotient has no lesser double nearest to it, and a double of greater
magnitude no lesser value. Both are by cases on the shift. With the same shift it
is a fact about mantissas. Of two shifts the greater one decides, since a
mantissa behind a shift has its leading bit, and no mantissa has more bits than
that one and those below it.

So whether a result is finite need only be looked at for the greatest operands.

## Main results

* `nearestMagnitude_mono`: rounding a quotient goes up with the quotient.
* `isFinite_times`: a product is finite if one of greater doubles is.
-/

namespace Stepwise.Numeric

/-! ## Rounded quotients -/

theorem div_le_roundDiv (tie : Tie) (num den : Nat) : num / den ≤ roundDiv tie num den := by
  unfold roundDiv
  dsimp only
  split
  · exact Nat.le_refl _
  · split
    · exact Nat.le_refl _
    · exact Nat.le_succ _

theorem roundDiv_le (tie : Tie) (num den : Nat) : roundDiv tie num den ≤ num / den + 1 := by
  unfold roundDiv
  dsimp only
  split
  · exact Nat.le_succ _
  · split
    · exact Nat.le_succ _
    · exact Nat.le_refl _

theorem roundDiv_mono (tie : Tie) {num num' : Nat} (h : num ≤ num') (den : Nat) :
    roundDiv tie num den ≤ roundDiv tie num' den := by
  have hbelow : num / den ≤ num' / den := Nat.div_le_div_right h
  have hdown := div_le_roundDiv tie num' den
  rcases Nat.lt_or_eq_of_le hbelow with hlt | heq
  · exact (roundDiv_le tie num den).trans (Nat.le_trans hlt hdown)
  · have hrest : num % den ≤ num' % den := by
      have hnum := Nat.div_add_mod num den
      have hnum' := Nat.div_add_mod num' den
      rw [heq] at hnum
      omega
    by_cases hlow : 2 * (num % den) < den
    · rw [roundDiv, if_pos hlow]
      exact hbelow.trans hdown
    · by_cases hmiddle : 2 * (num % den) = den ∧ tie.roundsUp (num / den) = false
      · rw [roundDiv, if_neg hlow, if_pos hmiddle]
        exact hbelow.trans hdown
      · -- What is above the middle, or in it and rounded up, stays so.
        have hlow' : ¬ 2 * (num' % den) < den := by omega
        have hmiddle' : ¬ (2 * (num' % den) = den ∧ tie.roundsUp (num' / den) = false) := by
          rintro ⟨hhalf, htie⟩
          rw [← heq] at htie
          exact hmiddle ⟨by omega, htie⟩
        rw [roundDiv, if_neg hlow, if_neg hmiddle, roundDiv, if_neg hlow', if_neg hmiddle', heq]

/-- What is exact is not rounded. -/
theorem roundDiv_mul (tie : Tie) (n : Nat) {den : Nat} (h : 0 < den) :
    roundDiv tie (n * den) den = n := by
  unfold roundDiv
  dsimp only
  rw [Nat.mul_mod_left, Nat.mul_div_cancel _ h, if_pos (by omega)]

namespace Binary64

/-! ## Magnitudes -/

theorem magnitude_ofMagnitude (negative : Bool) {m : Nat} (h : m ≤ infinity) :
    (ofMagnitude negative m).magnitude = m := by
  have hinfinity : infinity = 9218868437227405312 := rfl
  have hhalf : Nat.pow 2 63 = 9223372036854775808 := by decide
  rw [ofMagnitude, magnitude, hhalf, UInt64.toNat_ofNat']
  cases negative with
  | false =>
      simp only [Bool.false_eq_true, if_false, Nat.add_zero]
      omega
  | true =>
      simp only [if_true]
      omega

theorem nearestMagnitude_le_infinity (num den : Nat) : nearestMagnitude num den ≤ infinity :=
  Nat.min_le_left _ _

theorem magnitude_ofRatio (negative : Bool) (num den : Nat) :
    (ofRatio negative num den).magnitude = nearestMagnitude num den :=
  magnitude_ofMagnitude negative (nearestMagnitude_le_infinity num den)

/-- The shift of the nearest double to a number of units, given as a quotient. -/
def shiftOf (inUnits den : Nat) : Nat := (inUnits / den).log2 - 52

/-- A mantissa has no more than 53 bits. -/
theorem roundDiv_shift_le (tie : Tie) (inUnits : Nat) {den : Nat} (h : 0 < den) :
    roundDiv tie inUnits (den * 2 ^ shiftOf inUnits den) ≤ 2 ^ 53 := by
  have hpositive : 0 < den * 2 ^ shiftOf inUnits den := Nat.mul_pos h (Nat.two_pow_pos _)
  have hquotient : inUnits / den < 2 ^ (shiftOf inUnits den + 53) :=
    Nat.lt_of_lt_of_le Nat.lt_log2_self
      (Nat.pow_le_pow_right (by decide) (by rw [shiftOf]; omega))
  have hunits : inUnits ≤ 2 ^ 53 * (den * 2 ^ shiftOf inUnits den) := by
    have hless := (Nat.div_lt_iff_lt_mul h).mp hquotient
    calc inUnits ≤ 2 ^ (shiftOf inUnits den + 53) * den := hless.le
      _ = 2 ^ 53 * (den * 2 ^ shiftOf inUnits den) := by rw [Nat.pow_add]; ring
  calc roundDiv tie inUnits (den * 2 ^ shiftOf inUnits den)
      ≤ roundDiv tie (2 ^ 53 * (den * 2 ^ shiftOf inUnits den))
          (den * 2 ^ shiftOf inUnits den) := roundDiv_mono tie hunits _
    _ = 2 ^ 53 := roundDiv_mul tie _ hpositive

/-- A mantissa behind a shift has its leading bit. -/
theorem le_roundDiv_shift (tie : Tie) {inUnits den : Nat} (h : 0 < den)
    (hshift : 0 < shiftOf inUnits den) :
    2 ^ 52 ≤ roundDiv tie inUnits (den * 2 ^ shiftOf inUnits den) := by
  have hpositive : 0 < den * 2 ^ shiftOf inUnits den := Nat.mul_pos h (Nat.two_pow_pos _)
  have hlog : (inUnits / den).log2 = shiftOf inUnits den + 52 := by
    rw [shiftOf] at hshift ⊢
    omega
  have hnonzero : inUnits / den ≠ 0 := by
    intro hzero
    rw [hzero] at hlog
    simp at hlog
  have hquotient : 2 ^ (shiftOf inUnits den + 52) ≤ inUnits / den := by
    rw [← hlog]
    exact Nat.log2_self_le hnonzero
  have hunits : 2 ^ 52 * (den * 2 ^ shiftOf inUnits den) ≤ inUnits := by
    calc 2 ^ 52 * (den * 2 ^ shiftOf inUnits den)
        = 2 ^ (shiftOf inUnits den + 52) * den := by rw [Nat.pow_add]; ring
      _ ≤ inUnits := (Nat.le_div_iff_mul_le h).mp hquotient
  calc 2 ^ 52 = roundDiv tie (2 ^ 52 * (den * 2 ^ shiftOf inUnits den))
          (den * 2 ^ shiftOf inUnits den) := (roundDiv_mul tie _ hpositive).symm
    _ ≤ roundDiv tie inUnits (den * 2 ^ shiftOf inUnits den) := roundDiv_mono tie hunits _

/-- Rounding a quotient goes up with the quotient. -/
theorem nearestMagnitude_mono {num num' den : Nat} (h : num ≤ num') (hden : 0 < den) :
    nearestMagnitude num den ≤ nearestMagnitude num' den := by
  have hunits : num * unitsInOne ≤ num' * unitsInOne := Nat.mul_le_mul_right _ h
  generalize hleft : num * unitsInOne = left at hunits
  generalize hright : num' * unitsInOne = right at hunits
  have hlog : shiftOf left den ≤ shiftOf right den := by
    have hquotients : left / den ≤ right / den := Nat.div_le_div_right hunits
    rw [shiftOf, shiftOf, Nat.log2_eq_log_two, Nat.log2_eq_log_two]
    exact Nat.sub_le_sub_right (Nat.log_mono_right hquotients) 52
  have hmagnitude : shiftOf left den * 2 ^ 52 +
        roundDiv .toEven left (den * 2 ^ shiftOf left den) ≤
      shiftOf right den * 2 ^ 52 + roundDiv .toEven right (den * 2 ^ shiftOf right den) := by
    rcases Nat.lt_or_eq_of_le hlog with hlt | heq
    · have hupper := roundDiv_shift_le .toEven left hden
      have hlower : 2 ^ 52 ≤ roundDiv .toEven right (den * 2 ^ shiftOf right den) :=
        le_roundDiv_shift .toEven hden (by omega)
      omega
    · rw [heq]
      exact Nat.add_le_add_left (roundDiv_mono _ hunits _) _
  unfold nearestMagnitude
  rw [hleft, hright]
  exact min_le_min_left infinity hmagnitude

/-! ## Values -/

theorem mantissa_lt (x : Binary64) : x.mantissa < 2 ^ 53 := by
  have hpow : Nat.pow 2 52 = 2 ^ 52 := rfl
  rw [mantissa, shift, hpow]
  omega

theorem le_mantissa {x : Binary64} (h : 0 < x.shift) : 2 ^ 52 ≤ x.mantissa := by
  have hpow : Nat.pow 2 52 = 2 ^ 52 := rfl
  rw [shift, hpow] at h
  rw [mantissa, shift, hpow]
  omega

/-- Values go up with magnitudes. -/
theorem units_mono {x y : Binary64} (h : x.magnitude ≤ y.magnitude) : x.units ≤ y.units := by
  have hpow : Nat.pow 2 52 = 2 ^ 52 := rfl
  have hshift : x.shift ≤ y.shift := by
    rw [shift, shift]
    exact Nat.sub_le_sub_right (Nat.div_le_div_right h) 1
  rw [units, units, Nat.pow_eq, Nat.pow_eq]
  rcases Nat.lt_or_eq_of_le hshift with hlt | heq
  · have hupper := mantissa_lt x
    have hlower : 2 ^ 52 ≤ y.mantissa := le_mantissa (by omega)
    calc x.mantissa * 2 ^ x.shift
        ≤ 2 ^ 53 * 2 ^ x.shift := Nat.mul_le_mul_right _ hupper.le
      _ ≤ 2 ^ 52 * 2 ^ y.shift := by
          rw [← Nat.pow_add, ← Nat.pow_add]
          exact Nat.pow_le_pow_right (by decide) (by omega)
      _ ≤ y.mantissa * 2 ^ y.shift := Nat.mul_le_mul_right _ hlower
  · have hmantissa : x.mantissa ≤ y.mantissa := by
      have hx := shift_mul_add_mantissa x
      have hy := shift_mul_add_mantissa y
      rw [heq] at hx
      omega
    rw [heq]
    exact Nat.mul_le_mul_right _ hmantissa

theorem isFinite_iff {x : Binary64} : x.isFinite = true ↔ x.magnitude < infinity := by
  rw [isFinite, decide_eq_true_eq]

theorem magnitude_ofInt_mono {n m : Nat} (h : n ≤ m) :
    (ofInt n).magnitude ≤ (ofInt m).magnitude := by
  rw [ofInt, ofInt, magnitude_ofRatio, magnitude_ofRatio]
  exact nearestMagnitude_mono (by simpa using h) Nat.one_pos

theorem unitsInOne_pos : 0 < unitsInOne := by decide +kernel

/-- A product is finite if one of greater doubles is. -/
theorem isFinite_times {x x' y y' : Binary64} (hx : x.magnitude ≤ x'.magnitude)
    (hy : y.magnitude ≤ y'.magnitude) (hfinite : (x'.times y').isFinite = true) :
    (x.times y).isFinite = true := by
  rw [isFinite_iff, times, magnitude_ofRatio] at hfinite ⊢
  have hpositive : 0 < unitsInOne * unitsInOne := Nat.mul_pos unitsInOne_pos unitsInOne_pos
  have hunits : x.units * y.units ≤ x'.units * y'.units :=
    Nat.mul_le_mul (units_mono hx) (units_mono hy)
  exact Nat.lt_of_le_of_lt (nearestMagnitude_mono hunits hpositive) hfinite

end Binary64

end Stepwise.Numeric
