import Stepwise.Json.Read
import Stepwise.Proofs.ShortestDecimal
import Stepwise.Proofs.WrittenTokens

/-!
# Written doubles are read as doubles

A finite double is written by its shortest decimal, and every such text is one
numeral for which there is a double. That is not because the same double comes
back. A reader scales the significand by a power of ten, and what it gets may
have another last place, or be no double at all if it is too great. That this
does not happen needs two bounds. A significand has at most seventeen digits,
so none of them is dropped. And it is not above that of the greatest double with
the same power of ten, so the result is finite if the greatest one is.

The ways to lay out a decimal differ in where the point stands and whether there
is an exponent. To the reader they are one: a *spelling*, digits on either side
of the point and an exponent, each of them possibly missing.

## Main results

* `Spelling.number?_numeral`: the number that is read from a spelling.
* `exists_spelling`: a finite double is written as a spelling of some double.
* `tokensFrom_write`: a finite double is read as one double.
-/

namespace Stepwise.Json

open Stepwise.Text Stepwise.Numeric

/-! ## Values of digits -/

theorem le_valueFrom (n : Nat) (ds : List Nat) : n ≤ valueFrom n ds := by
  induction ds generalizing n with
  | nil => exact Nat.le_refl n
  | cons d rest ih =>
      have hrest : n * 10 + d ≤ valueFrom n (d :: rest) := ih (n * 10 + d)
      omega

theorem valueFrom_lt {n : Nat} {ds : List Nat} (h : ∀ d ∈ ds, d < 10) :
    valueFrom n ds < (n + 1) * 10 ^ ds.length := by
  induction ds generalizing n with
  | nil => simp [valueFrom]
  | cons d rest ih =>
      have hd : d < 10 := h d List.mem_cons_self
      have hrest : valueFrom n (d :: rest) < (n * 10 + d + 1) * 10 ^ rest.length :=
        ih fun d' hd' => h d' (List.mem_cons_of_mem _ hd')
      calc valueFrom n (d :: rest) < (n * 10 + d + 1) * 10 ^ rest.length := hrest
        _ ≤ ((n + 1) * 10) * 10 ^ rest.length := Nat.mul_le_mul_right _ (by omega)
        _ = (n + 1) * 10 ^ (d :: rest).length := by rw [List.length_cons, Nat.pow_succ]; ring

theorem valueFrom_zeros (k : Nat) : valueFrom 0 (List.replicate k 0) = 0 := by
  induction k with
  | zero => rfl
  | succ k ih => exact ih

/-- Digits that fit are all taken. -/
theorem Numeral.take_of_lt {n : Nat} {ds : List Nat} (h : valueFrom n ds < Nat.pow 2 64) :
    take n ds = (valueFrom n ds, 0) := by
  induction ds generalizing n with
  | nil => rfl
  | cons d rest ih =>
      have hfits : n * 10 + d < Nat.pow 2 64 :=
        Nat.lt_of_le_of_lt (le_valueFrom (n * 10 + d) rest) h
      rw [take, if_pos hfits]
      exact ih h

/-! ## Spellings -/

/-- Digits on either side of a point, and an exponent. Without digits behind it
there is no point, and something must tell the numeral from an integer. -/
structure Spelling where
  whole : List Nat
  fraction : List Nat
  exponent : Option Int
  lt_ten : ∀ d ∈ whole ++ fraction, d < 10
  leading : ∃ d rest, whole = d :: rest ∧ (d = 0 → rest = [])
  isFloat : fraction ≠ [] ∨ exponent ≠ none

namespace Spelling

/-- The text of the digits behind a point. -/
def fractionText : List Nat → List Char
  | [] => []
  | d :: rest => '.' :: digitText (d :: rest)

theorem fractionText_of_ne_nil {ds : List Nat} (h : ds ≠ []) :
    fractionText ds = '.' :: digitText ds := by
  cases ds with
  | nil => exact absurd rfl h
  | cons d rest => rfl

/-- The text of an exponent. -/
def exponentText : Option Int → List Char
  | none => []
  | some e => 'e' :: (if e < 0 then '-' else '+') :: decimal e.natAbs

variable (s : Spelling)

def text : List Char :=
  digitText s.whole ++ fractionText s.fraction ++ exponentText s.exponent

/-- The number that all digits stand for, without the point. -/
def significand : Nat := valueFrom 0 (s.whole ++ s.fraction)

/-- The power of ten that goes with it. -/
def scaling : Int := s.exponent.getD 0 - s.fraction.length

/-- What has been read in front of the exponent. -/
def mantissa (negative : Bool) : Numeral :=
  ⟨negative, s.whole.reverse, s.fraction.reverse, false, [], !s.fraction.isEmpty⟩

/-- What has been read at the end. The digits of the exponent come last first. -/
def numeral (negative : Bool) (exponent : List Nat) : Numeral :=
  ⟨negative, s.whole.reverse, s.fraction.reverse, s.exponent.getD 0 < 0, exponent, true⟩

/-- Where a numeral stands in front of the exponent. -/
inductive MantissaEnd : Numeral.Part → Prop where
  | zero (h : s.fraction = []) : MantissaEnd .zero
  | whole (h : s.fraction = []) : MantissaEnd .whole
  | fraction (h : s.fraction ≠ []) : MantissaEnd .fraction

/-- The digits behind a point are gathered. -/
theorem run_fraction (n : Numeral) {part : Numeral.Part} (hpart : part = .zero ∨ part = .whole)
    {d : Nat} {rest : List Nat} (h : ∀ d' ∈ d :: rest, d' < 10) :
    run (.numeral n part) ('.' :: digitText (d :: rest)) =
      (.numeral { n with isFloat := true, fraction := (d :: rest).reverse ++ n.fraction } .fraction,
        []) := by
  have hpoint : n.next part '.' = .more { n with isFloat := true } .point := by
    rcases hpart with rfl | rfl
    · rfl
    · rfl
  have hfirst : { n with isFloat := true }.next .point (Nat.digitChar d) =
      .more { n with isFloat := true, fraction := d :: n.fraction } .fraction := by
    simp only [Numeral.next, Numeral.digit?_digitChar (h d List.mem_cons_self)]
  have hnext : ∀ before d', d' < 10 →
      { n with isFloat := true, fraction := before }.next .fraction (Nat.digitChar d') =
        .more { n with isFloat := true, fraction := d' :: before } .fraction := by
    intro before d' hd'
    simp only [Numeral.next, Numeral.digit?_digitChar hd']
  have hrest := run_digits hnext (fun d' hd' => h d' (List.mem_cons_of_mem _ hd'))
    (d :: n.fraction)
  have htext : digitText (d :: rest) = Nat.digitChar d :: digitText rest := rfl
  rw [htext, run, run, step, hpoint]
  simp only [step, hfirst, hrest, List.append_nil, List.reverse_cons, List.append_assoc,
    List.singleton_append]

/-- The digits of an exponent are gathered. -/
theorem run_exponent (n : Numeral) (hpositive : n.exponentNegative = false)
    (hexponent : n.exponent = []) (e : Int) :
    ∃ digits, Numeral.ofDigits digits = e.natAbs ∧
      run (.numeral n .mark) ((if e < 0 then '-' else '+') :: decimal e.natAbs) =
        (.numeral { n with exponentNegative := e < 0, exponent := digits } .exponent, []) := by
  obtain ⟨ds, htext, hvalue, hlt, d, rest, rfl, -⟩ := exists_isDecimal e.natAbs
  have hsign : n.next .mark (if e < 0 then '-' else '+') =
      .more { n with exponentNegative := e < 0 } .exponentSign := by
    by_cases hneg : e < 0
    · simp [hneg, Numeral.next, Numeral.digit?]
    · rw [if_neg hneg, decide_eq_false hneg, ← hpositive]
      rfl
  have hfirst : { n with exponentNegative := e < 0 }.next .exponentSign (Nat.digitChar d) =
      .more { n with exponentNegative := e < 0, exponent := [d] } .exponent := by
    simp only [Numeral.next, Numeral.digit?_digitChar (hlt d List.mem_cons_self), hexponent]
  have hnext : ∀ before d', d' < 10 →
      { n with exponentNegative := e < 0, exponent := before }.next .exponent
          (Nat.digitChar d') =
        .more { n with exponentNegative := e < 0, exponent := d' :: before } .exponent := by
    intro before d' hd'
    simp only [Numeral.next, Numeral.digit?_digitChar hd']
  have hrest := run_digits hnext (fun d' hd' => hlt d' (List.mem_cons_of_mem _ hd')) [d]
  refine ⟨(d :: rest).reverse, ?_, ?_⟩
  · rw [Numeral.ofDigits_reverse, hvalue]
  · have hdigits : digitText (d :: rest) = Nat.digitChar d :: digitText rest := rfl
    rw [htext, hdigits, run, run, step, hsign]
    simp only [step, hfirst, hrest, List.append_nil, List.reverse_cons]

variable {s}

theorem run_mantissa {m : Mode} {negative : Bool}
    (hbegins : ∀ d < 10, step m (Nat.digitChar d) =
      step (.numeral (.start negative) .sign) (Nat.digitChar d)) :
    ∃ part, s.MantissaEnd part ∧ run m (digitText s.whole ++ fractionText s.fraction) =
      (.numeral (s.mantissa negative) part, []) := by
  obtain ⟨d, rest, hwhole, hzero⟩ := s.leading
  have hlt : ∀ d' ∈ d :: rest, d' < 10 := by
    intro d' hd'
    exact s.lt_ten d' (List.mem_append_left _ (hwhole ▸ hd'))
  obtain ⟨part, hpart, hrun⟩ := run_whole hbegins hlt hzero
  rw [run_append, hwhole, hrun, mantissa, hwhole]
  cases hfraction : s.fraction with
  | nil =>
      refine ⟨part, ?_, rfl⟩
      rcases hpart with rfl | rfl
      · exact .zero hfraction
      · exact .whole hfraction
  | cons f fs =>
      have hlt' : ∀ d' ∈ f :: fs, d' < 10 := by
        intro d' hd'
        exact s.lt_ten d' (List.mem_append_right _ (hfraction ▸ hd'))
      refine ⟨.fraction, .fraction (by simp [hfraction]), ?_⟩
      rw [fractionText]
      dsimp only
      rw [run_fraction _ hpart hlt']
      simp [Numeral.ofWhole, Numeral.start]

/-- A spelling is read as one numeral. -/
theorem run_text {m : Mode} {negative : Bool}
    (hbegins : ∀ d < 10, step m (Nat.digitChar d) =
      step (.numeral (.start negative) .sign) (Nat.digitChar d)) :
    ∃ digits part, part.canEnd = true ∧
      Numeral.ofDigits digits = (s.exponent.getD 0).natAbs ∧
      run m s.text = (.numeral (s.numeral negative digits) part, []) := by
  obtain ⟨part, hpart, hrun⟩ := s.run_mantissa hbegins
  rw [text, run_append, hrun]
  unfold numeral
  cases hexponent : s.exponent with
  | none =>
      have hfraction : s.fraction ≠ [] := s.isFloat.resolve_right (· hexponent)
      refine ⟨[], part, ?_, rfl, ?_⟩
      · cases hpart <;> rfl
      · simp [exponentText, run, mantissa, hfraction]
  | some e =>
      have hmark : step (.numeral (s.mantissa negative) part) 'e' =
          (.numeral { s.mantissa negative with isFloat := true } .mark, []) := by
        cases hpart with
        | zero h => rfl
        | whole h => rfl
        | fraction h => simp [step, Numeral.next, Numeral.digit?, mantissa, h]
      obtain ⟨digits, hdigits, hrest⟩ :=
        run_exponent { s.mantissa negative with isFloat := true } rfl rfl e
      refine ⟨digits, .exponent, rfl, hdigits, ?_⟩
      rw [exponentText, run, hmark, hrest]
      rfl

/-- The number that is read from a spelling. -/
theorem number?_numeral (hfits : s.significand < Nat.pow 2 64) (negative : Bool)
    {digits : List Nat} (hdigits : Numeral.ofDigits digits = (s.exponent.getD 0).natAbs) :
    (s.numeral negative digits).number? =
      (Numeral.scale s.significand s.scaling).map
        fun x => .float (if negative then x.neg else x) := by
  have hwhole : Numeral.take 0 s.whole = (valueFrom 0 s.whole, 0) := by
    refine Numeral.take_of_lt (Nat.lt_of_le_of_lt ?_ hfits)
    rw [significand, valueFrom_append]
    exact le_valueFrom _ _
  have hfraction : Numeral.take (valueFrom 0 s.whole) s.fraction = (s.significand, 0) := by
    rw [significand, valueFrom_append] at hfits ⊢
    exact Numeral.take_of_lt hfits
  have hscaling : (if (s.numeral negative digits).exponentNegative then
        ((0 : Nat) : Int) - (s.fraction.length - 0 : Nat) - Numeral.ofDigits digits
      else ((0 : Nat) : Int) - (s.fraction.length - 0 : Nat) + Numeral.ofDigits digits) =
      s.scaling := by
    rw [hdigits, scaling, numeral]
    dsimp only
    by_cases hneg : s.exponent.getD 0 < 0
    · rw [if_pos (decide_eq_true hneg)]
      omega
    · rw [decide_eq_false hneg, if_neg Bool.false_ne_true]
      omega
  have hfloat : (s.numeral negative digits).float? =
      (Numeral.scale s.significand s.scaling).map fun x => if negative then x.neg else x := by
    rw [← hscaling, Numeral.float?]
    simp only [numeral, List.reverse_reverse, hwhole, hfraction, List.length_reverse]
    congr
  have hnumber : (s.numeral negative digits).number? =
      (s.numeral negative digits).float?.map .float := rfl
  rw [hnumber, hfloat, Option.map_map]
  rfl

end Spelling

/-! ## Layouts -/

section

variable {c : Nat} {ds : List Nat}

/-- A decimal below one, with zeros in front of its digits. -/
theorem exists_spelling_below (h : IsDecimal c ds) (hc : c ≠ 0) (n : Nat) :
    ∃ s : Spelling, Layout.positional (digitText ds) (.negSucc n) = s.text ∧
      s.significand = c ∧ s.scaling < 0 := by
  obtain ⟨d, rest, rfl, -⟩ := h.leading_ne_zero hc
  have hten : ∀ d' ∈ [0] ++ (List.replicate n 0 ++ d :: rest), d' < 10 := by
    intro d' hd'
    rw [← List.append_assoc, List.mem_append] at hd'
    rcases hd' with hzero | hdigit
    · have hzeros : d' ∈ List.replicate (n + 1) 0 := hzero
      rw [List.eq_of_mem_replicate hzeros]
      decide
    · exact h.lt_ten d' hdigit
  refine ⟨{
    whole := [0]
    fraction := List.replicate n 0 ++ d :: rest
    exponent := none
    lt_ten := hten
    leading := ⟨0, [], rfl, fun _ => rfl⟩
    isFloat := .inl (by simp) }, ?_, ?_, ?_⟩
  · rw [Spelling.text, Spelling.fractionText_of_ne_nil (by simp), digitText_append,
      digitText_zeros]
    simp [Layout.positional, Spelling.exponentText, digitText]
  · have hzeros : valueFrom (valueFrom 0 [0]) (List.replicate n 0) = 0 := valueFrom_zeros n
    rw [Spelling.significand, valueFrom_append, valueFrom_append, hzeros, h.value]
  · simp only [Spelling.scaling, Option.getD_none, List.length_append, List.length_cons]
    omega

/-- A decimal whose digits all stand in front of the point, with zeros behind them. -/
theorem exists_spelling_above (h : IsDecimal c ds) (hc : c ≠ 0) {n : Nat}
    (hlength : ds.length ≤ n + 1) :
    ∃ s : Spelling, Layout.positional (digitText ds) (.ofNat n) = s.text ∧
      s.significand < 10 ^ (n + 2) ∧ s.scaling < 0 := by
  obtain ⟨d, rest, hcons, hlead⟩ := h.leading_ne_zero hc
  have hten : ∀ d' ∈ ds ++ List.replicate (n + 1 - ds.length) 0 ++ [0], d' < 10 := by
    intro d' hd'
    rw [List.append_assoc, List.mem_append, ← List.replicate_succ'] at hd'
    rcases hd' with hdigit | hzero
    · exact h.lt_ten d' hdigit
    · rw [List.eq_of_mem_replicate hzero]
      decide
  have hleading : ds ++ List.replicate (n + 1 - ds.length) 0 =
      d :: (rest ++ List.replicate (n + 1 - ds.length) 0) := by
    rw [hcons]
    rfl
  refine ⟨{
    whole := ds ++ List.replicate (n + 1 - ds.length) 0
    fraction := [0]
    exponent := none
    lt_ten := hten
    leading := ⟨d, _, hleading, fun hzero => absurd hzero hlead⟩
    isFloat := .inl (by simp) }, ?_, ?_, ?_⟩
  · rw [Spelling.text, digitText_append, digitText_zeros, Layout.positional, length_digitText,
      if_pos hlength]
    simp [Spelling.exponentText, Spelling.fractionText, digitText]
  · have hbound := @valueFrom_lt 0 _ hten
    have hcount : (ds ++ List.replicate (n + 1 - ds.length) 0 ++ [0]).length = n + 2 := by
      simp only [List.length_append, List.length_replicate, List.length_singleton]
      omega
    rwa [hcount, Nat.zero_add, Nat.one_mul] at hbound
  · simp [Spelling.scaling]

/-- A decimal with the point among its digits. -/
theorem exists_spelling_between (h : IsDecimal c ds) (hc : c ≠ 0) {n : Nat}
    (hlength : n + 1 < ds.length) :
    ∃ s : Spelling, Layout.positional (digitText ds) (.ofNat n) = s.text ∧
      s.significand = c ∧ s.scaling < 0 := by
  obtain ⟨d, rest, hcons, hlead⟩ := h.leading_ne_zero hc
  have hten : ∀ d' ∈ ds.take (n + 1) ++ ds.drop (n + 1), d' < 10 := by
    rw [List.take_append_drop]
    exact h.lt_ten
  have hbehind : ds.drop (n + 1) ≠ [] := by
    rw [Ne, List.drop_eq_nil_iff]
    omega
  have hleading : ds.take (n + 1) = d :: rest.take n := by
    rw [hcons]
    rfl
  refine ⟨{
    whole := ds.take (n + 1)
    fraction := ds.drop (n + 1)
    exponent := none
    lt_ten := hten
    leading := ⟨d, _, hleading, fun hzero => absurd hzero hlead⟩
    isFloat := .inl hbehind }, ?_, ?_, ?_⟩
  · rw [Spelling.text, Spelling.fractionText_of_ne_nil hbehind, Layout.positional,
      length_digitText, if_neg (by omega)]
    simp [Spelling.exponentText, digitText]
  · rw [Spelling.significand, List.take_append_drop, h.value]
  · simp only [Spelling.scaling, Option.getD_none, List.length_drop]
    omega

/-- A decimal without exponent. What zeros are put in behind it, there are few. -/
theorem exists_spelling_positional (h : IsDecimal c ds) (hc : c ≠ 0) (hlt : c < 10 ^ 17) {e : Int}
    (he : e < 16) :
    ∃ s : Spelling, Layout.positional (digitText ds) e = s.text ∧
      s.significand < 10 ^ 17 ∧ s.scaling < 0 := by
  cases e with
  | negSucc n =>
      obtain ⟨s, htext, hs, hscaling⟩ := exists_spelling_below h hc n
      exact ⟨s, htext, by omega, hscaling⟩
  | ofNat n =>
      rcases Nat.lt_or_ge (n + 1) ds.length with hlong | hshort
      · obtain ⟨s, htext, hs, hscaling⟩ := exists_spelling_between h hc hlong
        exact ⟨s, htext, by omega, hscaling⟩
      · obtain ⟨s, htext, hs, hscaling⟩ := exists_spelling_above h hc hshort
        have hn : n < 16 := Int.ofNat_lt.mp he
        have hpow : 10 ^ (n + 2) ≤ 10 ^ 17 := Nat.pow_le_pow_right (by decide) (by omega)
        exact ⟨s, htext, by omega, hscaling⟩

/-- A decimal with an exponent. -/
theorem exists_spelling_scientific (h : IsDecimal c ds) (hc : c ≠ 0) (e : Int) :
    ∃ s : Spelling, Layout.scientific 1 (digitText ds) e = s.text ∧
      s.significand = c ∧ s.scaling = e - (ds.length - 1 : Nat) := by
  obtain ⟨d, rest, rfl, hlead⟩ := h.leading_ne_zero hc
  have hsize : 1 - (decimal e.natAbs).length = 0 := by
    obtain ⟨es, hes, -, -, e', es', rfl, -⟩ := exists_isDecimal e.natAbs
    rw [hes, length_digitText, List.length_cons]
    omega
  refine ⟨{
    whole := [d]
    fraction := rest
    exponent := some e
    lt_ten := h.lt_ten
    leading := ⟨d, [], rfl, fun _ => rfl⟩
    isFloat := .inr (by simp) }, ?_, h.value, rfl⟩
  cases rest with
  | nil =>
      simp [Layout.scientific, hsize, Spelling.text, Spelling.exponentText, Spelling.fractionText,
        digitText]
  | cons d' rest =>
      simp [Layout.scientific, hsize, Spelling.text, Spelling.exponentText, Spelling.fractionText,
        digitText]

end

/-! ## Doubles for decimals -/

theorem scale_of_neg {n : Nat} {e : Int} (h : e < 0) : (Numeral.scale n e).isSome = true := by
  rw [Numeral.scale]
  dsimp only
  rw [if_neg (by omega)]
  rfl

/-- Seventeen digits fit with all powers of ten up to a certain one. -/
theorem isFinite_seventeen :
    ((Binary64.ofInt (10 ^ 17 : Nat)).times (Numeral.power 291)).isFinite = true := by
  decide +kernel

/-- The greatest shortest decimal fits with the powers of ten above, and with
fewer digits as many as are left. -/
theorem isFinite_bound : ∀ k < 17, ((Binary64.ofInt (17976931348623157 / 10 ^ k : Nat)).times
    (Numeral.power (292 + k))).isFinite = true := by
  decide +kernel

theorem magnitude_power_mono {k l : Nat} (h : k ≤ l) :
    (Numeral.power k).magnitude ≤ (Numeral.power l).magnitude := by
  rw [Numeral.power, Numeral.power, Binary64.magnitude_ofRatio, Binary64.magnitude_ofRatio]
  exact Binary64.nearestMagnitude_mono (Nat.pow_le_pow_right (by decide) h) Nat.one_pos

theorem isFinite_scaled {n : Nat} (hpositive : 0 < n) (hdigits : n ≤ 10 ^ 17) {e : Nat}
    (h : n * 10 ^ e ≤ Binary64.shortestBound) : e ≤ Numeral.greatestPower ∧
      ((Binary64.ofInt n).times (Numeral.power e)).isFinite = true := by
  -- The power of ten is known by name, as it is too great to be computed on the way.
  obtain ⟨fine, hfine, hbound⟩ := Binary64.shortestBound_eq
  rcases Nat.lt_or_ge e fine with hlow | hhigh
  · have hpower : e ≤ 291 := by omega
    exact ⟨hpower.trans (by decide), Binary64.isFinite_times (Binary64.magnitude_ofInt_mono hdigits)
      (magnitude_power_mono hpower) isFinite_seventeen⟩
  · obtain ⟨k, rfl⟩ := Nat.exists_eq_add_of_le hhigh
    have hcoefficient : n * 10 ^ k ≤ 17976931348623157 := by
      rw [hbound, Nat.pow_add, Nat.mul_left_comm, Nat.mul_comm 17976931348623157] at h
      exact Nat.le_of_mul_le_mul_left h (Nat.pow_pos (by decide))
    have hk : k < 17 := by
      by_contra hlarge
      have hpow : 10 ^ 17 ≤ 10 ^ k := Nat.pow_le_pow_right (by decide) (by omega)
      have hone : 1 * 10 ^ k ≤ n * 10 ^ k := Nat.mul_le_mul_right _ hpositive
      omega
    have hn : n ≤ 17976931348623157 / 10 ^ k :=
      (Nat.le_div_iff_mul_le (Nat.pow_pos (by decide))).mpr hcoefficient
    rw [hfine, Numeral.greatestPower]
    exact ⟨by omega, Binary64.isFinite_times (Binary64.magnitude_ofInt_mono hn) (Nat.le_refl _)
      (isFinite_bound k hk)⟩

theorem scale_of_le {n : Nat} (hpositive : 0 < n) (hdigits : n ≤ 10 ^ 17) {e : Int} (he : 0 ≤ e)
    (h : n * 10 ^ e.toNat ≤ Binary64.shortestBound) : (Numeral.scale n e).isSome = true := by
  obtain ⟨hpower, hfinite⟩ := isFinite_scaled hpositive hdigits h
  have hgreatest : e ≤ (Numeral.greatestPower : Int) := by omega
  rw [Numeral.scale]
  dsimp only
  rw [if_pos he, if_pos hgreatest, if_pos hfinite]
  rfl

/-- A finite double is written as a spelling of some double. -/
theorem exists_spelling {x : Binary64} (hfinite : x.isFinite = true) :
    ∃ s : Spelling, floats.writeMagnitude x = s.text ∧ s.significand < Nat.pow 2 64 ∧
      (Numeral.scale s.significand s.scaling).isSome = true := by
  have hfits : 10 ^ 17 < Nat.pow 2 64 := by decide
  by_cases hzero : x.magnitude = 0
  · rw [Layout.writeMagnitude, if_pos hzero]
    exact ⟨{
      whole := [0]
      fraction := [0]
      exponent := none
      lt_ten := by decide
      leading := ⟨0, [], rfl, fun _ => rfl⟩
      isFloat := .inl (by decide) }, rfl, by decide, scale_of_neg (by decide)⟩
  · rw [Layout.writeMagnitude, if_neg hzero]
    have hdigits := Binary64.shortest_coefficient_lt floats.tie hzero
    have hpositive := Binary64.shortest_coefficient_pos floats.tie hzero
    have hbound := @Binary64.shortest_le_bound x floats.tie hfinite
    generalize x.shortest floats.tie = found at hdigits hpositive hbound ⊢
    obtain ⟨c, e⟩ := found
    dsimp only at hdigits hpositive hbound ⊢
    obtain ⟨ds, h⟩ := exists_isDecimal c
    have hc : c ≠ 0 := Nat.pos_iff_ne_zero.mp hpositive
    rw [h.text, length_digitText]
    split
    · next hmoderate =>
        obtain ⟨s, htext, hs, hscaling⟩ := exists_spelling_positional h hc hdigits hmoderate.2
        exact ⟨s, htext, by omega, scale_of_neg hscaling⟩
    · obtain ⟨s, htext, hs, hscaling⟩ :=
        exists_spelling_scientific h hc (e + (ds.length - 1 : Nat))
      have he : s.scaling = e := by omega
      refine ⟨s, htext, by omega, ?_⟩
      rw [hs, he]
      rcases lt_or_ge e 0 with hneg | hnonneg
      · exact scale_of_neg hneg
      · exact scale_of_le hpositive hdigits.le hnonneg (hbound hnonneg)

/-- A finite double is read as one double. -/
theorem tokensFrom_write {x : Binary64} (hfinite : x.isFinite = true) :
    ∃ y, ∀ rest, EndsItem rest → tokensFrom .between (floats.write x ++ rest) =
      .number (some (.float y)) :: tokensFrom .between rest := by
  obtain ⟨s, htext, hfits, hscale⟩ := exists_spelling hfinite
  obtain ⟨y, hy⟩ := Option.isSome_iff_exists.mp hscale
  have hmode : ∃ m, (∀ d < 10, step m (Nat.digitChar d) =
      step (.numeral (.start x.isNegative) .sign) (Nat.digitChar d)) ∧
      ∀ rest, tokensFrom .between (floats.write x ++ rest) = tokensFrom m (s.text ++ rest) := by
    rw [Layout.write, htext]
    cases x.isNegative with
    | true => exact ⟨.numeral (.start true) .sign, fun _ _ => rfl, fun _ => rfl⟩
    | false => exact ⟨.between, step_between_digitChar, fun _ => rfl⟩
  obtain ⟨m, hbegins, hstart⟩ := hmode
  obtain ⟨digits, part, hend, hdigits, hrun⟩ := s.run_text hbegins
  refine ⟨if x.isNegative then y.neg else y, fun rest hrest => ?_⟩
  rw [hstart, tokensFrom_append, hrun, List.nil_append, tokensFrom_numeral _ hend hrest,
    Spelling.number?_numeral hfits _ hdigits, hy]
  rfl

end Stepwise.Json
