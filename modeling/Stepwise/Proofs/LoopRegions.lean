import Mathlib.Data.List.Lattice
import Stepwise.Proofs.LoopBody

/-!
# Regions of loops

The body of a loop is found by one scan that skips blank lines and stops at the
first line of code that is not deeper than the header. What it finds can be said
without the scan: a line of code is in the body if all code from the header on
down to it is deeper than the header.

Said in this way, the body depends on the header only through its indentation,
and bodies cannot overlap in part. Behind a line that is not in the body of a
header there is nothing more of that body, and a line that is in it is so deep
that all of its own body is in it too.

## Main results

* `mem_loopBody_iff`: the lines of the body of a loop.
* `loopBody_laminar`: bodies are listed in order, and are nested or disjoint.
-/

namespace Stepwise.Source

open Stepwise.Text

variable (s : Source)

/-- Whether there is code on a line. There is none on lines that the program does
not have. -/
def HasCode (n : Nat) : Prop := isBlank (s.text n) = false

instance (n : Nat) : Decidable (s.HasCode n) := inferInstanceAs (Decidable (_ = _))

/-- Whether all code on the lines from `n` to `m` is deeper than `baseline`. -/
def DeepFrom (baseline n m : Nat) : Prop :=
  ∀ k, n ≤ k → k ≤ m → s.HasCode k → baseline < s.indentOf k

variable {s}

theorem not_hasCode_iff {n : Nat} : ¬ s.HasCode n ↔ isBlank (s.text n) = true := by
  rw [HasCode, Bool.not_eq_false]

theorem lt_length_of_hasCode {n : Nat} (h : s.HasCode n) : n < s.length := by
  refine Nat.lt_of_not_le fun hle => ?_
  have hnone : s.text n = [] := by
    rw [text, line?, List.getElem?_eq_none hle, Option.getD_none]
  rw [HasCode, hnone] at h
  cases h

/-- The lines of a program from a certain line on, if there are any, are that line
and the lines below it. -/
theorem text_of_drop_eq_cons {n : Nat} {line : List Char} {rest : List (List Char)}
    (h : s.lines.drop n = line :: rest) : s.text n = line ∧ s.lines.drop (n + 1) = rest := by
  constructor
  · have hget : s.lines[n]? = some line := by
      rw [← List.head?_drop, h, List.head?_cons]
    rw [text, line?, hget, Option.getD_some]
  · rw [← List.tail_drop, h, List.tail_cons]

theorem text_eq_getElem {n : Nat} (h : n < s.lines.length) : s.text n = s.lines[n] := by
  rw [text, line?, List.getElem?_eq_getElem h, Option.getD_some]

theorem drop_eq_text_cons {n : Nat} (h : n < s.length) :
    s.lines.drop n = s.text n :: s.lines.drop (n + 1) := by
  rw [text_eq_getElem h, List.drop_eq_getElem_cons h]

theorem text_mem_lines {n : Nat} (h : n < s.length) : s.text n ∈ s.lines := by
  rw [text_eq_getElem h]
  exact List.getElem_mem h

/-! ## The scan -/

theorem deepFrom_iff_of_le {baseline n m : Nat} (h : n ≤ m) :
    s.DeepFrom baseline n m ↔
      (s.HasCode n → baseline < s.indentOf n) ∧ s.DeepFrom baseline (n + 1) m := by
  constructor
  · intro hdeep
    exact ⟨hdeep n (Nat.le_refl n) h, fun k hk => hdeep k (Nat.le_of_succ_le hk)⟩
  · rintro ⟨hfirst, hbelow⟩ k hk hkm
    rcases Nat.eq_or_lt_of_le hk with rfl | hlt
    · exact hfirst
    · exact hbelow k hlt hkm

/-- A line of code that is reached through deep code is the first line or is reached
from the second one, and the first line does not stand in the way. -/
theorem reached_iff {baseline n m : Nat} :
    n ≤ m ∧ s.HasCode m ∧ s.DeepFrom baseline n m ↔
      (s.HasCode n → baseline < s.indentOf n) ∧
        ((m = n ∧ s.HasCode n) ∨ (n + 1 ≤ m ∧ s.HasCode m ∧ s.DeepFrom baseline (n + 1) m)) := by
  constructor
  · rintro ⟨hle, hcode, hdeep⟩
    obtain ⟨hfirst, hdeep⟩ := (deepFrom_iff_of_le hle).mp hdeep
    refine ⟨hfirst, ?_⟩
    rcases Nat.eq_or_lt_of_le hle with rfl | hlt
    · exact .inl ⟨rfl, hcode⟩
    · exact .inr ⟨hlt, hcode, hdeep⟩
  · rintro ⟨hfirst, ⟨rfl, hcode⟩ | ⟨hlt, hcode, hdeep⟩⟩
    · have hnone : s.DeepFrom baseline (m + 1) m := fun k hk hkm =>
        absurd hk (Nat.not_le_of_gt (Nat.lt_succ_of_le hkm))
      exact ⟨Nat.le_refl m, hcode, (deepFrom_iff_of_le (Nat.le_refl m)).mpr ⟨hfirst, hnone⟩⟩
    · have hle : n ≤ m := Nat.le_of_succ_le hlt
      exact ⟨hle, hcode, (deepFrom_iff_of_le hle).mpr ⟨hfirst, hdeep⟩⟩

/-- The scan for a body has found a line of code if all code that it came across,
from where it began down to that line, is deep enough. -/
theorem mem_bodyFrom_iff {baseline n m : Nat} {rest : List (List Char)}
    (hrest : s.lines.drop n = rest) :
    m ∈ bodyFrom baseline n rest ↔ n ≤ m ∧ s.HasCode m ∧ s.DeepFrom baseline n m := by
  induction rest generalizing n with
  | nil =>
      have hlength : s.length ≤ n := List.drop_eq_nil_iff.mp hrest
      refine iff_of_false List.not_mem_nil fun ⟨hm, hcode, _⟩ => ?_
      have := lt_length_of_hasCode hcode
      omega
  | cons line rest ih =>
      obtain ⟨rfl, hbelow⟩ := text_of_drop_eq_cons hrest
      rw [reached_iff, ← ih hbelow, bodyFrom]
      by_cases hblank : isBlank (s.text n) = true
      · have hn : ¬ s.HasCode n := not_hasCode_iff.mpr hblank
        simp [hblank, hn]
      · have hn : s.HasCode n := by rwa [HasCode, ← Bool.not_eq_true]
        by_cases hshallow : s.indentOf n ≤ baseline
        · have hstop : indentation (s.text n) ≤ baseline := hshallow
          have hnot : ¬ baseline < s.indentOf n := Nat.not_lt.mpr hshallow
          simp [hblank, hstop, hn, hnot]
        · have hgo : ¬ indentation (s.text n) ≤ baseline := hshallow
          have hdeep : baseline < s.indentOf n := Nat.lt_of_not_le hshallow
          simp [hblank, hgo, hn, hdeep]

/-- The body of a loop has the lines of code below its header down to which all
code is deeper than the header. -/
theorem mem_loopBody_iff {h n : Nat} :
    n ∈ s.loopBody h ↔ h < n ∧ s.HasCode n ∧ s.DeepFrom (s.indentOf h) (h + 1) n :=
  mem_bodyFrom_iff rfl

/-! ## Two regions -/

/-- The body of a line that is in the body of a header is in that body, too. -/
theorem loopBody_subset_of_mem {h n : Nat} (hn : n ∈ s.loopBody h) :
    s.loopBody n ⊆ s.loopBody h := by
  obtain ⟨hlt, hcode, hdeep⟩ := mem_loopBody_iff.mp hn
  intro m hm
  obtain ⟨hnm, hmcode, hmdeep⟩ := mem_loopBody_iff.mp hm
  refine mem_loopBody_iff.mpr ⟨Nat.lt_trans hlt hnm, hmcode, fun k hk hkm hkcode => ?_⟩
  rcases Nat.lt_or_ge n k with hbehind | hbefore
  · have hdeeper : s.indentOf n < s.indentOf k := hmdeep k hbehind hkm hkcode
    exact Nat.lt_trans (hdeep n hlt (Nat.le_refl n) hcode) hdeeper
  · exact hdeep k hk hbefore hkcode

/-- There is nothing of a body behind a line of code that is not in it. -/
theorem lt_of_mem_loopBody {h n m : Nat} (hlt : h < n) (hcode : s.HasCode n)
    (hn : n ∉ s.loopBody h) (hm : m ∈ s.loopBody h) : m < n := by
  obtain ⟨_, _, hdeep⟩ := mem_loopBody_iff.mp hm
  refine Nat.lt_of_not_le fun hle => hn (mem_loopBody_iff.mpr ⟨hlt, hcode, ?_⟩)
  exact fun k hk hkn => hdeep k hk (Nat.le_trans hkn hle)

variable (s)

/-- The body of a line is listed from above, and has exactly the lines of code below it
down to which all code is deeper. So a line of code is in the body of a line above it,
and then all of its own body is, or the two bodies have no line in common. -/
theorem loopBody_laminar :
    (∀ h, (s.loopBody h).Pairwise (· < ·) ∧
      ∀ n, n ∈ s.loopBody h ↔ h < n ∧ s.HasCode n ∧
        ∀ m, h < m → m ≤ n → s.HasCode m → s.indentOf h < s.indentOf m) ∧
    ∀ upper lower, upper < lower → s.HasCode lower →
      (lower ∈ s.loopBody upper ∧ s.loopBody lower ⊆ s.loopBody upper) ∨
        (s.loopBody upper).Disjoint (s.loopBody lower) := by
  refine ⟨fun h => ⟨pairwise_bodyFrom _ _ _, fun n => mem_loopBody_iff⟩, ?_⟩
  intro upper lower hlt hcode
  by_cases hmem : lower ∈ s.loopBody upper
  · exact .inl ⟨hmem, loopBody_subset_of_mem hmem⟩
  · refine .inr fun n hupper hlower => ?_
    have habove : n < lower := lt_of_mem_loopBody hlt hcode hmem hupper
    have hbelow : lower < n := (mem_loopBody_iff.mp hlower).1
    exact Nat.lt_asymm habove hbelow

/-- A loop in a loop with a blank line in its body, code between the two at another
depth, and a loop of its own below. -/
def nestedLoops : Source :=
  .ofText "for i in a:\n    for j in b:\n\n        x\n  y\nwhile c:\n  z\n".toList

/-- Line 4 leaves the inner loop and not the outer one. -/
theorem loopBody_laminar_nestedLoops :
    nestedLoops.loopBody 0 = [1, 3, 4] ∧ nestedLoops.loopBody 1 = [3] ∧
      (1 < 4 ∧ nestedLoops.HasCode 4) ∧
      ((4 ∈ nestedLoops.loopBody 1 ∧ nestedLoops.loopBody 4 ⊆ nestedLoops.loopBody 1) ∨
        (nestedLoops.loopBody 1).Disjoint (nestedLoops.loopBody 4)) ∧
      ((1 ∈ nestedLoops.loopBody 0 ∧ nestedLoops.loopBody 1 ⊆ nestedLoops.loopBody 0) ∨
        (nestedLoops.loopBody 0).Disjoint (nestedLoops.loopBody 1)) := by
  have hfour : nestedLoops.HasCode 4 := by decide
  have hone : nestedLoops.HasCode 1 := by decide
  obtain ⟨-, hlaminar⟩ := nestedLoops.loopBody_laminar
  exact ⟨by decide, by decide, ⟨by decide, hfour⟩,
    hlaminar 1 4 (by decide) hfour, hlaminar 0 1 (by decide) hone⟩

end Stepwise.Source
