/-!
# Written numbers

Natural and integer numbers as digits, most significant first.

## Main results

* `length_padded`: a number that fits is written in exactly the width asked for.
* `isHex_padded`: and in lower-case hexadecimal digits.
-/

namespace Stepwise.Text

/-- A number in decimal digits. -/
def decimal (n : Nat) : List Char := Nat.toDigits 10 n

/-- An integer in decimal digits, after a sign if it is negative. -/
def signed (n : Int) : List Char :=
  if n < 0 then '-' :: decimal n.natAbs else decimal n.natAbs

/-- A number in hexadecimal digits, with zeros in front up to a width. -/
def padded (width n : Nat) : List Char :=
  let digits := Nat.toDigits 16 n
  List.replicate (width - digits.length) '0' ++ digits

theorem length_padded {width n : Nat} (h : (Nat.toDigits 16 n).length ≤ width) :
    (padded width n).length = width := by
  simp only [padded, List.length_append, List.length_replicate]
  omega

/-- Whether a text has so many hexadecimal digits, lower-case ones, and nothing else. -/
def IsHex (count : Nat) (t : List Char) : Prop :=
  t.length = count ∧ ∀ c ∈ t, c ∈ "0123456789abcdef".toList

theorem mem_toDigits {n : Nat} {c : Char} (h : c ∈ Nat.toDigits 16 n) :
    c ∈ "0123456789abcdef".toList := by
  have hdigit : ∀ d < 16, Nat.digitChar d ∈ "0123456789abcdef".toList := by decide
  induction n using Nat.strongRecOn with
  | ind n ih =>
      by_cases hsmall : n < 16
      · rw [Nat.toDigits_of_lt_base hsmall, List.mem_singleton] at h
        exact h ▸ hdigit n hsmall
      · rw [Nat.toDigits_of_base_le (by decide) (Nat.not_lt.mp hsmall), List.mem_append,
          List.mem_singleton] at h
        rcases h with hfront | rfl
        · exact ih _ (by omega) hfront
        · exact hdigit _ (Nat.mod_lt _ (by decide))

theorem isHex_padded {count n : Nat} (hcount : 0 < count) (h : n < Nat.pow 16 count) :
    IsHex count (padded count n) := by
  refine ⟨length_padded ((Nat.length_toDigits_le_iff (by decide) hcount).mpr h), fun c hc => ?_⟩
  rw [padded, List.mem_append] at hc
  rcases hc with hzero | hdigit
  · rw [List.eq_of_mem_replicate hzero]
    decide
  · exact mem_toDigits hdigit

theorem IsHex.append {count more : Nat} {s t : List Char} (hs : IsHex count s)
    (ht : IsHex more t) : IsHex (count + more) (s ++ t) := by
  refine ⟨by rw [List.length_append, hs.1, ht.1], fun c hc => ?_⟩
  exact (List.mem_append.mp hc).elim (hs.2 c) (ht.2 c)

end Stepwise.Text
