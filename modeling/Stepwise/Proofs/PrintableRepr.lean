import Mathlib.Data.List.Basic
import Stepwise.Proofs.ReadableRepr
import Stepwise.Text.Printable

/-!
# What cannot be printed in the text of a string

The text that shows a string is meant to be read, so a character that cannot be seen should
be an escape in it. There are forms for this with two, four and eight digits, which reach all
characters. But a character is only escaped if it is a control character, and these need no
more than two digits. The other unprintable ones, such as wide blanks, joiners and characters
that nobody has assigned, are shown as they are.

So a string is shown as it should be if its unprintable characters are control characters,
and only then. What cannot be printed in its text are the others, in the order in which the
string has them.

## Main results

* `filter_strRepr`: the unprintable characters in the text of a string.
* `isPrintable_of_mem_fullRepr`: there are none if all such characters are escaped.
* `repr_printable_iff`: when nothing unprintable is left.
-/

namespace Stepwise.Value

open Stepwise.Text

/-! ## Escapes for all unprintable characters -/

/-- A character by a letter or by its number, in the shortest form for it. -/
def spelled (c : Char) : List Char :=
  if c = '\n' then ['\\', 'n']
  else if c = '\t' then ['\\', 't']
  else if c = '\r' then ['\\', 'r']
  else if c.toNat < 0x100 then '\\' :: 'x' :: padded 2 c.toNat
  else if c.toNat < 0x10000 then '\\' :: 'u' :: padded 4 c.toNat
  else '\\' :: 'U' :: padded 8 c.toNat

/-- A character inside quotation marks, with an escape for all that cannot be printed. -/
def fullEscape (quote c : Char) : List Char :=
  if isPrintable c then escape quote c else spelled c

/-- The text of a string, with an escape for all that cannot be printed. -/
def fullRepr (s : List Char) : List Char :=
  quoteFor s :: s.flatMap (fullEscape (quoteFor s)) ++ [quoteFor s]

/-- Whether a character has no escape although it cannot be printed. -/
def isOverlooked (c : Char) : Bool := !isPrintable c && !isControl c

/-! ## Printable characters -/

/-- The printable characters of ASCII are in no run of unprintable ones. -/
theorem isPrintable_of_ascii {c : Char} (hlow : 0x20 ≤ c.toNat) (hhigh : c.toNat < 0x7f) :
    isPrintable c = true := by
  have hruns : ∀ run ∈ unprintableRuns, run.2 < 0x20 ∨ 0x7f ≤ run.1 := by decide +kernel
  have hnone : inRuns unprintableRuns c = false := by
    refine List.any_eq_false.mpr fun run hmem hin => ?_
    have hrun := hruns run hmem
    simp only [Bool.and_eq_true, decide_eq_true_eq] at hin
    omega
  rw [isPrintable, hnone]
  rfl

/-- No control character is printable. -/
theorem not_isPrintable_of_isControl {c : Char} (h : isControl c = true) :
    isPrintable c = false := by
  have hfirst : (0x0, 0x1F) ∈ unprintableRuns := by decide +kernel
  have hsecond : (0x7F, 0xA0) ∈ unprintableRuns := by decide +kernel
  have hsome : inRuns unprintableRuns c = true := by
    refine List.any_eq_true.mpr ?_
    rcases isControl_iff.mp h with hlow | ⟨hlow, hhigh⟩
    · exact ⟨_, hfirst, by simp; omega⟩
    · exact ⟨_, hsecond, by simp; omega⟩
  rw [isPrintable, hsome]
  rfl

/-- A text of printable ASCII characters can be printed. -/
theorem isPrintable_of_mem_ascii {s : List Char} {c : Char} (h : c ∈ s)
    (hs : s.all (fun c => 0x20 ≤ c.toNat && c.toNat < 0x7f) = true) : isPrintable c = true := by
  have hc := List.all_eq_true.mp hs c h
  simp only [Bool.and_eq_true, decide_eq_true_eq] at hc
  exact isPrintable_of_ascii hc.1 hc.2

theorem isPrintable_of_mem_padded {width n : Nat} (hwidth : 0 < width) (h : n < 16 ^ width)
    {c : Char} (hc : c ∈ padded width n) : isPrintable c = true :=
  isPrintable_of_mem_ascii ((isHex_padded hwidth h).2 c hc) (by decide)

/-! ## One character -/

/-- A backslash, a letter or a mark, and digits can be printed. -/
theorem isPrintable_of_mem_backslash {mark x : Char} {digits : List Char}
    (hmark : mark ∈ "\\'ntrxuU".toList) (hdigits : ∀ x ∈ digits, isPrintable x = true)
    (h : x ∈ '\\' :: mark :: digits) : isPrintable x = true := by
  rcases List.mem_cons.mp h with rfl | h
  · exact isPrintable_of_ascii (by decide) (by decide)
  rcases List.mem_cons.mp h with rfl | h
  · exact isPrintable_of_mem_ascii hmark (by decide)
  · exact hdigits x h

theorem isPrintable_of_mem_spelled {c x : Char} (h : x ∈ spelled c) : isPrintable x = true := by
  have hword : c.toNat < 2 ^ 32 := c.val.toNat_lt
  unfold spelled at h
  iterate 3
    split at h
    · exact isPrintable_of_mem_backslash (by decide) (by simp) h
  iterate 2
    split at h
    · next hlt =>
        exact isPrintable_of_mem_backslash (by decide)
          (fun _ => isPrintable_of_mem_padded (by decide) (Nat.lt_of_lt_of_eq hlt (by decide))) h
  exact isPrintable_of_mem_backslash (by decide)
    (fun _ => isPrintable_of_mem_padded (by decide) (Nat.lt_of_lt_of_eq hword (by decide))) h

/-- A printable character is written with printable ones. -/
theorem isPrintable_of_mem_escape {quote c x : Char} (hc : isPrintable c = true)
    (h : x ∈ escape quote c) : isPrintable x = true := by
  have hplain : isControl c = false := by
    cases hcontrol : isControl c with
    | false => rfl
    | true => rw [not_isPrintable_of_isControl hcontrol] at hc; cases hc
  unfold escape at h
  iterate 5
    split at h
    · exact isPrintable_of_mem_backslash (by decide) (by simp) h
  rw [if_neg (by rw [hplain]; decide), List.mem_singleton] at h
  exact h ▸ hc

/-- A character that cannot be printed is spelled out if it is a control character, and stands
for itself otherwise. -/
theorem escape_of_not_isPrintable (quote : Char) {c : Char} (hc : isPrintable c = false) :
    escape quote c = if isControl c then spelled c else [c] := by
  have hprintable : ∀ x, isPrintable x = true → c ≠ x := by
    rintro x hx rfl
    rw [hx] at hc
    cases hc
  have hslash : c ≠ '\\' := hprintable _ (isPrintable_of_ascii (by decide) (by decide))
  have hmark : c ≠ '\'' := hprintable _ (isPrintable_of_ascii (by decide) (by decide))
  cases hcontrol : isControl c with
  | false =>
      have hother : ∀ x, isControl x = true → c ≠ x := by
        rintro x hx rfl
        rw [hx] at hcontrol
        cases hcontrol
      have hnewline : c ≠ '\n' := hother _ (by decide)
      have htab : c ≠ '\t' := hother _ (by decide)
      have hreturn : c ≠ '\r' := hother _ (by decide)
      simp [escape, hslash, hmark, hnewline, htab, hreturn, hcontrol]
  | true =>
      simp [escape, spelled, hslash, hmark, hcontrol, Literal.lt_of_isControl hcontrol]

/-- What cannot be printed in the text for a character is the character itself, if it has no
escape. -/
theorem filter_escape (quote c : Char) :
    (escape quote c).filter (!isPrintable ·) = [c].filter isOverlooked := by
  have hnone : ∀ text : List Char, (∀ x ∈ text, isPrintable x = true) →
      text.filter (!isPrintable ·) = [] := fun text htext =>
    List.filter_eq_nil_iff.mpr fun x hx => by simp [htext x hx]
  cases hc : isPrintable c with
  | true =>
      rw [hnone _ fun x => isPrintable_of_mem_escape hc]
      simp [isOverlooked, hc]
  | false =>
      rw [escape_of_not_isPrintable quote hc]
      cases hcontrol : isControl c with
      | true =>
          rw [if_pos rfl, hnone _ fun x => isPrintable_of_mem_spelled]
          simp [isOverlooked, hcontrol]
      | false => simp [isOverlooked, hc, hcontrol]

theorem isPrintable_of_mem_fullEscape {quote c x : Char} (h : x ∈ fullEscape quote c) :
    isPrintable x = true := by
  unfold fullEscape at h
  split at h
  · next hc => exact isPrintable_of_mem_escape hc h
  · exact isPrintable_of_mem_spelled h

/-! ## The text of a string -/

theorem isPrintable_quoteFor (s : List Char) : isPrintable (quoteFor s) = true := by
  rcases Literal.setsOff_quoteFor s with h | ⟨h, -⟩
  all_goals exact isPrintable_of_ascii (by rw [h]; decide) (by rw [h]; decide)

/-- What cannot be printed in the text of a string are the characters of the string that have
no escape, in their order. -/
theorem filter_strRepr (s : List Char) :
    (strRepr s).filter (!isPrintable ·) = s.filter isOverlooked := by
  have hchars : ∀ t : List Char,
      (t.flatMap (escape (quoteFor s))).filter (!isPrintable ·) = t.filter isOverlooked := by
    intro t
    induction t with
    | nil => rfl
    | cons c t ih =>
        rw [List.flatMap_cons, List.filter_append, filter_escape, ih, ← List.filter_append,
          List.singleton_append]
  simp [strRepr, hchars, isPrintable_quoteFor]

/-- If all characters that cannot be printed have escapes, nothing else is left. -/
theorem isPrintable_of_mem_fullRepr {s : List Char} {x : Char} (h : x ∈ fullRepr s) :
    isPrintable x = true := by
  simp only [fullRepr, List.cons_append, List.mem_cons, List.mem_append, List.mem_flatMap,
    List.not_mem_nil, or_false] at h
  rcases h with rfl | ⟨c, -, hx⟩ | rfl
  · exact isPrintable_quoteFor s
  · exact isPrintable_of_mem_fullEscape hx
  · exact isPrintable_quoteFor s

example : fullRepr "\n\u00a0\u200b".toList = "'\\n\\xa0\\u200b'".toList := by decide +kernel

theorem escape_eq_fullEscape (quote : Char) {c : Char} (h : isOverlooked c = false) :
    escape quote c = fullEscape quote c := by
  unfold fullEscape
  split
  · rfl
  · next hc =>
      have hprint : isPrintable c = false := Bool.eq_false_iff.mpr hc
      have hcontrol : isControl c = true := by simpa [isOverlooked, hprint] using h
      rw [escape_of_not_isPrintable quote hprint, if_pos hcontrol]

/-- A string in which no character is overlooked is shown as it should be. -/
theorem strRepr_eq_fullRepr {s : List Char} (h : ∀ c ∈ s, isOverlooked c = false) :
    strRepr s = fullRepr s := by
  have hchars : s.flatMap (escape (quoteFor s)) = s.flatMap (fullEscape (quoteFor s)) :=
    List.flatMap_congr fun c hc => escape_eq_fullEscape _ (h c hc)
  rw [strRepr, fullRepr, hchars]

theorem isOverlooked_eq_false_iff {c : Char} :
    isOverlooked c = false ↔ (isPrintable c = false → isControl c = true) := by
  cases hc : isPrintable c <;> simp [isOverlooked, hc]

/-- The text of a string can be printed iff all its unprintable characters are control
characters, and then it is the text with an escape for each of them. Otherwise the others are
in the text as they are in the string. -/
theorem repr_printable_iff (s : String) :
    ((∀ c ∈ (str s).repr, isPrintable c = true) ↔
        ∀ c ∈ s.toList, isPrintable c = false → isControl c = true) ∧
      ((str s).repr = fullRepr s.toList ↔
        ∀ c ∈ s.toList, isPrintable c = false → isControl c = true) ∧
      (str s).repr.filter (!isPrintable ·) = s.toList.filter isOverlooked ∧
      ∀ c ∈ fullRepr s.toList, isPrintable c = true := by
  have hrepr : (str s).repr = strRepr s.toList := rfl
  have hprintable : (∀ c ∈ strRepr s.toList, isPrintable c = true) ↔
      ∀ c ∈ s.toList, isOverlooked c = false := by
    have hnone := congrArg (· = []) (filter_strRepr s.toList)
    simpa [List.filter_eq_nil_iff] using hnone
  simp only [hrepr, ← isOverlooked_eq_false_iff]
  refine ⟨hprintable, ⟨fun heq => hprintable.mp ?_, strRepr_eq_fullRepr⟩,
    filter_strRepr s.toList, fun c => isPrintable_of_mem_fullRepr⟩
  exact heq ▸ fun c => isPrintable_of_mem_fullRepr

/-- A blank that is not to be broken stands in the text of a string as it is. -/
theorem not_forall_repr_printable :
    ¬ ∀ s : String, ∀ c ∈ (str s).repr, isPrintable c = true := by
  intro h
  have hblank : '\u00a0' ∈ (str "\u00a0").repr := by decide +kernel
  have hprintable := h "\u00a0" _ hblank
  revert hprintable
  decide +kernel

end Stepwise.Value
