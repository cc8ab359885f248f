import Stepwise.Proofs.Fillers
import Stepwise.Proofs.LineScan

/-!
# Preparation keeps the regions of loops

A filler must not end the body of a loop. It is at least as deep as the code below it,
so that what was in the body before stays in it. It may be deeper, and be in a body
itself, but no line of code comes into a body by a filler. Below the header of a loop
this would not be enough, because the code below the fillers may be outside of the
loop. There they are deeper than the header, and are visited as a part of the loop.

Of two indentations the longer one is taken by the bytes, and depth is counted in
characters. So all of this is only for programs with white space of ASCII.

## Main results

* `indentOf_le_of_isFilled`, `lt_indentOf_of_isFilled`: how deep fillers are.
* `prepare_keepsRegions`: what becomes of lines, and of bodies of loops.
-/

namespace Stepwise.Source

open Stepwise.Text

/-- Whether the white space of a program is of ASCII. -/
def HasPlainBlanks (text : List Char) : Prop :=
  ∀ c ∈ text, isBlankChar c = true → c.toNat < 128

variable {text : List Char} {s : Source}

/-! ## Bytes and characters -/

/-- White space with as many bytes as characters. -/
abbrev IsNarrow (t : List Char) : Prop := BlankWith (fun c => c.utf8Size = 1) t

theorem byteLength_eq_length {t : List Char} (h : IsNarrow t) : byteLength t = t.length := by
  induction t with
  | nil => rfl
  | cons c rest ih =>
      obtain ⟨hc, hrest⟩ := List.forall_mem_cons.mp h
      rw [byteLength, hc.2, ih hrest, List.length_cons, Nat.add_comm]

theorem length_longer {above below : List Char} (habove : IsNarrow above)
    (hbelow : IsNarrow below) : (longer above below).length = max above.length below.length := by
  rw [longer, byteLength_eq_length habove, byteLength_eq_length hbelow]
  split
  · omega
  · omega

theorem HasPlainBlanks.utf8Size_eq (h : HasPlainBlanks text) :
    ∀ c ∈ text, isBlankChar c = true → c.utf8Size = 1 := by
  intro c hc hblank
  have hcode : c.val.toNat < 128 := h c hc hblank
  have hlast : (127 : UInt32).toNat = 127 := rfl
  rw [Char.utf8Size_eq_one_iff, UInt32.le_iff_toNat_le]
  omega

/-! ## How deep a filler is -/

theorem indentation_filler {indent : List Char} (h : isBlank indent = true) :
    indentation (filler indent) = indent.length := by
  have hname : (reservedName ++ " = 0").toList = '_' :: "_run_py__ = 0".toList := by decide
  have hstop : isBlankChar '_' = false := by decide
  rw [indentation, leadingBlank, filler, hname,
    List.takeWhile_append_of_pos (List.all_eq_true.mp h),
    List.takeWhile_cons_of_neg (by simp [hstop]), List.append_nil]

theorem indentOf_of_isFilled (hplain : HasPlainBlanks text) {n : Nat} (h : IsFilled text n) :
    (prepare text).indentOf n = max ((withoutComments text).indentAbove n).length
      ((withoutComments text).indentBelow n).length := by
  have habove : IsNarrow ((withoutComments text).indentAbove n) :=
    blankWith_indentAbove hplain.utf8Size_eq (by decide) h
  have hbelow : IsNarrow ((withoutComments text).indentBelow n) :=
    blankWith_indentBelow hplain.utf8Size_eq n
  rw [indentOf, text_prepare_of_isFilled h,
    indentation_filler (isBlank_longer habove.isBlank_eq hbelow.isBlank_eq),
    length_longer habove hbelow]

theorem firstIndent_drop {n : Nat} (h : n < s.length) :
    firstIndent (s.lines.drop n) =
      if s.HasCode n then leadingBlank (s.text n) else firstIndent (s.lines.drop (n + 1)) := by
  rw [drop_eq_text_cons h, firstIndent_cons]
  by_cases hcode : s.HasCode n
  · rw [if_pos hcode, if_neg fun hblank => not_hasCode_iff.mpr hblank hcode]
  · rw [if_neg hcode, if_pos (not_hasCode_iff.mp hcode)]

/-- What the lines below ask for is the indentation of the first line of code there. -/
theorem exists_firstIndent_eq {n m : Nat} (hle : n ≤ m) (hcode : s.HasCode m) :
    ∃ first, n ≤ first ∧ first ≤ m ∧ s.HasCode first ∧
      firstIndent (s.lines.drop n) = leadingBlank (s.text first) := by
  induction hdistance : m - n generalizing n with
  | zero =>
      obtain rfl : n = m := by omega
      refine ⟨n, Nat.le_refl n, Nat.le_refl n, hcode, ?_⟩
      rw [firstIndent_drop (lt_length_of_hasCode hcode), if_pos hcode]
  | succ distance ih =>
      have hn : n < s.length := Nat.lt_of_le_of_lt hle (lt_length_of_hasCode hcode)
      rw [firstIndent_drop hn]
      by_cases hfirst : s.HasCode n
      · exact ⟨n, Nat.le_refl n, hle, hfirst, if_pos hfirst⟩
      · obtain ⟨first, hbehind, hbefore, hcodeFirst, hindent⟩ :=
          ih (n := n + 1) (by omega) (by omega)
        exact ⟨first, Nat.le_of_succ_le hbehind, hbefore, hcodeFirst,
          (if_neg hfirst).trans hindent⟩

/-- The block that is open above a line is that of the last line of code. -/
theorem openBlock_eq {opener n : Nat} (hopens : opensBlock (s.text opener) = true)
    (hcode : s.HasCode opener) (hlt : opener < n) (hn : n ≤ s.length)
    (hblank : ∀ k, opener < k → k < n → ¬ s.HasCode k) :
    s.openBlock n = some (leadingBlank (s.text opener)) := by
  induction n, hlt using Nat.le_induction with
  | base =>
      have hline : ¬ isBlank (s.text opener) = true := fun h => not_hasCode_iff.mpr h hcode
      rw [openBlock_succ hn, blockBehind_cons, if_neg hline, if_pos hopens, blockBehind]
  | succ n hlt ih =>
      have hline : isBlank (s.text n) = true :=
        not_hasCode_iff.mp (hblank n hlt (Nat.lt_succ_self n))
      rw [openBlock_succ hn, blockBehind_cons, if_pos hline, blockBehind]
      exact ih (Nat.le_of_succ_le hn) fun k hk hkn => hblank k hk (Nat.lt_succ_of_lt hkn)

/-- A filler is at least as deep as the first line of code below it. -/
theorem indentOf_le_of_isFilled (hplain : HasPlainBlanks text) {k n : Nat}
    (hfilled : IsFilled text k) (hlt : k < n) (hcode : (withoutComments text).HasCode n) :
    ∃ first, k < first ∧ first ≤ n ∧ (withoutComments text).HasCode first ∧
      (withoutComments text).indentOf first ≤ (prepare text).indentOf k := by
  obtain ⟨first, hbehind, hle, hfirst, hindent⟩ := exists_firstIndent_eq hlt hcode
  refine ⟨first, hbehind, hle, hfirst, ?_⟩
  rw [indentOf_of_isFilled hplain hfilled, indentBelow, hindent]
  exact Nat.le_max_right _ _

/-- A filler below a line that opens a block, with nothing but fillers in between, is
deeper than that line. -/
theorem lt_indentOf_of_isFilled (hplain : HasPlainBlanks text) {opener k : Nat}
    (hopens : opensBlock ((withoutComments text).text opener) = true)
    (hcode : (withoutComments text).HasCode opener) (hlt : opener < k)
    (hfilled : ∀ j, opener < j → j ≤ k → IsFilled text j) :
    (withoutComments text).indentOf opener < (prepare text).indentOf k := by
  have hk : IsFilled text k := hfilled k hlt (Nat.le_refl k)
  have hlength : k ≤ (withoutComments text).length := Nat.le_of_lt (isFilled_iff.mp hk).2.1
  have hblank : ∀ j, opener < j → j < k → ¬ (withoutComments text).HasCode j :=
    fun j hj hjk => (isFilled_iff.mp (hfilled j hj (Nat.le_of_lt hjk))).2.2
  have hunit : 0 < blockIndent.length := by decide
  rw [indentOf_of_isFilled hplain hk, indentAbove, openBlock_eq hopens hcode hlt hlength hblank,
    ownIndent, List.length_append, indentOf, indentation]
  omega

/-! ## Bodies of loops -/

theorem length_prepare (text : List Char) :
    (prepare text).length = (withoutComments text).length := by
  cases hsplit : splitLines text with
  | nil =>
      rw [prepare, withoutComments, hsplit]
      rfl
  | cons first rest =>
      obtain ⟨filled, hlines, hfills⟩ := fills_prepare hsplit
      rw [length, hlines, length, withoutComments, hsplit, List.map_cons, List.length_cons,
        List.length_cons, hfills.length_eq]

theorem text_prepare_of_hasCode {n : Nat} (h : (withoutComments text).HasCode n) :
    (prepare text).text n = (withoutComments text).text n := by
  have hfilled : ¬ IsFilled text n := fun hfilled => (isFilled_iff.mp hfilled).2.2 h
  rw [(text_prepare text n).2 hfilled, text_withoutComments]

theorem indentOf_prepare_of_hasCode {n : Nat} (h : (withoutComments text).HasCode n) :
    (prepare text).indentOf n = (withoutComments text).indentOf n := by
  rw [indentOf, text_prepare_of_hasCode h, indentOf]

/-- Below the first line, what has code in a prepared program had it before, or is
filled in. -/
theorem hasCode_prepare_iff {n : Nat} (h : 0 < n) :
    (prepare text).HasCode n ↔ (withoutComments text).HasCode n ∨ IsFilled text n := by
  constructor
  · intro hcode
    have hlength := lt_length_of_hasCode hcode
    rw [length_prepare] at hlength
    by_cases hwritten : (withoutComments text).HasCode n
    · exact .inl hwritten
    · exact .inr (isFilled_iff.mpr ⟨h, hlength, hwritten⟩)
  · rintro (hcode | hfilled)
    · rwa [HasCode, text_prepare_of_hasCode hcode]
    · have hname : isBlank (reservedName ++ " = 0").toList = false := by decide
      rw [HasCode, text_prepare_of_isFilled hfilled, filler, isBlank_append, hname, Bool.and_false]

/-- What becomes of the lines of a program and the bodies of its loops. -/
structure KeepsRegions (s prepared : Source) : Prop where
  length_eq : prepared.length = s.length
  /-- Code stays as it is. -/
  code : ∀ n, s.HasCode n → prepared.text n = s.text n
  /-- Other lines are filled in, but for the first one. -/
  blank : ∀ n, 0 < n → n < s.length → ¬ s.HasCode n →
    ∃ indent, isBlank indent = true ∧ prepared.text n = filler indent
  /-- The body of a line of code has the same code as before. -/
  body : ∀ header n, s.HasCode header → s.HasCode n →
    (n ∈ prepared.loopBody header ↔ n ∈ s.loopBody header)
  /-- It has all fillers above any of its code. -/
  between : ∀ header n, s.HasCode header → s.HasCode n → n ∈ s.loopBody header →
    ∀ k, header < k → k < n → ¬ s.HasCode k → k ∈ prepared.loopBody header
  /-- The body of a loop has all fillers directly below the header. -/
  below : ∀ header, s.HasCode header → s.isHeader header = true →
    ∀ k, header < k → k < s.length → (∀ j, header < j → j ≤ k → ¬ s.HasCode j) →
      k ∈ prepared.loopBody header

/-- Code that is in a body is in it once the program is prepared, with all fillers
above it. -/
theorem deepFrom_prepare (hplain : HasPlainBlanks text) {header n : Nat}
    (hheader : (withoutComments text).HasCode header)
    (hn : n ∈ (withoutComments text).loopBody header) :
    (prepare text).DeepFrom ((prepare text).indentOf header) (header + 1) n := by
  obtain ⟨-, hcode, hdeep⟩ := mem_loopBody_iff.mp hn
  intro k hk hkn hkcode
  rw [indentOf_prepare_of_hasCode hheader]
  rcases (hasCode_prepare_iff (Nat.zero_lt_of_lt hk)).mp hkcode with hwritten | hfilled
  · rw [indentOf_prepare_of_hasCode hwritten]
    exact hdeep k hk hkn hwritten
  · have hlt : k < n := by
      refine Nat.lt_of_le_of_ne hkn fun heq => ?_
      exact (isFilled_iff.mp hfilled).2.2 (heq ▸ hcode)
    obtain ⟨first, hbehind, hle, hfirst, hfiller⟩ :=
      indentOf_le_of_isFilled hplain hfilled hlt hcode
    have hfirstDeep := hdeep first (by omega) hle hfirst
    omega

/-- Preparation keeps the lines of a program and the bodies of its loops. -/
theorem prepare_keepsRegions (hplain : HasPlainBlanks text) :
    KeepsRegions (withoutComments text) (prepare text) where
  length_eq := length_prepare text
  code _ := text_prepare_of_hasCode
  blank n hpos hlength hcode := (text_prepare text n).1 (isFilled_iff.mpr ⟨hpos, hlength, hcode⟩)
  body header n hheader hn := by
    constructor
    · intro hmem
      obtain ⟨hlt, -, hdeep⟩ := mem_loopBody_iff.mp hmem
      refine mem_loopBody_iff.mpr ⟨hlt, hn, fun k hk hkn hk' => ?_⟩
      have hkcode : (prepare text).HasCode k :=
        (hasCode_prepare_iff (Nat.zero_lt_of_lt hk)).mpr (.inl hk')
      have hkdeep := hdeep k hk hkn hkcode
      rwa [indentOf_prepare_of_hasCode hheader, indentOf_prepare_of_hasCode hk'] at hkdeep
    · intro hmem
      have hlt : header < n := (mem_loopBody_iff.mp hmem).1
      have hncode : (prepare text).HasCode n :=
        (hasCode_prepare_iff (Nat.zero_lt_of_lt hlt)).mpr (.inl hn)
      exact mem_loopBody_iff.mpr ⟨hlt, hncode, deepFrom_prepare hplain hheader hmem⟩
  between header n hheader hn hmem k hk hkn hkblank := by
    have hpos : 0 < k := Nat.zero_lt_of_lt hk
    have hlength : k < (withoutComments text).length := Nat.lt_trans hkn (lt_length_of_hasCode hn)
    have hkcode : (prepare text).HasCode k :=
      (hasCode_prepare_iff hpos).mpr (.inr (isFilled_iff.mpr ⟨hpos, hlength, hkblank⟩))
    have hdeep := deepFrom_prepare hplain hheader hmem
    exact mem_loopBody_iff.mpr
      ⟨hk, hkcode, fun j hj hjk => hdeep j hj (Nat.le_trans hjk (Nat.le_of_lt hkn))⟩
  below header hheader hloop k hk hlength hblank := by
    have hfilled : ∀ j, header < j → j ≤ k → IsFilled text j := fun j hj hjk =>
      isFilled_iff.mpr ⟨Nat.zero_lt_of_lt hj, Nat.lt_of_le_of_lt hjk hlength, hblank j hj hjk⟩
    have hopens : opensBlock ((withoutComments text).text header) = true := by
      have hopens := opensBlock_of_isLoopHeader hloop
      rwa [text_withoutComments, stripComment_stripComment, ← text_withoutComments] at hopens
    have hkcode : (prepare text).HasCode k :=
      (hasCode_prepare_iff (Nat.zero_lt_of_lt hk)).mpr (.inr (hfilled k hk (Nat.le_refl k)))
    refine mem_loopBody_iff.mpr ⟨hk, hkcode, fun j hj hjk _ => ?_⟩
    rw [indentOf_prepare_of_hasCode hheader]
    exact lt_indentOf_of_isFilled hplain hopens hheader hj
      fun i hi hij => hfilled i hi (Nat.le_trans hij hjk)

/-- A program with blank lines at its beginning, below headers, behind bodies and at its
end, with tabs, and with a comment that is indented deeper than the code around it. -/
def gappedLoops : List Char :=
  ("\nfor i in a: # outer\n\n\t\n  while i:\n            # inner\n    f(i)\n\n  g(i)\n" ++
    "\nh()\nfor k in b:\n\n").toList

theorem prepare_keepsRegions_gappedLoops : HasPlainBlanks gappedLoops ∧
    (withoutComments gappedLoops).loopBody 1 = [4, 6, 8] ∧
    (prepare gappedLoops).loopBody 1 = [2, 3, 4, 5, 6, 7, 8] ∧
    KeepsRegions (withoutComments gappedLoops) (prepare gappedLoops) := by
  have hall : gappedLoops.all (fun c => !isBlankChar c || decide (c.toNat < 128)) = true := by
    decide
  have hplain : HasPlainBlanks gappedLoops := fun c hc hblank => by
    simpa [hblank] using List.all_eq_true.mp hall c hc
  exact ⟨hplain, by decide, by decide, prepare_keepsRegions hplain⟩

/-- Wide white space can end a body: it has more bytes than the four blanks of the code
below it, and no more characters than the two of the header. -/
example :
    let text := "  for i in a:\n    f(i)\n\u2003\u2003\n    g(i)\n".toList
    (withoutComments text).loopBody 0 = [1, 3] ∧ (prepare text).loopBody 0 = [1] := by
  decide

end Stepwise.Source
