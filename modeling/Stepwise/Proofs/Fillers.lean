import Mathlib.Data.List.TakeWhile
import Stepwise.Proofs.LoopRegions
import Stepwise.Proofs.Preparation

/-!
# The white space of fillers

Two passes choose the white space of a line that is filled in. The pass from above
remembers whether the last line of code opens a block, and the pass from below what
the next line of code begins with. What either of them has remembered depends only on
the lines that it has passed, so that the outcome on a line can be said without the
passes: it is the longer of what the lines above ask for, or the line has of its own,
and of what the lines below ask for.

All of this white space is copied from the program, but for the indentation of a block.

## Main results

* `text_prepare_of_isFilled`: what is on a line that has been filled in.
* `blankWith_ownIndent`, `blankWith_firstIndent`: where its white space comes from.
-/

namespace Stepwise.Source

open Stepwise.Text

/-- The program with a certain text, without its comments. -/
def withoutComments (text : List Char) : Source := ⟨(splitLines text).map stripComment⟩

/-- The white space of the block that some lines open: that of the last line of code,
if it opens one, and that of a block that was open before, if there is no code. -/
def blockBehind : Option (List Char) → List (List Char) → Option (List Char)
  | block, [] => block
  | block, line :: rest =>
      if isBlank line then blockBehind block rest
      else if opensBlock line then blockBehind (some (leadingBlank line)) rest
      else blockBehind none rest

/-- The white space of a blank line behind the pass from above. -/
def ownIndent : Option (List Char) → List Char → List Char
  | some indent, _ => indent ++ blockIndent
  | none, line => line

/-- The white space of the first line of code. -/
def firstIndent : List (List Char) → List Char
  | [] => []
  | line :: rest => if isBlank line then firstIndent rest else leadingBlank line

/-! ## The two passes -/

theorem blockBehind_cons (block : Option (List Char)) (line : List Char)
    (rest : List (List Char)) :
    blockBehind block (line :: rest) =
      if isBlank line then blockBehind block rest
      else if opensBlock line then blockBehind (some (leadingBlank line)) rest
      else blockBehind none rest := rfl

theorem firstIndent_cons (line : List Char) (rest : List (List Char)) :
    firstIndent (line :: rest) =
      if isBlank line then firstIndent rest else leadingBlank line := rfl

theorem blockBehind_append (block : Option (List Char)) (above below : List (List Char)) :
    blockBehind block (above ++ below) = blockBehind (blockBehind block above) below := by
  induction above generalizing block with
  | nil => rfl
  | cons line rest ih =>
      simp only [List.cons_append, blockBehind_cons, ih]
      split
      · rfl
      · split
        · rfl
        · rfl

/-- One line in the pass from above. -/
theorem indentBlanks_cons_eq (block : Option (List Char)) (line : List Char)
    (rest : List (List Char)) :
    indentBlanks block (line :: rest) =
      (if isBlank line then ownIndent block line else line) ::
        indentBlanks (blockBehind block [line]) rest := by
  simp only [indentBlanks.eq_def block (line :: rest), blockBehind_cons]
  split
  · cases block with
    | none => rfl
    | some indent => rfl
  · split
    · rfl
    · rfl

/-- One line in the pass from below. -/
theorem fillBlanks_cons_eq (line : List Char) (rest : List (List Char)) :
    fillBlanks (line :: rest) =
      if isBlank line then
        (filler (longer line (fillBlanks rest).2) :: (fillBlanks rest).1, (fillBlanks rest).2)
      else (line :: (fillBlanks rest).1, leadingBlank line) := rfl

/-- The pass from above knows of the lines that it has passed only the block that they
open. -/
theorem drop_indentBlanks (block : Option (List Char)) (lines : List (List Char)) (n : Nat) :
    (indentBlanks block lines).drop n =
      indentBlanks (blockBehind block (lines.take n)) (lines.drop n) := by
  induction lines generalizing block n with
  | nil => simp [indentBlanks]
  | cons line rest ih =>
      cases n with
      | zero => rfl
      | succ n =>
          have hblock : blockBehind block (line :: rest.take n) =
              blockBehind (blockBehind block [line]) (rest.take n) :=
            blockBehind_append block [line] (rest.take n)
          rw [indentBlanks_cons_eq, List.drop_succ_cons, ih, List.take_succ_cons,
            List.drop_succ_cons, hblock]

/-- The pass from below does not know of the lines that are still above it. -/
theorem drop_fillBlanks (lines : List (List Char)) (n : Nat) :
    (fillBlanks lines).1.drop n = (fillBlanks (lines.drop n)).1 := by
  induction lines generalizing n with
  | nil => simp [fillBlanks]
  | cons line rest ih =>
      cases n with
      | zero => rfl
      | succ n =>
          rw [fillBlanks_cons_eq, List.drop_succ_cons, ← ih n]
          split
          · rfl
          · rfl

theorem drop_fillBelowFirst (lines : List (List Char)) {n : Nat} (h : 0 < n) :
    (fillBelowFirst lines).drop n = (fillBlanks (lines.drop n)).1 := by
  obtain ⟨n, rfl⟩ := Nat.exists_eq_succ_of_ne_zero (Nat.pos_iff_ne_zero.mp h)
  cases lines with
  | nil => simp [fillBelowFirst, fillBlanks]
  | cons first rest => exact drop_fillBlanks rest n

/-- What the pass from below has remembered is what the first line of code begins with,
whatever the pass from above has put on the blank lines. -/
theorem fillBlanks_snd {lines indented : List (List Char)}
    (h : List.Forall₂ Indents lines indented) : (fillBlanks indented).2 = firstIndent lines := by
  induction h with
  | nil => rfl
  | @cons line out lines indented hline _ ih =>
      rw [Indents] at hline
      rw [fillBlanks_cons_eq, firstIndent_cons]
      split at hline
      · next hblank => rw [if_pos hblank, if_pos hline, ih]
      · next hcode => rw [if_neg hcode, hline, if_neg hcode]

/-! ## White space that is copied -/

/-- Whether a text is white space and all of its characters are of a certain kind. -/
def BlankWith (p : Char → Prop) (t : List Char) : Prop := ∀ c ∈ t, isBlankChar c = true ∧ p c

variable {p : Char → Prop} {lines : List (List Char)} {block : Option (List Char)}
variable {text : List Char}

theorem BlankWith.isBlank_eq {t : List Char} (h : BlankWith p t) : isBlank t = true :=
  List.all_eq_true.mpr fun c hc => (h c hc).1

theorem blankWith_blockBehind (hlines : ∀ line ∈ lines, BlankWith p (leadingBlank line))
    (hblock : ∀ indent ∈ block, BlankWith p indent) :
    ∀ indent ∈ blockBehind block lines, BlankWith p indent := by
  induction lines generalizing block with
  | nil => exact hblock
  | cons line rest ih =>
      obtain ⟨hline, hrest⟩ := List.forall_mem_cons.mp hlines
      rw [blockBehind_cons]
      split
      · exact ih hrest hblock
      · split
        · exact ih hrest fun indent hindent => Option.some.inj hindent ▸ hline
        · exact ih hrest nofun

theorem blankWith_firstIndent (hlines : ∀ line ∈ lines, BlankWith p (leadingBlank line)) :
    BlankWith p (firstIndent lines) := by
  induction lines with
  | nil => exact nofun
  | cons line rest ih =>
      obtain ⟨hline, hrest⟩ := List.forall_mem_cons.mp hlines
      rw [firstIndent_cons]
      split
      · exact ih hrest
      · exact hline

theorem blankWith_ownIndent (hspace : p ' ') (hblock : ∀ indent ∈ block, BlankWith p indent)
    {line : List Char} (hline : BlankWith p line) : BlankWith p (ownIndent block line) := by
  cases block with
  | none => exact hline
  | some indent =>
      have hunit : BlankWith p blockIndent := by
        intro c hc
        obtain rfl : c = ' ' := by simpa [blockIndent] using hc
        exact ⟨by decide, hspace⟩
      intro c hc
      rcases List.mem_append.mp hc with hindent | hstep
      · exact hblock indent rfl c hindent
      · exact hunit c hstep

theorem blankWith_longer {above below : List Char} (habove : BlankWith p above)
    (hbelow : BlankWith p below) : BlankWith p (longer above below) := by
  unfold longer
  split
  · exact habove
  · exact hbelow

/-! ## Prepared programs -/

theorem text_withoutComments (text : List Char) (n : Nat) :
    (withoutComments text).text n = stripComment ((ofText text).text n) := by
  simp only [Source.text, line?, withoutComments, ofText, List.getElem?_map]
  cases (splitLines text)[n]? with
  | none => rfl
  | some line => rfl

theorem isFilled_iff {n : Nat} : IsFilled text n ↔
    0 < n ∧ n < (withoutComments text).length ∧ ¬ (withoutComments text).HasCode n := by
  have hlength : (withoutComments text).length = (ofText text).length := List.length_map _
  rw [IsFilled, hlength, not_hasCode_iff, text_withoutComments]

theorem mem_text_of_mem_line {line : List Char} (hline : line ∈ (withoutComments text).lines)
    {c : Char} (hc : c ∈ line) : c ∈ text := by
  obtain ⟨written, hwritten, rfl⟩ := List.mem_map.mp hline
  exact ((splitLines_within text).2 written hwritten).subset
    ((stripCommentFrom_starts .code written).subset hc)

theorem blankWith_leadingBlank (htext : ∀ c ∈ text, isBlankChar c = true → p c) {line : List Char}
    (hline : line ∈ (withoutComments text).lines) : BlankWith p (leadingBlank line) := by
  intro c hc
  have hblank : isBlankChar c = true := List.mem_takeWhile_imp hc
  exact ⟨hblank, htext c (mem_text_of_mem_line hline ((List.takeWhile_prefix _).subset hc)) hblank⟩

/-- The white space of the block that is open above a line. -/
def openBlock (s : Source) (n : Nat) : Option (List Char) := blockBehind none (s.lines.take n)

/-- What the lines above and a line itself ask for, if it is to be filled in. -/
def indentAbove (s : Source) (n : Nat) : List Char := ownIndent (s.openBlock n) (s.text n)

/-- What the lines below a line ask for. -/
def indentBelow (s : Source) (n : Nat) : List Char := firstIndent (s.lines.drop (n + 1))

theorem openBlock_succ {s : Source} {n : Nat} (h : n < s.length) :
    s.openBlock (n + 1) = blockBehind (s.openBlock n) [s.text n] := by
  have htext : s.lines[n]? = some (s.text n) := by
    rw [← List.head?_drop, drop_eq_text_cons h, List.head?_cons]
  rw [openBlock, List.take_add_one, htext, blockBehind_append]
  rfl

section Copied

variable (htext : ∀ c ∈ text, isBlankChar c = true → p c)

include htext

theorem blankWith_openBlock (n : Nat) :
    ∀ indent ∈ (withoutComments text).openBlock n, BlankWith p indent :=
  blankWith_blockBehind
    (fun _ hline => blankWith_leadingBlank htext (List.mem_of_mem_take hline)) nofun

theorem blankWith_indentAbove (hspace : p ' ') {n : Nat} (h : IsFilled text n) :
    BlankWith p ((withoutComments text).indentAbove n) := by
  obtain ⟨-, hlength, hcode⟩ := isFilled_iff.mp h
  have hmem : (withoutComments text).text n ∈ (withoutComments text).lines :=
    text_mem_lines hlength
  refine blankWith_ownIndent hspace (blankWith_openBlock htext n) fun c hc => ?_
  have hblank : isBlankChar c = true := List.all_eq_true.mp (not_hasCode_iff.mp hcode) c hc
  exact ⟨hblank, htext c (mem_text_of_mem_line hmem hc) hblank⟩

theorem blankWith_indentBelow (n : Nat) : BlankWith p ((withoutComments text).indentBelow n) :=
  blankWith_firstIndent fun _ hline => blankWith_leadingBlank htext (List.mem_of_mem_drop hline)

end Copied

theorem isBlank_indentAbove {n : Nat} (h : IsFilled text n) :
    isBlank ((withoutComments text).indentAbove n) = true :=
  (blankWith_indentAbove (p := fun _ => True) (fun _ _ _ => trivial) trivial h).isBlank_eq

/-- The lines of a prepared program from a line below the first one on. -/
theorem drop_prepare (text : List Char) {n : Nat} (h : 0 < n) :
    (prepare text).lines.drop n =
      (fillBlanks (indentBlanks ((withoutComments text).openBlock n)
        ((withoutComments text).lines.drop n))).1 := by
  rw [prepare, drop_fillBelowFirst _ h, drop_indentBlanks]
  rfl

/-- A line that is filled in has the longer one of what is asked for above and below,
and then the assignment. -/
theorem text_prepare_of_isFilled {n : Nat} (h : IsFilled text n) :
    (prepare text).text n =
      filler (longer ((withoutComments text).indentAbove n)
        ((withoutComments text).indentBelow n)) := by
  obtain ⟨hpos, hlength, hcode⟩ := isFilled_iff.mp h
  have hblock : ∀ indent ∈ (withoutComments text).openBlock (n + 1), isBlank indent = true :=
    fun indent hindent => (blankWith_openBlock (p := fun _ => True) (fun _ _ _ => trivial) (n + 1)
      indent hindent).isBlank_eq
  have hlines := drop_prepare text hpos
  rw [drop_eq_text_cons hlength, indentBlanks_cons_eq, if_pos (not_hasCode_iff.mp hcode),
    ← indentAbove, ← openBlock_succ hlength, fillBlanks_cons_eq, if_pos (isBlank_indentAbove h),
    fillBlanks_snd (indents_indentBlanks _ hblock), ← indentBelow] at hlines
  exact (text_of_drop_eq_cons hlines).1

end Stepwise.Source
