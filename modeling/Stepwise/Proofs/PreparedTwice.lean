import Stepwise.Artifact
import Stepwise.Proofs.KeptRegions
import Stepwise.Proofs.SourceLines

/-!
# Programs that are prepared again

A front end can be given the text of a program that has been prepared before. That it
is prepared to the same program again has two reasons. Preparation has nothing to do
on a program that has no comments, and no blank lines below the first one, and such a
program is what it leaves. And the text of a program has the lines of the program,
because no line has a line feed on it.

A carriage return at the end of a line would be taken for a part of the line end. A
program without lines has a text with one line.

## Main results

* `ofText_toText_eq_self`: a program has the lines of its text.
* `prepare_of_isPrepared`, `isPrepared_prepare`: what preparation leaves, and leaves
  alone.
* `prepare_toText_prepare`: programs that are prepared again are the same.
-/

namespace Stepwise.Source

open Stepwise.Text

variable {text : List Char} {s : Source}

/-! ## Lines and texts -/

theorem splitLines_append {line : List Char} (hfeed : '\n' ∉ line) (hreturn : '\r' ∉ line)
    (more : List Char) : splitLines (line ++ '\n' :: more) = line :: splitLines more := by
  induction line with
  | nil => simp [splitLines]
  | cons c line ih =>
      rw [List.mem_cons, not_or] at hfeed hreturn
      have hrest : splitLines (line ++ '\n' :: more) = line :: splitLines more :=
        ih hfeed.2 hreturn.2
      obtain ⟨d, below, hbelow⟩ : ∃ d below, line ++ '\n' :: more = d :: below := by
        cases line with
        | nil => exact ⟨_, _, rfl⟩
        | cons d line => exact ⟨_, _, rfl⟩
      rw [hbelow] at hrest
      simp only [List.cons_append, hbelow, splitLines.eq_def (c :: d :: below), hrest]
      rw [if_neg (Ne.symm hfeed.1), if_neg fun hboth => hreturn.1 hboth.1.symm]

theorem splitLines_ne_nil (h : text ≠ []) : splitLines text ≠ [] := by
  cases text with
  | nil => exact absurd rfl h
  | cons c rest =>
      unfold splitLines
      split
      · exact List.cons_ne_nil _ _
      · split
        · next hreturn =>
            -- The line feed behind the carriage return ends a line.
            obtain ⟨below, rfl⟩ := List.head?_eq_some_iff.mp hreturn.2
            exact List.cons_ne_nil _ _
        · split
          · exact List.cons_ne_nil _ _
          · exact List.cons_ne_nil _ _

/-- A program has the lines of its text, if there are any, and no carriage return is
taken for a part of a line end. -/
theorem ofText_toText_eq_self (hne : s.lines ≠ []) (hsplit : s.IsSplit)
    (hreturn : ∀ line ∈ s.lines, '\r' ∉ line) : ofText s.toText = s := by
  obtain ⟨lines⟩ := s
  simp only [ofText, toText, Source.mk.injEq]
  induction lines with
  | nil => exact absurd rfl hne
  | cons line rest ih =>
      obtain ⟨hfeed, hsplit⟩ := areLines_cons.mp hsplit
      obtain ⟨hline, hreturn⟩ := List.forall_mem_cons.mp hreturn
      cases rest with
      | nil => simpa [List.intercalate, splitLines] using splitLines_append hfeed hline []
      | cons next rest =>
          have hbelow := ih (List.cons_ne_nil next rest) hsplit hreturn
          rw [List.intercalate_cons_cons, List.append_assoc, List.append_assoc,
            List.singleton_append, splitLines_append hfeed hline, hbelow]

/-! ## What preparation leaves -/

/-- Whether a program has no comments, and code on all lines below the first one. -/
structure IsPrepared (s : Source) : Prop where
  uncommented : ∀ line ∈ s.lines, stripComment line = line
  coded : ∀ line ∈ s.lines.tail, isBlank line = false

theorem indentBlanks_of_coded {lines : List (List Char)} (h : ∀ line ∈ lines, isBlank line = false)
    (block : Option (List Char)) : indentBlanks block lines = lines := by
  induction lines generalizing block with
  | nil => simp [indentBlanks]
  | cons line rest ih =>
      obtain ⟨hline, hrest⟩ := List.forall_mem_cons.mp h
      rw [indentBlanks_cons_eq, hline, if_neg Bool.false_ne_true, ih hrest]

theorem fillBlanks_of_coded {lines : List (List Char)}
    (h : ∀ line ∈ lines, isBlank line = false) : (fillBlanks lines).1 = lines := by
  induction lines with
  | nil => rfl
  | cons line rest ih =>
      obtain ⟨hline, hrest⟩ := List.forall_mem_cons.mp h
      rw [fillBlanks_cons_eq, hline, if_neg Bool.false_ne_true, ih hrest]

theorem prepare_of_isPrepared (h : (ofText text).IsPrepared) : prepare text = ofText text := by
  have hlines : (splitLines text).map stripComment = splitLines text :=
    (List.map_congr_left h.uncommented).trans (List.map_id' _)
  have hcoded : ∀ line ∈ (splitLines text).tail, isBlank line = false := h.coded
  rw [prepare, hlines, ofText]
  cases hsplit : splitLines text with
  | nil => rfl
  | cons first rest =>
      rw [hsplit, List.tail_cons] at hcoded
      obtain ⟨block, -, hindented⟩ := indentBlanks_cons first rest
      rw [hindented, indentBlanks_of_coded hcoded, fillBelowFirst, fillBlanks_of_coded hcoded]

/-- A line of a prepared program is one of the program without its comments, or it has
been filled in. -/
theorem mem_lines_prepare {line : List Char} (h : line ∈ (prepare text).lines) :
    line ∈ (withoutComments text).lines ∨ ∃ n, IsFilled text n ∧ (prepare text).text n = line := by
  obtain ⟨n, hn, rfl⟩ := List.getElem_of_mem h
  by_cases hfilled : IsFilled text n
  · exact .inr ⟨n, hfilled, text_eq_getElem hn⟩
  · have hlength : n < (withoutComments text).length := length_prepare text ▸ hn
    rw [← text_eq_getElem hn, (text_prepare text n).2 hfilled, ← text_withoutComments]
    exact .inl (text_mem_lines hlength)

theorem mem_filler {c : Char} {indent : List Char} :
    c ∈ filler indent ↔ c ∈ indent ∨ c ∈ (reservedName ++ " = 0").toList :=
  List.mem_append

theorem isPrepared_prepare (text : List Char) : (prepare text).IsPrepared where
  uncommented line hline := by
    rcases mem_lines_prepare hline with hwritten | ⟨n, hfilled, rfl⟩
    · obtain ⟨written, -, rfl⟩ := List.mem_map.mp hwritten
      exact stripComment_stripComment written
    · obtain ⟨indent, hindent, hfiller⟩ := (text_prepare text n).1 hfilled
      refine stripCommentFrom_of_not_mem (fun hsign => ?_) .code
      rw [hfiller, mem_filler] at hsign
      rcases hsign with hmem | hmem
      · exact (plain_of_isBlankChar (List.all_eq_true.mp hindent _ hmem)).2.1 rfl
      · exact absurd hmem (by decide)
  coded line hline := by
    obtain ⟨n, hn, rfl⟩ := List.getElem_of_mem hline
    have hlength : n + 1 < (prepare text).lines.length := by
      rw [List.length_tail] at hn
      exact Nat.add_lt_of_lt_sub hn
    rw [List.getElem_tail, ← text_eq_getElem hlength]
    refine (hasCode_prepare_iff (Nat.succ_pos n)).mpr ?_
    by_cases hcode : (withoutComments text).HasCode (n + 1)
    · exact .inl hcode
    · exact .inr (isFilled_iff.mpr ⟨Nat.succ_pos n, length_prepare text ▸ hlength, hcode⟩)

/-- There is no carriage return in a prepared program if there is none in the text. -/
theorem carriageReturn_not_mem_prepare (h : '\r' ∉ text) :
    ∀ line ∈ (prepare text).lines, '\r' ∉ line := by
  intro line hline hmem
  rcases mem_lines_prepare hline with hwritten | ⟨n, hfilled, rfl⟩
  · exact h (mem_text_of_mem_line hwritten hmem)
  · have hcopied : ∀ c ∈ text, isBlankChar c = true → c ≠ '\r' := fun c hc _ heq => h (heq ▸ hc)
    have habove := blankWith_indentAbove hcopied (by decide) hfilled
    have hbelow := blankWith_indentBelow hcopied n
    rw [text_prepare_of_isFilled hfilled, mem_filler] at hmem
    rcases hmem with hindent | hname
    · exact (blankWith_longer habove hbelow _ hindent).2 rfl
    · exact absurd hname (by decide)

/-- A program that is prepared again, from the text that is handed on, stays as it is.
So however a program is loaded, its text is loaded as the same program, and has the
same digest. -/
theorem prepare_toText_prepare (hne : text ≠ []) (hreturn : '\r' ∉ text) :
    prepare (prepare text).toText = prepare text ∧
      ∀ settings : Artifact.Settings,
        settings.load (settings.load text).toText = settings.load text ∧
        digest (settings.load (settings.load text).toText).toText =
          digest (settings.load text).toText := by
  have hlines : (prepare text).lines ≠ [] := by
    intro hnil
    have hlength := length_prepare text
    rw [length, hnil, length, withoutComments, List.length_map, List.length_nil] at hlength
    exact splitLines_ne_nil hne (List.length_eq_zero_iff.mp hlength.symm)
  have hsame : ofText (prepare text).toText = prepare text :=
    ofText_toText_eq_self hlines (isSplit_prepare text) (carriageReturn_not_mem_prepare hreturn)
  have hprepared : prepare (prepare text).toText = prepare text := by
    have hprepared : (ofText (prepare text).toText).IsPrepared := by
      rw [hsame]
      exact isPrepared_prepare text
    rw [prepare_of_isPrepared hprepared, hsame]
  have hwritten : ofText (ofText text).toText = ofText text :=
    ofText_toText_eq_self (splitLines_ne_nil hne) (isSplit_ofText text) fun line hline hmem =>
      hreturn (((splitLines_within text).2 line hline).subset hmem)
  refine ⟨hprepared, fun settings => ?_⟩
  have hload : settings.load (settings.load text).toText = settings.load text := by
    unfold Artifact.Settings.load
    split
    · exact hprepared
    · exact hwritten
  exact ⟨hload, by rw [hload]⟩

/-- A program with a comment on its first line, number signs in literals, and a header
with nothing but blank lines and a comment below it. -/
def openEnded : List Char := "# top\ns = \"\\\"#\" # '\n\n\twhile s != '#':\n\n  # end\n\x0c".toList

theorem prepare_toText_prepare_openEnded : openEnded ≠ [] ∧ '\r' ∉ openEnded ∧
    (prepare openEnded).lines.map String.ofList =
      ["", "s = \"\\\"#\" ", "\t__run_py__ = 0", "\twhile s != '#':", "\t    __run_py__ = 0",
        "\t    __run_py__ = 0", "\t    __run_py__ = 0"] ∧
    prepare (prepare openEnded).toText = prepare openEnded ∧
    ∀ settings : Artifact.Settings,
      settings.load (settings.load openEnded).toText = settings.load openEnded ∧
      digest (settings.load (settings.load openEnded).toText).toText =
        digest (settings.load openEnded).toText := by
  have hne : openEnded ≠ [] := by decide
  have hreturn : '\r' ∉ openEnded := by decide
  exact ⟨hne, hreturn, by decide, prepare_toText_prepare hne hreturn⟩

/-- Both conditions are needed: a program without lines gets one, and each time that a
line is read it loses a carriage return at its end. -/
example : prepare (prepare []).toText ≠ prepare [] ∧
    prepare (prepare "x\r\r\n".toList).toText ≠ prepare "x\r\r\n".toList := by
  decide

end Stepwise.Source
