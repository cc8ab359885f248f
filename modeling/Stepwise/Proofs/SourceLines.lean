import Stepwise.Proofs.LineNumber
import Stepwise.Proofs.Preparation

/-!
# Lines without line ends

No line of a program has a line feed on it, whether the program was split into
lines as it was written, or was prepared, or had lines emptied. So the text of
a program has one line feed for each of its lines, and a place in the text is
on one of them. The text of a program without lines is a line feed, as is that
of a program with one empty line.

## Main results

* `isSplit_ofText`, `isSplit_prepare`, `isSplit_blankLines`: where lines come
  from.
* `lineFeedsBefore_lt`: a place is on a line.
-/

namespace Stepwise

open Stepwise.Text

namespace Source

/-- Whether texts can be lines: there is no line feed in any of them. -/
def AreLines (lines : List (List Char)) : Prop := ∀ line ∈ lines, '\n' ∉ line

/-- Whether no line of a program has a line feed on it. -/
def IsSplit (s : Source) : Prop := AreLines s.lines

theorem areLines_cons {line : List Char} {lines : List (List Char)} :
    AreLines (line :: lines) ↔ '\n' ∉ line ∧ AreLines lines :=
  List.forall_mem_cons

theorem areLines_splitLines (text : List Char) : AreLines (splitLines text) := by
  induction text with
  | nil => simp [splitLines, AreLines]
  | cons c rest ih =>
      unfold splitLines
      split
      · exact areLines_cons.mpr ⟨by simp, ih⟩
      · next hfeed =>
          split
          · exact ih
          · have hc : '\n' ∉ [c] := by simpa using Ne.symm hfeed
            split
            · next line lines _ hlines =>
                rw [hlines, areLines_cons] at ih
                refine areLines_cons.mpr ⟨?_, ih.2⟩
                intro hmem
                rcases List.mem_cons.mp hmem with heq | hline
                · exact hfeed heq.symm
                · exact ih.1 hline
            · exact areLines_cons.mpr ⟨hc, ih⟩

theorem isSplit_ofText (text : List Char) : (ofText text).IsSplit := areLines_splitLines text

theorem isSplit_blankLine {s : Source} (h : s.IsSplit) (n : Nat) : (s.blankLine n).IsSplit := by
  intro line hline
  rcases List.mem_or_eq_of_mem_set hline with hold | rfl
  · exact h line hold
  · simp

theorem isSplit_blankLines {s : Source} (h : s.IsSplit) (lines : List Nat) :
    (s.blankLines lines).IsSplit := by
  induction lines generalizing s with
  | nil => exact h
  | cons n rest ih => exact ih (isSplit_blankLine h n)

/-! ## Prepared programs -/

theorem areLines_stripComment {lines : List (List Char)} (h : AreLines lines) :
    AreLines (lines.map stripComment) := by
  intro line hline
  obtain ⟨written, hwritten, rfl⟩ := List.mem_map.mp hline
  exact fun hmem => h written hwritten ((stripCommentFrom_starts .code written).subset hmem)

theorem lineFeed_not_mem_leadingBlank {line : List Char} (h : '\n' ∉ line) :
    '\n' ∉ leadingBlank line :=
  fun hmem => h ((List.takeWhile_prefix _).subset hmem)

theorem areLines_indentBlanks {block : Option (List Char)} {lines : List (List Char)}
    (h : AreLines lines) (hblock : ∀ indent ∈ block, '\n' ∉ indent) :
    AreLines (indentBlanks block lines) := by
  induction lines generalizing block with
  | nil => simp [indentBlanks, AreLines]
  | cons line rest ih =>
      obtain ⟨hline, hrest⟩ := areLines_cons.mp h
      unfold indentBlanks
      split
      · refine areLines_cons.mpr ⟨?_, ih hrest hblock⟩
        cases block with
        | none => exact hline
        | some indent =>
            have hunit : '\n' ∉ blockIndent := by decide
            show '\n' ∉ indent ++ blockIndent
            rw [List.mem_append]
            exact not_or.mpr ⟨hblock indent rfl, hunit⟩
      · split
        · refine areLines_cons.mpr ⟨hline, ih hrest ?_⟩
          intro indent hindent
          obtain rfl := Option.some.inj hindent
          exact lineFeed_not_mem_leadingBlank hline
        · exact areLines_cons.mpr ⟨hline, ih hrest (by simp)⟩

theorem lineFeed_not_mem_filler {indent : List Char} (h : '\n' ∉ indent) :
    '\n' ∉ filler indent := by
  have hassignment : '\n' ∉ (reservedName ++ " = 0").toList := by decide
  rw [filler, List.mem_append]
  exact not_or.mpr ⟨h, hassignment⟩

theorem areLines_fillBlanks {lines : List (List Char)} (h : AreLines lines) :
    AreLines (fillBlanks lines).1 ∧ '\n' ∉ (fillBlanks lines).2 := by
  induction lines with
  | nil => simp [fillBlanks, AreLines]
  | cons line rest ih =>
      obtain ⟨hline, hrest⟩ := areLines_cons.mp h
      obtain ⟨hfilled, hbelow⟩ := ih hrest
      simp only [fillBlanks]
      split
      · refine ⟨areLines_cons.mpr ⟨lineFeed_not_mem_filler ?_, hfilled⟩, hbelow⟩
        unfold longer
        split
        · exact hline
        · exact hbelow
      · exact ⟨areLines_cons.mpr ⟨hline, hfilled⟩, lineFeed_not_mem_leadingBlank hline⟩

theorem isSplit_prepare (text : List Char) : (prepare text).IsSplit := by
  have hindented : AreLines (indentBlanks none ((splitLines text).map stripComment)) :=
    areLines_indentBlanks (areLines_stripComment (areLines_splitLines text)) (by simp)
  unfold IsSplit prepare
  cases hlines : indentBlanks none ((splitLines text).map stripComment) with
  | nil => simp [fillBelowFirst, AreLines]
  | cons first rest =>
      rw [hlines, areLines_cons] at hindented
      exact areLines_cons.mpr ⟨hindented.1, (areLines_fillBlanks hindented.2).1⟩

/-! ## Line feeds of a text -/

/-- A text has as many line feeds among its bytes as among its characters. -/
theorem count_bytes (t : List Char) : (bytes t).count 10 = t.count '\n' := by
  induction t with
  | nil => rfl
  | cons c rest ih =>
      by_cases hc : c = '\n'
      · subst hc
        have hbytes : bytes ('\n' :: rest) = 10 :: bytes rest := rfl
        rw [hbytes, List.count_cons_self, List.count_cons_self, ih]
      · have hnone : (String.utf8EncodeChar c).count 10 = 0 := by
          rw [List.count_eq_zero]
          exact fun hmem => hc ((mem_utf8EncodeChar_iff c).mp hmem)
        have hbytes : bytes (c :: rest) = String.utf8EncodeChar c ++ bytes rest := rfl
        rw [hbytes, List.count_append, hnone, ih, Nat.zero_add, List.count_cons_of_ne hc]

/-- Between lines there is one line feed less than there are lines. -/
theorem count_intercalate {lines : List (List Char)} (h : AreLines lines) :
    (List.intercalate ['\n'] lines).count '\n' = lines.length - 1 := by
  induction lines with
  | nil => rfl
  | cons line rest ih =>
      obtain ⟨hline, hrest⟩ := areLines_cons.mp h
      have hnone : line.count '\n' = 0 := List.count_eq_zero.mpr hline
      cases rest with
      | nil => simpa [List.intercalate] using hnone
      | cons next rest =>
          have hcount := ih hrest
          rw [List.intercalate_cons_cons, List.count_append, List.count_append, hnone, hcount]
          simp only [List.length_cons, List.count_singleton_self]
          omega

/-- A place in the text of a program is on a line of the program. -/
theorem lineFeedsBefore_lt {s : Source} (h : s.IsSplit) {place : Nat}
    (hplace : place < byteLength s.toText) :
    lineFeedsBefore place s.toText < max 1 s.length := by
  have hfront : place ≤ (bytes (List.intercalate ['\n'] s.lines)).length := by
    rw [toText, byteLength_append] at hplace
    rw [length_bytes]
    have hend : byteLength ['\n'] = 1 := rfl
    omega
  have hcount : lineFeedsBefore place s.toText ≤
      (bytes (List.intercalate ['\n'] s.lines)).count 10 := by
    rw [lineFeedsBefore, toText, bytes_append, List.take_append_of_le_length hfront]
    exact (List.take_sublist _ _).count_le 10
  rw [count_bytes, count_intercalate h] at hcount
  have hlength : s.lines.length = s.length := rfl
  omega

end Source

end Stepwise
