import Stepwise.Proofs.LineScan

/-!
# Text that no verdict depends on

Lines are judged by their text. What stands in a string literal, or in a comment, is
not code, and it must not make a loop begin or end. It does not: a literal splits a
line into two parts, and the words of the line are those of the parts. Of the two
parts, the one in front tells whether a loop is introduced, and the one behind
whether the line ends as a loop header does.

The literal has to be closed. In a literal that is still open at the end of a line,
the last character is taken for that of the statement.

## Main results

* `words_literal`, `isLoopHeader_literal`: verdicts on a line with a literal.
* `verdict_ignores`: what is quoted, or in a comment, has no part in any verdict.
-/

namespace Stepwise.Source

open Stepwise.Text

/-- What a line is judged to be. -/
structure Verdict where
  header : Bool
  breaks : Bool
  returns : Bool
  suspends : Bool
  deriving DecidableEq

/-- All that is asked about a line. -/
def verdict (line : List Char) : Verdict :=
  ⟨isLoopHeader line, isBreak line, isReturn line, isSuspension line⟩

theorem verdict_congr {line line' : List Char} (hheader : isLoopHeader line = isLoopHeader line')
    (hwords : words line = words line') : verdict line = verdict line' := by
  simp only [verdict, isBreak, isReturn, isSuspension, hasKeyword, hheader, hwords]

/-! ## Literals -/

/-- Whether a character is a quotation mark. -/
def IsMark (c : Char) : Prop := c = '\'' ∨ c = '"'

/-- Whether a text can be all that stands in a literal with certain marks: it does not
have the mark, and there is nothing escaped. -/
def IsQuotable (mark : Char) (t : List Char) : Prop := mark ∉ t ∧ '\\' ∉ t

/-- A line with a literal in it. -/
def withLiteral (mark : Char) (front inside behind : List Char) : List Char :=
  front ++ mark :: inside ++ mark :: behind

variable {mark : Char} {front inside behind t : List Char}

theorem isQuotable_cons {c : Char} :
    IsQuotable mark (c :: t) ↔ (c ≠ mark ∧ c ≠ '\\') ∧ IsQuotable mark t := by
  rw [IsQuotable, IsQuotable, List.mem_cons, List.mem_cons, not_or, not_or, and_and_and_comm,
    eq_comm (a := mark), eq_comm (a := '\\')]

/-- Such a text does not move the scan of a literal. -/
theorem next_literal {c : Char} (h : c ≠ mark ∧ c ≠ '\\') :
    (Within.literal mark false).next c = .literal mark false := by
  simp [Within.next, h.1, h.2]

namespace IsMark

variable (h : IsMark mark)

include h

theorem isBlankChar_eq : isBlankChar mark = false := by
  rcases h with rfl | rfl <;> decide

theorem isWordChar_eq : isWordChar mark = false := by
  rcases h with rfl | rfl <;> decide

theorem not_mem_keyword : ∀ keyword ∈ ["async", "for", "while"], mark ∉ keyword.toList := by
  rcases h with rfl | rfl <;> decide

/-- A quotation mark in code begins a literal. -/
theorem begins : Within.code.next mark = .literal mark false ∧ mark ≠ '#' := by
  refine ⟨if_pos h, ?_⟩
  rcases h with rfl | rfl <;> decide

/-- The same mark ends the literal. -/
theorem ends : (Within.literal mark false).next mark = .code := by
  rcases h with rfl | rfl <;> decide

end IsMark

/-- The scan of a literal comes to the mark that ends it. -/
theorem scanFrom_literal (hmark : IsMark mark) (hinside : IsQuotable mark inside) :
    scanFrom (.literal mark false) (inside ++ [mark]) = some .code := by
  induction inside with
  | nil => simp [scanFrom, hmark.ends]
  | cons c rest ih =>
      obtain ⟨hc, hrest⟩ := isQuotable_cons.mp hinside
      simpa [scanFrom, next_literal hc] using ih hrest

/-- There are no words in a literal. -/
theorem wordsFrom_literal (hmark : IsMark mark) (hinside : IsQuotable mark inside)
    (word more : List Char) :
    wordsFrom (.literal mark false) word (inside ++ mark :: more) = wordsFrom .code word more := by
  induction inside with
  | nil => simp [wordsFrom, hmark.ends]
  | cons c rest ih =>
      obtain ⟨hc, hrest⟩ := isQuotable_cons.mp hinside
      simpa [wordsFrom, next_literal hc] using ih hrest

/-- The comment of a line with a literal is that of the part behind the literal. -/
theorem stripComment_literal (hmark : IsMark mark) (hfront : scan front = some .code)
    (hinside : IsQuotable mark inside) (behind : List Char) :
    stripComment (withLiteral mark front inside behind) =
      withLiteral mark front inside (stripComment behind) := by
  have hscan : scanFrom .code (front ++ mark :: (inside ++ [mark])) = some .code := by
    rw [scanFrom_append, show scanFrom .code front = some .code from hfront, Option.bind_some,
      scanFrom_cons (fun hboth => hmark.begins.2 hboth.2), hmark.begins.1,
      scanFrom_literal hmark hinside]
  have hline (rest : List Char) : withLiteral mark front inside rest =
      front ++ mark :: (inside ++ [mark]) ++ rest := by simp [withLiteral]
  rw [hline, stripComment, stripCommentFrom_append hscan, hline, stripComment]

/-- The words of a line with a literal are those in front of the literal, and then
those behind it. -/
theorem words_literal (hmark : IsMark mark) (hfront : scan front = some .code)
    (hinside : IsQuotable mark inside) (behind : List Char) :
    words (withLiteral mark front inside behind) = words front ++ words behind := by
  have hself : stripComment front = front := stripCommentFrom_eq_self hfront
  rw [words, stripComment_literal hmark hfront hinside, withLiteral, List.append_assoc,
    List.cons_append, wordsFrom_append hfront hmark.isWordChar_eq, hmark.begins.1,
    wordsFrom_literal hmark hinside, words, hself, words]

/-! ## Literals and loop headers -/

theorem stripFront?_append_cons {keyword : List Char} (h : mark ∉ keyword) (t more : List Char) :
    stripFront? keyword (t ++ mark :: more) = (stripFront? keyword t).map (· ++ mark :: more) := by
  induction keyword generalizing t with
  | nil => rfl
  | cons c keyword ih =>
      rw [List.mem_cons, not_or] at h
      cases t with
      | nil => exact if_neg (Ne.symm h.1)
      | cons d t =>
          rw [List.cons_append, stripFront?, stripFront?]
          split
          · exact ih h.2 t
          · rfl

theorem dropAsync_append_cons (hmark : IsMark mark) (t more : List Char) :
    dropAsync (t ++ mark :: more) = dropAsync t ++ mark :: more := by
  have hasync := hmark.not_mem_keyword "async" (by simp)
  rw [dropAsync, stripFront?_append_cons hasync, dropAsync]
  cases stripFront? "async".toList t with
  | none => rfl
  | some rest =>
      cases rest with
      | nil => simp [hmark.isBlankChar_eq]
      | cons c rest =>
          simp only [Option.map_some, List.cons_append]
          split
          · exact trimStart_append_cons hmark.isBlankChar_eq (c :: rest) more
          · rfl

theorem startsWithKeyword_append_cons (hmark : IsMark mark) {keyword : String}
    (hkeyword : keyword ∈ ["async", "for", "while"]) (t more : List Char) :
    startsWithKeyword keyword (t ++ mark :: more) = startsWithKeyword keyword t := by
  rw [startsWithKeyword, stripFront?_append_cons (hmark.not_mem_keyword keyword hkeyword),
    startsWithKeyword]
  cases stripFront? keyword.toList t with
  | none => rfl
  | some rest =>
      cases rest with
      | nil => simp [hmark.isWordChar_eq]
      | cons c rest => rfl

/-- Whether a line with a literal introduces a loop: what is in front of the literal
has to begin as a loop header, and what is behind to end as one. -/
theorem isLoopHeader_literal (hmark : IsMark mark) (hfront : scan front = some .code)
    (hinside : IsQuotable mark inside) (behind : List Char) :
    isLoopHeader (withLiteral mark front inside behind) =
      ((startsWithKeyword "for" (dropAsync (trimStart front)) ||
          startsWithKeyword "while" (dropAsync (trimStart front))) &&
        (trimEnd (mark :: stripComment behind)).getLast? == some ':') := by
  have hend : isBlank (mark :: stripComment behind) = false := by
    simp [isBlank, hmark.isBlankChar_eq]
  have htrim : trim (withLiteral mark front inside (stripComment behind)) =
      trimStart front ++ mark :: (inside ++ trimEnd (mark :: stripComment behind)) := by
    have hline : withLiteral mark front inside (stripComment behind) =
        front ++ mark :: (inside ++ mark :: stripComment behind) := by simp [withLiteral]
    rw [trim, hline, trimStart_append_cons hmark.isBlankChar_eq, ← List.cons_append,
      ← List.append_assoc, trimEnd_append hend, List.append_assoc, List.cons_append]
  obtain ⟨last, hlast⟩ : ∃ last, (trimEnd (mark :: stripComment behind)).getLast? = some last := by
    refine Option.ne_none_iff_exists'.mp fun hnone => ?_
    rw [List.getLast?_eq_none_iff, trimEnd_eq_nil_iff, hend] at hnone
    cases hnone
  simp only [isLoopHeader, stripComment_literal hmark hfront hinside, htrim,
    dropAsync_append_cons hmark, startsWithKeyword_append_cons hmark, List.mem_cons, true_or,
    or_true]
  rw [hlast, ← List.cons_append, ← List.append_assoc, List.getLast?_append, hlast, Option.some_or]

/-! ## Comments -/

/-- The scan of a line ends outside of a literal: in code, or in a comment. -/
def EndsOutside (line : List Char) : Prop := ∀ w ∈ scan line, w = .code

theorem scan_stripComment {line : List Char} (h : EndsOutside line) :
    scan (stripComment line) = some .code := by
  cases hscan : scan line with
  | none => exact (stripCommentFrom_of_comment hscan).1
  | some w =>
      obtain rfl : w = .code := h w hscan
      rw [stripComment, stripCommentFrom_eq_self hscan, hscan]

/-- White space around a line, and then a comment, are removed with the comment of the
line, but for white space. -/
theorem stripComment_surrounded {line : List Char} (hline : EndsOutside line)
    (hfront : isBlank front = true) (hbehind : isBlank behind = true) (comment : List Char) :
    ∃ rest, isBlank rest = true ∧
      stripComment (front ++ line ++ behind ++ '#' :: comment) =
        front ++ stripComment line ++ rest := by
  have hnext : stripComment (front ++ line ++ behind ++ '#' :: comment) =
      front ++ stripCommentFrom .code (line ++ (behind ++ '#' :: comment)) := by
    rw [List.append_assoc, List.append_assoc, stripComment,
      stripCommentFrom_append (scanFrom_of_isBlank hfront)]
  cases hscan : scan line with
  | none =>
      refine ⟨[], rfl, ?_⟩
      rw [hnext, (stripCommentFrom_of_comment hscan).2, stripComment, List.append_nil]
  | some w =>
      obtain rfl : w = .code := hline w hscan
      have hcomment : stripCommentFrom .code ('#' :: comment) = [] := if_pos ⟨rfl, rfl⟩
      refine ⟨behind, hbehind, ?_⟩
      rw [hnext, stripCommentFrom_append hscan,
        stripCommentFrom_append (scanFrom_of_isBlank hbehind), hcomment, List.append_nil,
        stripComment, stripCommentFrom_eq_self hscan, List.append_assoc]

theorem words_surrounded {code : List Char} (hcode : scan code = some .code)
    (hfront : isBlank front = true) (hbehind : isBlank behind = true) :
    wordsFrom .code [] (front ++ code ++ behind) = wordsFrom .code [] code := by
  rw [List.append_assoc, wordsFrom_of_isBlank hfront]
  cases behind with
  | nil => rw [List.append_nil]
  | cons c behind =>
      obtain ⟨hc, hrest⟩ := isBlank_cons.mp hbehind
      have hnone : wordsFrom .code [] behind = [] := by
        simpa [wordsFrom] using wordsFrom_of_isBlank hrest []
      rw [wordsFrom_append hcode (plain_of_isBlankChar hc).1, next_of_isBlankChar hc, hnone,
        List.append_nil]

/-! ## Verdicts -/

/-- What stands in a literal that is closed, and in a comment, has no part in any
verdict on a line, and neither has white space around a line. -/
theorem verdict_ignores :
    (∀ mark front inside inside' behind, IsMark mark → scan front = some .code →
      IsQuotable mark inside → IsQuotable mark inside' →
      verdict (withLiteral mark front inside behind) =
        verdict (withLiteral mark front inside' behind)) ∧
    ∀ line front behind comment, EndsOutside line →
      isBlank front = true → isBlank behind = true →
      verdict (front ++ line ++ behind ++ '#' :: comment) = verdict line := by
  constructor
  · intro mark front inside inside' behind hmark hfront hinside hinside'
    apply verdict_congr
    · rw [isLoopHeader_literal hmark hfront hinside, isLoopHeader_literal hmark hfront hinside']
    · rw [words_literal hmark hfront hinside, words_literal hmark hfront hinside']
  · intro line front behind comment hline hfront hbehind
    obtain ⟨rest, hrest, hstrip⟩ := stripComment_surrounded hline hfront hbehind comment
    apply verdict_congr
    · simp only [isLoopHeader, hstrip, trim_append_of_isBlank hfront hrest]
    · rw [words, hstrip, words_surrounded (scan_stripComment hline) hfront hrest, words]

/-- Code in front of a literal, with a literal that has a number sign and an escaped
mark in it. -/
def escapedFront : List Char := "async  for x in f(\"#\\\"\", ".toList

/-- Code behind a literal, with another literal and a comment. -/
def commentedBehind : List Char := ", 'await'): break # yield".toList

/-- A loop header that is quoted makes no difference, and neither does a `return` in a
second comment, or white space that is not of ASCII. -/
theorem verdict_ignores_keywords :
    (IsMark '\'' ∧ scan escapedFront = some .code ∧
      IsQuotable '\'' "\" # return\nwhile x:".toList ∧ IsQuotable '\'' [] ∧
      verdict (withLiteral '\'' escapedFront "\" # return\nwhile x:".toList commentedBehind) =
        verdict (withLiteral '\'' escapedFront [] commentedBehind)) ∧
    EndsOutside ("while x: # '".toList) ∧ isBlank ['\t', '\u3000'] = true ∧ isBlank [' '] = true ∧
      verdict (['\t', '\u3000'] ++ "while x: # '".toList ++ [' '] ++ '#' :: " return".toList) =
        verdict ("while x: # '".toList) := by
  have hmark : IsMark '\'' := .inl rfl
  have hfront : scan escapedFront = some .code := by decide
  have hquoted : IsQuotable '\'' "\" # return\nwhile x:".toList := ⟨by decide, by decide⟩
  have hempty : IsQuotable '\'' [] := ⟨List.not_mem_nil, List.not_mem_nil⟩
  have hends : EndsOutside ("while x: # '".toList) := by
    have hscan : scan ("while x: # '".toList) = none := by decide
    intro w hw
    rw [hscan] at hw
    cases hw
  have hwide : isBlank ['\t', '\u3000'] = true := by decide
  have hblank : isBlank [' '] = true := by decide
  obtain ⟨hliteral, hcomment⟩ := verdict_ignores
  exact ⟨⟨hmark, hfront, hquoted, hempty, hliteral _ _ _ _ _ hmark hfront hquoted hempty⟩, hends,
    hwide, hblank, hcomment _ _ _ _ hends hwide hblank⟩

/-- The literal has to be closed: an open one can end as a loop header does. -/
example : verdict "for x in 'a:".toList ≠ verdict "for x in 'a".toList := by decide

end Stepwise.Source
