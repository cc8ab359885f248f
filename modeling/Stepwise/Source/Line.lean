import Stepwise.Text.Blank
import Stepwise.Text.Word

/-!
# What a line of a program says

Judgements about a single line, made from its text alone, so that they work on
a program that does not parse. Quotation marks and comments are respected: one
scan, `Within.next`, decides for every character whether it stands in a string
literal, and everything that looks for code looks outside.

The scan knows nothing of literals that span lines. A line is judged as if it
stood alone.

## Main results

* `stripComment_length_le`: removing a comment adds nothing.
* `leadingBlank_length`: the indentation is the length of the leading blanks.
-/

namespace Stepwise.Source

open Stepwise.Text

/-- Whether a scan of a line is in code or in a string literal. In a literal
the flag says that the last character was an escaping backslash. -/
inductive Within where
  | code
  | literal (mark : Char) (escaped : Bool)
  deriving DecidableEq

/-- The scan behind one more character. -/
def Within.next : Within → Char → Within
  | code, c => if c = '\'' ∨ c = '"' then literal c false else code
  | literal mark true, _ => literal mark false
  | literal mark false, c =>
      if c = '\\' then literal mark true
      else if c = mark then code
      else literal mark false

/-- A line up to its comment, for a scan that is under way. -/
def stripCommentFrom : Within → List Char → List Char
  | _, [] => []
  | w, c :: rest =>
      if w = .code ∧ c = '#' then [] else c :: stripCommentFrom (w.next c) rest

/-- A line up to its comment. -/
def stripComment (line : List Char) : List Char := stripCommentFrom .code line

theorem stripCommentFrom_length_le (w : Within) (line : List Char) :
    (stripCommentFrom w line).length ≤ line.length := by
  induction line generalizing w with
  | nil => simp [stripCommentFrom]
  | cons c rest ih =>
      simp only [stripCommentFrom]
      split
      · simp
      · simpa using ih (w.next c)

theorem stripComment_length_le (line : List Char) :
    (stripComment line).length ≤ line.length :=
  stripCommentFrom_length_le .code line

/-- The number of white space characters in front of a line. -/
def indentation (line : List Char) : Nat := (leadingBlank line).length

/-! ## Words -/

/-- The words of a line outside its string literals, for a scan that is under
way and has read the letters of `word`, last first. -/
def wordsFrom : Within → List Char → List Char → List (List Char)
  | _, word, [] => if word.isEmpty then [] else [word.reverse]
  | .code, word, c :: rest =>
      if isWordChar c then wordsFrom .code (c :: word) rest
      else if word.isEmpty then wordsFrom (Within.code.next c) [] rest
      else word.reverse :: wordsFrom (Within.code.next c) [] rest
  | w, word, c :: rest => wordsFrom (w.next c) word rest

/-- The words of a line outside its string literals and its comment. -/
def words (line : List Char) : List (List Char) :=
  wordsFrom .code [] (stripComment line)

/-- Whether a keyword is among the words of a line. -/
def hasKeyword (keyword : String) (line : List Char) : Bool :=
  (words line).contains keyword.toList

/-- Whether a line contains a `break`. -/
def isBreak (line : List Char) : Bool := hasKeyword "break" line

/-- Whether a line contains a `return`. -/
def isReturn (line : List Char) : Bool := hasKeyword "return" line

/-- Whether a line can suspend the call that runs it. A return from such a
line does not end the call. -/
def isSuspension (line : List Char) : Bool :=
  hasKeyword "yield" line || hasKeyword "await" line

/-! ## Loop headers -/

/-- What follows a text in front of another, if it stands there. -/
def stripFront? : List Char → List Char → Option (List Char)
  | [], t => some t
  | _ :: _, [] => none
  | c :: front, d :: t => if c = d then stripFront? front t else none

/-- Whether a text starts with a keyword, as a whole word. -/
def startsWithKeyword (keyword : String) (t : List Char) : Bool :=
  match stripFront? keyword.toList t with
  | some [] => true
  | some (c :: _) => !isWordChar c
  | none => false

/-- A statement without the word that makes it asynchronous. -/
def dropAsync (t : List Char) : List Char :=
  match stripFront? "async".toList t with
  | some (c :: rest) => if isBlankChar c then trimStart (c :: rest) else t
  | _ => t

/-- Whether a line introduces a `for` or `while` loop: it starts with the
keyword and ends with a colon. -/
def isLoopHeader (line : List Char) : Bool :=
  let statement := dropAsync (trim (stripComment line))
  (startsWithKeyword "for" statement || startsWithKeyword "while" statement) &&
    statement.getLast? == some ':'

end Stepwise.Source
