import Stepwise.Source.Line

/-!
# Program source

A program is the list of its lines, numbered from zero. Lines know nothing of
their line ends: both a line feed and a carriage return with a line feed end a
line, and the text that is handed on ends every line in a line feed.

Loops are found from indentation. The body of a loop is what follows its
header and is indented deeper, up to the first line of code that is not; blank
lines belong to no body and end none.

## Main results

* `length_blankLine`: emptying a line keeps the number of lines.
-/

namespace Stepwise

open Stepwise.Text

/-- The name of the variable that fills blank lines. It is never shown and
never counts as written. -/
def reservedName : String := "__run_py__"

/-- The lines of a program. -/
structure Source where
  lines : List (List Char)
  deriving DecidableEq

namespace Source

/-- The lines of a text. -/
def splitLines : List Char → List (List Char)
  | [] => []
  | c :: rest =>
      if c = '\n' then [] :: splitLines rest
      else if c = '\r' ∧ rest.head? = some '\n' then splitLines rest
      else
        match rest, splitLines rest with
        | _ :: _, line :: lines => (c :: line) :: lines
        | _, lines => [c] :: lines

/-- The program with a certain text, exactly as written. -/
def ofText (text : List Char) : Source := ⟨splitLines text⟩

variable (s : Source)

/-- A line, if the program has it. -/
def line? (n : Nat) : Option (List Char) := s.lines[n]?

/-- A line; there is nothing on lines that the program does not have. -/
def text (n : Nat) : List Char := (s.line? n).getD []

/-- The number of lines. -/
def length : Nat := s.lines.length

/-- The indentation of a line. -/
def indentOf (n : Nat) : Nat := indentation (s.text n)

/-- Whether a line introduces a loop. -/
def isHeader (n : Nat) : Bool := isLoopHeader (s.text n)

/-- The numbers of the lines that are deeper than `baseline`, from a line with
number `n` on, up to the first line of code that is not. -/
def bodyFrom (baseline : Nat) : Nat → List (List Char) → List Nat
  | _, [] => []
  | n, line :: rest =>
      if isBlank line then bodyFrom baseline (n + 1) rest
      else if indentation line ≤ baseline then []
      else n :: bodyFrom baseline (n + 1) rest

/-- The lines of the body of a loop, given the line of its header. -/
def loopBody (header : Nat) : List Nat :=
  bodyFrom (s.indentOf header) (header + 1) (s.lines.drop (header + 1))

/-- Whether a line can be emptied: there is something on it. -/
def canBlank (n : Nat) : Bool := !(s.text n).isEmpty

/-- The program with nothing on a line. -/
def blankLine (n : Nat) : Source := ⟨s.lines.set n []⟩

theorem length_blankLine (n : Nat) : (s.blankLine n).length = s.length := by
  simp [blankLine, length]

/-- The text of the program, as it is parsed and run. -/
def toText : List Char := List.intercalate ['\n'] s.lines ++ ['\n']

end Source

end Stepwise
