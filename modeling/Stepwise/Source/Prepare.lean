import Stepwise.Source.Basic
import Stepwise.Text.Basic

/-!
# Preparing a program

Every line that the user sees is to be visited by a run. Comments are removed,
and lines without code get an assignment to a reserved variable. Where such a
line goes matters: it must not end the block in which it stands. A blank line
below a line that opens a block is indented into that block, and any other
takes the indentation of the code below it, unless its own white space is
longer. The first line is left alone.

The pass from above marks the lines below an opener, and the pass from below
fills the lines in.
-/

namespace Stepwise.Source

open Stepwise.Text

/-- The indentation that is added below a line that opens a block. -/
def blockIndent : List Char := "    ".toList

/-- Whether a line opens a block. -/
def opensBlock (line : List Char) : Bool := (trimEnd line).getLast? == some ':'

/-- Gives the blank lines below an opener the white space of its block.
`block` is the indentation of the opener, if that was the last line of code. -/
def indentBlanks : Option (List Char) → List (List Char) → List (List Char)
  | _, [] => []
  | block, line :: rest =>
      if isBlank line then
        (match block with
          | some indent => indent ++ blockIndent
          | none => line) :: indentBlanks block rest
      else if opensBlock line then
        line :: indentBlanks (some (leadingBlank line)) rest
      else line :: indentBlanks none rest

/-- The longer of two indentations, the second if they are equally long. -/
def longer (indent below : List Char) : List Char :=
  if byteLength below < byteLength indent then indent else below

/-- An assignment to the reserved variable. -/
def filler (indent : List Char) : List Char :=
  indent ++ (reservedName ++ " = 0").toList

/-- Fills blank lines, and gives the indentation of the first line of code. -/
def fillBlanks : List (List Char) → List (List Char) × List Char
  | [] => ([], [])
  | line :: rest =>
      let (filled, below) := fillBlanks rest
      if isBlank line then (filler (longer line below) :: filled, below)
      else (line :: filled, leadingBlank line)

/-- Fills the blank lines below the first line. -/
def fillBelowFirst : List (List Char) → List (List Char)
  | [] => []
  | first :: rest => first :: (fillBlanks rest).1

/-- The program with a certain text, prepared for a run. -/
def prepare (text : List Char) : Source :=
  ⟨fillBelowFirst (indentBlanks none ((splitLines text).map stripComment))⟩

end Stepwise.Source
