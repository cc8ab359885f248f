import Stepwise.Text.Basic

/-!
# Lines of byte offsets

The places of a syntax tree are byte offsets, and what is reported are lines.
An index holds the offsets at which lines start, and an offset belongs to the
last line that starts at or in front of it.
-/

namespace Stepwise.Writes

/-- The offsets at which the lines of a text start. -/
structure LineIndex where
  starts : List Nat

namespace LineIndex

/-- The offsets behind the line feeds of a text that starts at `offset`. -/
def startsBehind : Nat → List Char → List Nat
  | _, [] => []
  | offset, c :: rest =>
      if c = '\n' then (offset + 1) :: startsBehind (offset + 1) rest
      else startsBehind (offset + c.utf8Size) rest

/-- The index of a text. -/
def ofText (text : List Char) : LineIndex := ⟨0 :: startsBehind 0 text⟩

/-- The line to which an offset belongs, counted from zero. -/
def lineOf (index : LineIndex) (offset : Nat) : Nat :=
  (index.starts.takeWhile (· ≤ offset)).length - 1

end LineIndex

end Stepwise.Writes
