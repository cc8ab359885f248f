/-!
# Indentation

The white space in front of a logical line is measured twice: in columns, a
tab advancing to the next multiple of the tab width, and in characters. Two
indentations are comparable if both measures agree, so that the order of
blocks does not hang on the width of a tab.
-/

namespace Stepwise.Grammar

/-- How far a line is indented, by both measures. -/
structure Indentation where
  column : Nat
  chars : Nat
  deriving DecidableEq

namespace Indentation

/-- No indentation. -/
def root : Indentation := ⟨0, 0⟩

/-- The distance of tab stops, in columns. -/
def tabWidth : Nat := 2

/-- One more space. -/
def addSpace (i : Indentation) : Indentation := ⟨i.column + 1, i.chars + 1⟩

/-- One more tab. -/
def addTab (i : Indentation) : Indentation :=
  ⟨(i.column / tabWidth + 1) * tabWidth, i.chars + 1⟩

/-- The order of two indentations, if both measures give the same. -/
def compare? (i j : Indentation) : Option Ordering :=
  let byColumn := compare i.column j.column
  if byColumn = compare i.chars j.chars then some byColumn else none

end Indentation

/-- The indentation of the innermost open block. -/
def innermost (open_ : List Indentation) : Indentation :=
  open_.headD Indentation.root

/-- Closes blocks down to a line's indentation. The result counts the closed
blocks and gives those still open, or none of the latter if the line lines up
with no open block. -/
def closeBlocks (line : Indentation) :
    List Indentation → Nat × Option (List Indentation)
  | [] => (0, none)
  | _ :: below =>
      match line.compare? (innermost below) with
      | some .eq => (1, some below)
      | some .lt =>
          match closeBlocks line below with
          | (closed, stack) => (closed + 1, stack)
      | _ => (0, none)

end Stepwise.Grammar
