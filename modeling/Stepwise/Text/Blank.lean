import Stepwise.Text.Runs

/-!
# Blank characters

The property White_Space of the Unicode standard, and the trimming of a text
by it. The property holds of line breaks too; a text that contains none of
its members' complement carries no code.
-/

namespace Stepwise.Text

/-- The code points with the property White_Space. -/
def blankRuns : List Run :=
  [(0x09, 0x0D), (0x20, 0x20), (0x85, 0x85), (0xA0, 0xA0), (0x1680, 0x1680),
   (0x2000, 0x200A), (0x2028, 0x2029), (0x202F, 0x202F), (0x205F, 0x205F),
   (0x3000, 0x3000)]

/-- Whether a character is white space. -/
def isBlankChar (c : Char) : Bool := inRuns blankRuns c

/-- Whether a text holds nothing but white space. -/
def isBlank (t : List Char) : Bool := t.all isBlankChar

/-- The white space in front of a text. -/
def leadingBlank (t : List Char) : List Char := t.takeWhile isBlankChar

/-- A text without the white space in front of it. -/
def trimStart (t : List Char) : List Char := t.dropWhile isBlankChar

/-- A text without the white space behind it. -/
def trimEnd (t : List Char) : List Char := (t.reverse.dropWhile isBlankChar).reverse

/-- A text without the white space around it. -/
def trim (t : List Char) : List Char := trimEnd (trimStart t)

theorem leadingBlank_append_trimStart (t : List Char) :
    leadingBlank t ++ trimStart t = t :=
  List.takeWhile_append_dropWhile

end Stepwise.Text
