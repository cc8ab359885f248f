import Stepwise.Numeric.Layout
import Stepwise.Value.Basic

/-!
# Representation of values

The text that shows a value: a literal of the language for everything that has
one.

A string is set in single quotation marks, unless it contains some and no
double ones. Inside, the quotation mark, the backslash and control characters
are escaped, and every other character stands for itself.
-/

namespace Stepwise.Value

open Stepwise.Text Stepwise.Numeric

/-- Doubles are written without exponent from `1e-4` up to `1e16`, exponents
have two digits, and of two decimals that are equally near the larger is
taken. -/
def floats : Layout := ⟨-4, 16, 2, .up⟩

/-- The text of a double. -/
def floatRepr (x : Binary64) : List Char :=
  if x.isNaN then "nan".toList
  else if x.isFinite then floats.write x
  else if x.isNegative then "-inf".toList
  else "inf".toList

/-- Whether a character is a control character. -/
def isControl (c : Char) : Bool := c.val < 0x20 || (0x7f ≤ c.val && c.val < 0xa0)

theorem isControl_iff {c : Char} :
    isControl c = true ↔ c.toNat < 0x20 ∨ 0x7f ≤ c.toNat ∧ c.toNat < 0xa0 := by
  simp [isControl, UInt32.lt_iff_toNat_lt, UInt32.le_iff_toNat_le]

/-- A character inside quotation marks. -/
def escape (quote c : Char) : List Char :=
  if c = '\\' then ['\\', '\\']
  else if c = '\n' then ['\\', 'n']
  else if c = '\t' then ['\\', 't']
  else if c = '\r' then ['\\', 'r']
  else if c = '\'' ∧ quote = '\'' then ['\\', '\'']
  else if isControl c then '\\' :: 'x' :: padded 2 c.toNat
  else [c]

/-- The quotation mark around a string. -/
def quoteFor (s : List Char) : Char :=
  if '\'' ∈ s ∧ '"' ∉ s then '"' else '\''

/-- The text of a string. -/
def strRepr (s : List Char) : List Char :=
  let quote := quoteFor s
  quote :: s.flatMap (escape quote) ++ [quote]

/-- Texts with commas between them. -/
def commaSeparated (texts : List (List Char)) : List Char :=
  List.intercalate [',', ' '] texts

mutual

/-- The text that shows a value. -/
def repr : Value → List Char
  | none => "None".toList
  | bool true => "True".toList
  | bool false => "False".toList
  | int n => signed n.toInt
  | float x => floatRepr x
  | str s => strRepr s.toList
  | list items => '[' :: commaSeparated (reprs items) ++ [']']
  | tuple [item] => '(' :: repr item ++ [',', ')']
  | tuple items => '(' :: commaSeparated (reprs items) ++ [')']
  | dict pairs => '\x7b' :: commaSeparated (pairReprs pairs) ++ ['\x7d']
  | set [] => "set()".toList
  | set items => '\x7b' :: commaSeparated (reprs items) ++ ['\x7d']
  | function name => "<function ".toList ++ name.toList ++ ['>']
  | module name => "<module '".toList ++ name.toList ++ ['\'', '>']
  | object _ text => text.toList

/-- The texts of several values. -/
def reprs : List Value → List (List Char)
  | [] => []
  | v :: items => repr v :: reprs items

/-- The texts of the pairs of a dictionary. -/
def pairReprs : List (Value × Value) → List (List Char)
  | [] => []
  | (k, v) :: pairs => (repr k ++ ':' :: ' ' :: repr v) :: pairReprs pairs

end

end Stepwise.Value
