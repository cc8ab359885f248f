import Stepwise.Json.Basic
import Stepwise.Numeric.Layout

/-!
# Writing JSON

The compact text of a tree: no blanks, members in the order in which they
stand, repeated names and all. Inside a text only what has to be escaped is
escaped. A double that is no finite number is written as `null`, and so is an
item that cannot be read.
-/

namespace Stepwise.Json

open Stepwise.Text Stepwise.Numeric

/-- Doubles are written without exponent from `1e-5` up to `1e16`, and of two
decimals that are equally near the even one is taken. -/
def floats : Layout := ⟨-5, 16, 1, .toEven⟩

/-- A character inside a text. -/
def escape (c : Char) : List Char :=
  if c = '"' then ['\\', '"']
  else if c = '\\' then ['\\', '\\']
  else if c = '\x08' then ['\\', 'b']
  else if c = '\t' then ['\\', 't']
  else if c = '\n' then ['\\', 'n']
  else if c = '\x0c' then ['\\', 'f']
  else if c = '\r' then ['\\', 'r']
  else if c.toNat < 0x20 then '\\' :: 'u' :: padded 4 c.toNat
  else [c]

/-- A text in quotation marks. -/
def writeText (s : List Char) : List Char := '"' :: s.flatMap escape ++ ['"']

/-- A number; a double has to be finite. -/
def Number.write : Number → List Char
  | int n => signed n
  | float x => floats.write x

/-- Texts with commas between them. -/
def commaSeparated (texts : List (List Char)) : List Char := List.intercalate [','] texts

mutual

/-- The text of a tree. -/
def write : Json → List Char
  | null | unreadable | broken => "null".toList
  | bool true => "true".toList
  | bool false => "false".toList
  | number (.int n) => (Number.int n).write
  | number (.float x) => if x.isFinite then (Number.float x).write else "null".toList
  | text s => writeText s.toList
  | array items => '[' :: commaSeparated (writes items) ++ [']']
  | object members => '\x7b' :: commaSeparated (memberWrites members) ++ ['\x7d']

/-- The texts of several trees. -/
def writes : List Json → List (List Char)
  | [] => []
  | j :: items => write j :: writes items

/-- The texts of the members of an object. -/
def memberWrites : List (Option String × Json) → List (List Char)
  | [] => []
  | (name, j) :: members =>
      (writeText (name.getD "").toList ++ ':' :: write j) :: memberWrites members

end

end Stepwise.Json
