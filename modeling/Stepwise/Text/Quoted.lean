import Stepwise.Text.Digits
import Stepwise.Text.Printable

/-!
# Quoted texts

A text as it is quoted in a message: in double quotation marks, with an escape
for everything that cannot be seen or would run into what stands in front.
-/

namespace Stepwise.Text

/-- A character inside a quoted text. -/
def quoteChar (c : Char) : List Char :=
  if c = '\x00' then ['\\', '0']
  else if c = '\t' then ['\\', 't']
  else if c = '\r' then ['\\', 'r']
  else if c = '\n' then ['\\', 'n']
  else if c = '\\' then ['\\', '\\']
  else if c = '"' then ['\\', '"']
  else if isVisible c then [c]
  else '\\' :: 'u' :: '\x7b' :: padded 1 c.toNat ++ ['\x7d']

/-- A text in quotation marks. -/
def quoted (t : List Char) : List Char := '"' :: t.flatMap quoteChar ++ ['"']

end Stepwise.Text
