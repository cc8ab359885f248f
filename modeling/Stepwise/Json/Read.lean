import Stepwise.Json.Token

/-!
# Reading JSON

From tokens to a tree. Nesting is kept on a stack of the arrays and objects
that are still open, so that there is one pass over the tokens and no limit on
its depth. What is nested deeper than `maxDepth` is unreadable once it is
complete.

If the tokens do not go on as they have to, the item in which that happens is
broken, and everything that is open ends with it.
-/

namespace Stepwise.Json

/-- An array or object that is still open. Complete items come last first; an
object waits for the item that goes with a name. -/
inductive Pending where
  | array (items : List Json)
  | object (members : List (Option String × Json)) (name : Option String)

/-- An open array or object with its last item. -/
def Pending.close : Pending → Json → Json
  | array items, j => .array (j :: items).reverse
  | object members name, j => .object ((name, j) :: members).reverse

/-- The tree of a text that breaks off in an item inside open arrays and
objects, the innermost first. -/
def abandon (j : Json) (stack : List Pending) : Json :=
  stack.foldl (fun inner pending => pending.close inner) j

/-- How many arrays and objects may be nested in each other. -/
def maxDepth : Nat := 127

/-- A complete array or object inside open ones. -/
def settle (stack : List Pending) (j : Json) : Json :=
  if (stack.drop (maxDepth - 1)).isEmpty then j
  else if j.isWhole then unreadable
  else broken

/-- A tree, and whether the text ended with it. -/
structure Document where
  root : Json
  ended : Bool

/-- The document of a text that breaks off. -/
def Document.abandoned (j : Json) (stack : List Pending) : Document := ⟨abandon j stack, false⟩

mutual

/-- Reads on where an item has to follow. -/
def readItem : List Pending → List Token → Document
  | stack, .null :: rest => readOn stack .null rest
  | stack, .bool b :: rest => readOn stack (.bool b) rest
  | stack, .number (some n) :: rest => readOn stack (.number n) rest
  | stack, .text (some s) :: rest => readOn stack (.text s) rest
  | stack, .number none :: rest => readOn stack .unreadable rest
  | stack, .text none :: rest => readOn stack .unreadable rest
  | stack, .openArray :: .closeArray :: rest => readOn stack (settle stack (.array [])) rest
  | stack, .openArray :: rest => readItem (.array [] :: stack) rest
  | stack, .openObject :: .closeObject :: rest => readOn stack (settle stack (.object [])) rest
  | stack, .openObject :: .text name :: .colon :: rest =>
      readItem (.object [] name :: stack) rest
  | stack, .openObject :: .text name :: _ => .abandoned .broken (.object [] name :: stack)
  | stack, .openObject :: _ => .abandoned (.object [(none, .broken)]) stack
  | stack, _ => .abandoned .broken stack

/-- Reads on behind an item. -/
def readOn : List Pending → Json → List Token → Document
  | [], j, rest => ⟨j, rest.isEmpty⟩
  | .array items :: stack, j, .comma :: rest => readItem (.array (j :: items) :: stack) rest
  | .array items :: stack, j, .closeArray :: rest =>
      readOn stack (settle stack (.array (j :: items).reverse)) rest
  | .array items :: stack, j, _ => .abandoned .broken (.array (j :: items) :: stack)
  | .object members name :: stack, j, .comma :: .text name' :: .colon :: rest =>
      readItem (.object ((name, j) :: members) name' :: stack) rest
  | .object members name :: stack, j, .comma :: .text name' :: _ =>
      .abandoned .broken (.object ((name, j) :: members) name' :: stack)
  | .object members name :: stack, j, .closeObject :: rest =>
      readOn stack (settle stack (.object ((name, j) :: members).reverse)) rest
  | .object members name :: stack, j, _ =>
      .abandoned .broken (.object ((name, j) :: members) none :: stack)

end

/-- The document of a text. -/
def read (t : List Char) : Document := readItem [] (tokens t)

end Stepwise.Json
