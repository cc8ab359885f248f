import Stepwise.Json.Write
import Stepwise.Text.Quoted

/-!
# Why a tree is not what was asked for

A tree may be damaged, or it may be sound and of the wrong shape. The causes of
the second kind each have a wording.
-/

namespace Stepwise.Json

open Stepwise.Text

/-- What stands where something else was expected. -/
inductive Found where
  | item (j : Json)
  /-- The name of a variant without the contents that belong to it. -/
  | bareVariant

/-- How a tree differs from the shape that was asked for. -/
inductive Mismatch where
  | missingField (name : String)
  | duplicateField (name : String)
  | unknownVariant (name : String) (variants : List String)
  /-- An item of another kind than expected. -/
  | invalidType (found : Found) (expected : String)
  /-- An item of the right kind that is out of bounds. -/
  | invalidValue (found : Found) (expected : String)
  | invalidLength (found : Nat) (expected : String)

/-- Why a tree cannot be read. -/
inductive ReadError where
  /-- The text is damaged where it had to be read. -/
  | malformed
  | mismatch (m : Mismatch)

/-- A text between backticks. -/
def ticked (t : List Char) : List Char := '\x60' :: t ++ ['\x60']

/-- What stands somewhere, in words. -/
def Found.describe : Found → List Char
  | item (.bool b) => "boolean ".toList ++ ticked (Json.bool b).write
  | item (.number (.int n)) => "integer ".toList ++ ticked (Number.int n).write
  | item (.number (.float x)) => "floating point ".toList ++ ticked (Number.float x).write
  | item (.text s) => "string ".toList ++ quoted s.toList
  | item (.array _) => "sequence".toList
  | item (.object _) => "map".toList
  | item _ => "null".toList
  | bareVariant => "unit variant".toList

/-- Names to choose from, in words. -/
def alternatives : List String → List Char
  | [] => "there are no variants".toList
  | [a] => ticked a.toList
  | [a, b] => ticked a.toList ++ " or ".toList ++ ticked b.toList
  | names =>
      "one of ".toList ++ List.intercalate [',', ' '] (names.map fun name => ticked name.toList)

/-- A mismatch in words. -/
def Mismatch.message : Mismatch → List Char
  | missingField name => "missing field ".toList ++ ticked name.toList
  | duplicateField name => "duplicate field ".toList ++ ticked name.toList
  | unknownVariant name variants =>
      "unknown variant ".toList ++ ticked name.toList ++ ", expected ".toList ++
        alternatives variants
  | invalidType found expected =>
      "invalid type: ".toList ++ found.describe ++ ", expected ".toList ++ expected.toList
  | invalidValue found expected =>
      "invalid value: ".toList ++ found.describe ++ ", expected ".toList ++ expected.toList
  | invalidLength found expected =>
      "invalid length ".toList ++ decimal found ++ ", expected ".toList ++ expected.toList

/-- What comes of reading. -/
abbrev Result := Except ReadError

/-- Refuses a tree. -/
def fail {α : Type} (m : Mismatch) : Result α := .error (.mismatch m)

/-- Refuses an item of the wrong kind. -/
def refuse {α : Type} (j : Json) (expected : String) : Result α :=
  match j with
  | unreadable | broken => .error .malformed
  | j => fail (.invalidType (.item j) expected)

/-! ## Simple items -/

/-- A truth value. -/
def asBool : Json → Result Bool
  | bool b => .ok b
  | j => refuse j "a boolean"

/-- A text. -/
def asText : Json → Result String
  | text s => .ok s
  | j => refuse j "a string"

/-- A number of 64 bits without sign, called `expected`. -/
def asUnsigned (expected : String) : Json → Result UInt64
  | number (.int n) =>
      if 0 ≤ n ∧ n < Int.pow 2 64 then .ok (UInt64.ofNat n.toNat)
      else fail (.invalidValue (.item (number (.int n))) expected)
  | j => refuse j expected

/-- A number of 64 bits with sign. -/
def asInteger : Json → Result Int64
  | number (.int n) =>
      if -Int.pow 2 63 ≤ n ∧ n < Int.pow 2 63 then .ok (Int64.ofInt n)
      else fail (.invalidValue (.item (number (.int n))) "i64")
  | j => refuse j "i64"

/-- A double; integers are rounded. -/
def asDouble : Json → Result Numeric.Binary64
  | number (.int n) => .ok (.ofInt n)
  | number (.float x) => .ok x
  | j => refuse j "f64"

end Stepwise.Json
