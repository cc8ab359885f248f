import Stepwise.Numeric.Binary64

/-!
# Values

What a variable of a running program can hold, as far as it is shown. Values
without a structure of their own come with the text that shows them.
-/

namespace Stepwise

open Stepwise.Numeric

inductive Value where
  | none
  | bool (b : Bool)
  | int (n : Int64)
  | float (x : Binary64)
  | str (s : String)
  | list (items : List Value)
  | tuple (items : List Value)
  /-- The pairs of a dictionary, in the order in which they came in. -/
  | dict (pairs : List (Value × Value))
  | set (items : List Value)
  /-- A function of the program, by name. -/
  | function (name : String)
  /-- An imported module, by name. -/
  | module (name : String)
  /-- Any other object, by the name of its type and the text that shows it. -/
  | object (typeName repr : String)
  deriving Inhabited

namespace Value

/-- Whether a value is a function. -/
def isFunction : Value → Bool
  | function _ => true
  | _ => false

/-- Whether a value is a module. -/
def isModule : Value → Bool
  | module _ => true
  | _ => false

mutual

/-- Whether two values are equal, with doubles equal as numbers. -/
def same : Value → Value → Bool
  | none, none => true
  | bool b, bool c => b == c
  | int n, int m => n == m
  | float x, float y => x.same y
  | str s, str t => s == t
  | list items, list items' => sameItems items items'
  | tuple items, tuple items' => sameItems items items'
  | dict pairs, dict pairs' => samePairs pairs pairs'
  | set items, set items' => sameItems items items'
  | function name, function name' => name == name'
  | module name, module name' => name == name'
  | object typeName repr, object typeName' repr' => typeName == typeName' && repr == repr'
  | _, _ => false

/-- `same` on lists. -/
def sameItems : List Value → List Value → Bool
  | [], [] => true
  | v :: items, v' :: items' => same v v' && sameItems items items'
  | _, _ => false

/-- `same` on lists of pairs. -/
def samePairs : List (Value × Value) → List (Value × Value) → Bool
  | [], [] => true
  | (k, v) :: pairs, (k', v') :: pairs' => same k k' && same v v' && samePairs pairs pairs'
  | _, _ => false

end

end Value

end Stepwise
