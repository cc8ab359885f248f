import Stepwise.Json.Fields
import Stepwise.Json.Read
import Stepwise.Value.Basic

/-!
# Values in JSON

A value is a variant: the name of its kind with its contents, or only the name
if it has none. A dictionary is a list of pairs, and an object a record.
-/

namespace Stepwise.Value

open Stepwise.Json

mutual

/-- A value in JSON. -/
def toJson : Value → Json
  | none => .text "none"
  | bool b => .record [("bool", .bool b)]
  | int n => .record [("int", .number (.int n.toInt))]
  | float x => .record [("float", .number (.float x))]
  | str s => .record [("str", .text s)]
  | list items => .record [("list", .array (toJsons items))]
  | tuple items => .record [("tuple", .array (toJsons items))]
  | dict pairs => .record [("dict", .array (pairsToJson pairs))]
  | set items => .record [("set", .array (toJsons items))]
  | function name => .record [("function", .text name)]
  | module name => .record [("module", .text name)]
  | object typeName repr =>
      .record [("object", .record [("type_name", .text typeName), ("repr", .text repr)])]

/-- Values in JSON. -/
def toJsons : List Value → List Json
  | [] => []
  | v :: items => toJson v :: toJsons items

/-- Pairs in JSON. -/
def pairsToJson : List (Value × Value) → List Json
  | [] => []
  | (k, v) :: pairs => .array [toJson k, toJson v] :: pairsToJson pairs

end

/-! ## Reading -/

/-- The names of the kinds of values. -/
def kinds : List String :=
  ["none", "bool", "int", "float", "str", "list", "tuple", "dict", "set", "function",
    "module", "object"]

/-- What the record of an object is called in messages. -/
def objectShape : Shape := ⟨"struct variant Value::Object", ["type_name", "repr"]⟩

/-- The fields of the record of an object. -/
structure ObjectFields where
  typeName : Option String
  repr : Option String

/-- Reads one field of the record of an object. -/
def ObjectFields.field (found : ObjectFields) (name : String) (j : Json) : Result ObjectFields :=
  if name = "type_name" then
    (once name found.typeName (asText j)).map fun typeName => { found with typeName }
  else if name = "repr" then
    (once name found.repr (asText j)).map fun repr => { found with repr }
  else pass found j

/-- Reads the record of an object. -/
def readObject (j : Json) : Result Value := do
  let contents ← match j with
    | .array _ | .object _ => objectShape.read leftOver ⟨.none, .none⟩ ObjectFields.field j
    | j => refuse j "struct variant"
  let typeName ← objectShape.require contents.byPosition "type_name" contents.found.typeName
  let repr ← objectShape.require contents.byPosition "repr" contents.found.repr
  return .object typeName repr

/-- Whether contents may stand with the name of a kind that has none. -/
abbrev Blankness := Json → Bool

/-- Contents of a value that stands alone: only `null`. -/
def onlyNull : Blankness
  | .null => true
  | _ => false

/-- Contents of a value inside an event: also an object without members. -/
def nullOrEmpty : Blankness
  | .null | .object [] => true
  | _ => false

/-- What pairs are called in messages. -/
def pairTitle : String := "a tuple of size 2"

mutual

/-- Reads a value. -/
def ofJson (blank : Blankness) : Json → Result Value
  | .text name => do
      let name ← knownVariant kinds name
      if name = "none" then return .none
      else if name = "object" then fail (.invalidType .bareVariant "struct variant")
      else fail (.invalidType .bareVariant "newtype variant")
  | .object [(some name, contents)] => do
      match ← knownVariant kinds name with
      | "bool" => (asBool contents).map .bool
      | "int" => (asInteger contents).map .int
      | "float" => (asDouble contents).map .float
      | "str" => (asText contents).map .str
      | "list" => (itemsOfJson blank contents).map .list
      | "tuple" => (itemsOfJson blank contents).map .tuple
      | "dict" => (pairsOfJson blank contents).map .dict
      | "set" => (itemsOfJson blank contents).map .set
      | "function" => (asText contents).map .function
      | "module" => (asText contents).map .module
      | "object" => readObject contents
      | _ => if blank contents then return .none else refuse contents "unit"
  | .object [(.none, _)] => .error .malformed
  | .object members => fail (.invalidValue (.item (.object members)) "map with a single key")
  | j => refuse j "string or map"

/-- Reads values. -/
def itemsOfJson (blank : Blankness) : Json → Result (List Value)
  | .array items => itemsOf blank items
  | j => refuse j "a sequence"

/-- Reads each of several values. -/
def itemsOf (blank : Blankness) : List Json → Result (List Value)
  | [] => .ok []
  | j :: items => do
      let v ← ofJson blank j
      return v :: (← itemsOf blank items)

/-- Reads pairs of values. -/
def pairsOfJson (blank : Blankness) : Json → Result (List (Value × Value))
  | .array items => pairsOf blank items
  | j => refuse j "a sequence"

/-- Reads each of several pairs. -/
def pairsOf (blank : Blankness) : List Json → Result (List (Value × Value))
  | [] => .ok []
  | .array (k :: v :: rest) :: items => do
      let key ← ofJson blank k
      let value ← ofJson blank v
      if rest.isEmpty then return (key, value) :: (← pairsOf blank items)
      else .error (leftOver (rest.length + 2) 2)
  | .array [k] :: _ => do
      let _ ← ofJson blank k
      fail (.invalidLength 1 pairTitle)
  | .array [] :: _ => fail (.invalidLength 0 pairTitle)
  | j :: _ => refuse j pairTitle

end

/-- Reads a value that stands alone, if the text is one. -/
def ofText? (t : List Char) : Option Value :=
  let document := Json.read t
  if document.ended then (ofJson onlyNull document.root).toOption else Option.none

end Stepwise.Value
