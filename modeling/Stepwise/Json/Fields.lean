import Stepwise.Json.Mismatch

/-!
# Records and variants in JSON

A record is an object, or an array of its fields in a fixed order. Its fields
are read in the order in which they stand in the text, so the first error in
the text is the one that is reported. Members with other names are passed
over, and a field must not come twice.

A variant is known by its name. How its contents stand is up to its reader.
-/

namespace Stepwise.Json

/-- What a record is called, and its fields in their order. -/
structure Shape where
  title : String
  fields : List String

/-- How often something occurs, in words. -/
def counted (n : Nat) : String := if n = 1 then "1 element" else n.repr ++ " elements"

/-- The fields of a record that have been read. -/
structure Fields (σ : Type) where
  found : σ
  /-- Whether they stood in an array. -/
  byPosition : Bool

variable {σ α : Type}

/-- Reads a field that must not have come before. -/
def once (name : String) (before : Option α) (value : Result α) : Result (Option α) :=
  if before.isSome then fail (.duplicateField name) else value.map some

/-- Passes over an item. -/
def pass (found : σ) (j : Json) : Result σ :=
  if j.isWhole then .ok found else .error .malformed

/-- Reads the members of an object. -/
def readMembers (field : σ → String → Json → Result σ) :
    σ → List (Option String × Json) → Result σ
  | found, [] => .ok found
  | _, (none, _) :: _ => .error .malformed
  | found, (some name, j) :: members => do readMembers field (← field found name j) members

/-- Reads items as fields; what is left over is not wanted. -/
def readPositions (field : σ → String → Json → Result σ) (excess : ReadError) :
    σ → List String → List Json → Result σ
  | found, _, [] => .ok found
  | _, [], _ :: _ => .error excess
  | found, name :: names, j :: items => do
      readPositions field excess (← field found name j) names items

/-- The error of an array with items left over. -/
def leftOver (items fields : Nat) : ReadError :=
  .mismatch (.invalidLength items (counted fields ++ " in sequence"))

/-- Reads the fields of a record. -/
def Shape.read (shape : Shape) (excess : Nat → Nat → ReadError) (none_ : σ)
    (field : σ → String → Json → Result σ) : Json → Result (Fields σ)
  | object members => (readMembers field none_ members).map (Fields.mk · false)
  | array items =>
      (readPositions field (excess items.length shape.fields.length) none_ shape.fields items).map
        (Fields.mk · true)
  | j => refuse j shape.title

/-- A field that has to be there. -/
def Shape.require (shape : Shape) (byPosition : Bool) (name : String) : Option α → Result α
  | some a => .ok a
  | none =>
      if byPosition then
        fail (.invalidLength (shape.fields.idxOf name)
          (shape.title ++ " with " ++ counted shape.fields.length))
      else fail (.missingField name)

/-! ## Variants -/

/-- The name of a variant, if it is one of those there are. -/
def knownVariant (variants : List String) (name : String) : Result String :=
  if name ∈ variants then .ok name else fail (.unknownVariant name variants)

end Stepwise.Json
