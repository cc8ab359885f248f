import Stepwise.Numeric.Binary64

/-!
# JSON trees

A tree keeps everything that can matter to who reads it: the order of the
members of an object, and members whose names are repeated.

Reading a text always gives a tree, and what is wrong with the text is in the
tree, at the place where a reader who goes through the text from front to back
meets it. There are two kinds of damage. From a `broken` item on the text is no
JSON, and nobody can go on there. An `unreadable` item is JSON but stands for
nothing: a number beyond all doubles, a text with half a surrogate pair, a
nesting that is too deep. It harms only who wants to know what it is. In the
same way the name of a member may be unreadable.

## Main results

* `isWhole_of_isSound`: a tree without any damage has no broken item.
-/

namespace Stepwise

open Stepwise.Numeric

/-- A number: integers of 64 bits are exact, with or without sign. -/
inductive Json.Number where
  | int (n : Int)
  | float (x : Binary64)
  deriving DecidableEq

inductive Json where
  | null
  | bool (b : Bool)
  | number (n : Json.Number)
  | text (s : String)
  | array (items : List Json)
  | object (members : List (Option String × Json))
  | unreadable
  | broken
  deriving Inhabited

namespace Json

/-- An object with readable names. -/
def record (members : List (String × Json)) : Json :=
  object (members.map fun member => (some member.1, member.2))

/-- A natural number. -/
def nat (n : Nat) : Json := number (.int n)

mutual

/-- Whether a text that gives this tree is JSON. -/
def isWhole : Json → Bool
  | array items => allWhole items
  | object members => membersWhole members
  | broken => false
  | _ => true

/-- `isWhole` on items. -/
def allWhole : List Json → Bool
  | [] => true
  | j :: items => isWhole j && allWhole items

/-- `isWhole` on members. -/
def membersWhole : List (Option String × Json) → Bool
  | [] => true
  | (_, j) :: members => isWhole j && membersWhole members

end

mutual

/-- Whether a tree can be read without regard to what it is used for. -/
def isSound : Json → Bool
  | array items => allSound items
  | object members => membersSound members
  | unreadable | broken => false
  | _ => true

/-- `isSound` on items. -/
def allSound : List Json → Bool
  | [] => true
  | j :: items => isSound j && allSound items

/-- `isSound` on members, whose names have to be readable too. -/
def membersSound : List (Option String × Json) → Bool
  | [] => true
  | (name, j) :: members => name.isSome && isSound j && membersSound members

end

mutual

theorem isWhole_of_isSound : (j : Json) → j.isSound = true → j.isWhole = true
  | null, _ | bool _, _ | number _, _ | text _, _ => rfl
  | array items, h => allWhole_of_allSound items h
  | object members, h => membersWhole_of_membersSound members h
  | unreadable, _ => rfl
  | broken, h => by simp [isSound] at h

theorem allWhole_of_allSound : (items : List Json) → allSound items = true →
    allWhole items = true
  | [], _ => rfl
  | j :: items, h => by
      simp only [allSound, Bool.and_eq_true] at h
      simp [allWhole, isWhole_of_isSound j h.1, allWhole_of_allSound items h.2]

theorem membersWhole_of_membersSound : (members : List (Option String × Json)) →
    membersSound members = true → membersWhole members = true
  | [], _ => rfl
  | (name, j) :: members, h => by
      simp only [membersSound, Bool.and_eq_true] at h
      simp [membersWhole, isWhole_of_isSound j h.1.2,
        membersWhole_of_membersSound members h.2]

end

end Json

end Stepwise
