/-!
# Program text

A text is the list of its characters. All scanning in this library is
recursion on that list, so that a statement about a scanner is an induction
and not a calculation with byte positions. Where a place in a text has to be
named, it is the number of bytes in front of it, because that is what a line
index is asked about. `locate` attaches to every character its place, and the
type of a place says that it lies inside the text; whatever is built from
located characters inherits that bound without a proof.

## Main results

* `byteLength_append`: the length in bytes is additive.
* `map_char_locate`: locating adds places and changes no character.
-/

namespace Stepwise.Text

/-- The number of bytes of a text in UTF-8. -/
def byteLength : List Char → Nat
  | [] => 0
  | c :: rest => c.utf8Size + byteLength rest

theorem byteLength_append (s t : List Char) :
    byteLength (s ++ t) = byteLength s + byteLength t := by
  induction s with
  | nil => simp [byteLength]
  | cons c rest ih => simp [byteLength, ih, Nat.add_assoc]

/-- A character together with the place at which it stands. -/
structure Located (α : Type) where
  char : Char
  place : α

/-- The characters of a text that starts `offset` bytes into a text of
`size` bytes and reaches its end, each with its place. -/
def locateFrom {size : Nat} : (t : List Char) → (offset : Nat) →
    offset + byteLength t = size → List (Located (Fin size))
  | [], _, _ => []
  | c :: rest, offset, h =>
      have inside : offset < size := by
        have := c.utf8Size_pos
        simp only [byteLength] at h
        omega
      ⟨c, ⟨offset, inside⟩⟩ ::
        locateFrom rest (offset + c.utf8Size) (by simp only [byteLength] at h; omega)

/-- Every character of a text with the number of bytes in front of it. -/
def locate (t : List Char) : List (Located (Fin (byteLength t))) :=
  locateFrom t 0 (Nat.zero_add _)

theorem map_char_locateFrom {size : Nat} (t : List Char) (offset : Nat)
    (h : offset + byteLength t = size) :
    (locateFrom t offset h).map Located.char = t := by
  induction t generalizing offset with
  | nil => rfl
  | cons c rest ih => simp [locateFrom, ih]

theorem map_char_locate (t : List Char) : (locate t).map Located.char = t :=
  map_char_locateFrom t 0 _

end Stepwise.Text
