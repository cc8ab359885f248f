import Stepwise.Value.Picture
import Stepwise.Value.Repr

/-!
# How values are shown

A value is shown as a picture, if there is one for it, and else by its
representation. Functions and modules are not shown. What counts as a picture
is left to a renderer.
-/

namespace Stepwise.Value

/-- How values are shown. -/
structure Format where
  /-- The markup of values that are shown as a picture. -/
  image? : Value → Option (List Char)

namespace Format

/-- The format without pictures. -/
def plain : Format := ⟨fun _ => Option.none⟩

/-- The format with pictures of a certain size. -/
def withPictures (size : PictureSize) : Format := ⟨size.image?⟩

/-- The usual format. -/
def standard : Format := withPictures .standard

/-- Markup as a fenced block. -/
def fenced (markup : List Char) : List Char :=
  "```html\n".toList ++ markup ++ "\n```".toList

/-- The text of a value, if it is shown at all. -/
def show? (f : Format) (v : Value) : Option (List Char) :=
  if v.isFunction || v.isModule then Option.none
  else match f.image? v with
    | some markup => some (fenced markup)
    | Option.none => some v.repr

end Format

end Stepwise.Value
