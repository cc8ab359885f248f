import Stepwise.Text.Base64
import Stepwise.Text.Bytes
import Stepwise.Text.Digits
import Stepwise.Value.Basic

/-!
# Pictures

A list of equally long rows of colours is shown as a picture. A colour is a
list or tuple of three integers, its red, green and blue parts, that fit into
a byte. The picture is drawn as vector graphics with one square a colour, and
the drawing is put into an image element as data.

The drawing is as wide as the picture has columns, but not narrower or wider
than asked for, and its height follows from its width. Sizes are words of 64
bits. The height takes a product that may not fit into one. Then the rest of the
product is taken, or, where arithmetic is checked, there is no result at all.
-/

namespace Stepwise.Value

open Stepwise.Text

structure Colour where
  red : UInt8
  green : UInt8
  blue : UInt8
  deriving DecidableEq

/-- An integer as a part of a colour. -/
def byte? (n : Int64) : Option UInt8 :=
  if 0 ≤ n.toInt ∧ n.toInt < 256 then some (UInt8.ofNat n.toInt.toNat) else Option.none

/-- A value as a colour. -/
def colour? : Value → Option Colour
  | list [int r, int g, int b] => do return ⟨← byte? r, ← byte? g, ← byte? b⟩
  | tuple [int r, int g, int b] => do return ⟨← byte? r, ← byte? g, ← byte? b⟩
  | _ => Option.none

/-- A value as a row of `width` colours. -/
def row? (width : Nat) : Value → Option (List Colour)
  | list cells => if cells.length = width then cells.mapM colour? else Option.none
  | _ => Option.none

/-- Rows of colours. -/
structure Picture where
  width : Nat
  rows : List (List Colour)

/-- A value as a picture. -/
def picture? : Value → Option Picture
  | list (list cells :: rows) =>
      if cells.length = 0 then Option.none
      else ((list cells :: rows).mapM (row? cells.length)).map (Picture.mk cells.length)
  | _ => Option.none

namespace Picture

variable (p : Picture)

/-- The number of rows. -/
def height : Nat := p.rows.length

/-- A part of a colour in markup. -/
def hexPair (n : UInt8) : List Char := padded 2 n.toNat

/-- An attribute of an element. -/
def attribute_ (name : String) (value : List Char) : List Char :=
  ' ' :: name.toList ++ '=' :: '\'' :: value ++ ['\'']

/-- The square of one colour. -/
def square (x y : Nat) (c : Colour) : List Char :=
  "<rect".toList ++ attribute_ "x" (decimal x) ++ attribute_ "y" (decimal y) ++
    attribute_ "width" ['1'] ++ attribute_ "height" ['1'] ++
    attribute_ "fill" ('#' :: hexPair c.red ++ hexPair c.green ++ hexPair c.blue) ++
    "/>".toList

/-- The squares of a row, from a column on. -/
def rowSquares (y : Nat) : (x : Nat) → List Colour → List Char
  | _, [] => []
  | x, c :: row => square x y c ++ rowSquares y (x + 1) row

/-- The squares of all rows, from a row on. -/
def squaresFrom : (y : Nat) → List (List Colour) → List Char
  | _, [] => []
  | y, row :: rows => rowSquares y 0 row ++ squaresFrom (y + 1) rows

end Picture

/-- How wide pictures are drawn. -/
structure PictureSize where
  minWidth : UInt64
  maxWidth : UInt64
  deriving DecidableEq

namespace PictureSize

/-- The usual size. -/
def standard : PictureSize := ⟨60, 150⟩

variable (size : PictureSize) (p : Picture)

/-- The width of a drawing. -/
def displayWidth : Nat :=
  min (max p.width size.minWidth.toNat) (max size.maxWidth.toNat size.minWidth.toNat)

/-- Whether a word can hold the product for the height of a drawing. -/
def Fits : Prop := p.height * size.displayWidth p < UInt64.size

instance : Decidable (size.Fits p) := inferInstanceAs (Decidable (_ < _))

/-- The height of a drawing. -/
def displayHeight : Nat := p.height * size.displayWidth p % UInt64.size / p.width

/-- A picture as vector graphics. -/
def drawing : List Char :=
  "<svg".toList ++ Picture.attribute_ "xmlns" "http://www.w3.org/2000/svg".toList ++
    Picture.attribute_ "width" (decimal (size.displayWidth p)) ++
    Picture.attribute_ "height" (decimal (size.displayHeight p)) ++
    Picture.attribute_ "viewBox"
      ("0 0 ".toList ++ decimal p.width ++ ' ' :: decimal p.height) ++
    Picture.attribute_ "shape-rendering" "crispEdges".toList ++
    '>' :: Picture.squaresFrom 0 p.rows ++ "</svg>".toList

/-- A picture as an image element. -/
def imageElement : List Char :=
  "<img src='data:image/svg+xml;base64,".toList ++
    base64 (bytes (size.drawing p)) ++ "'>".toList

/-- A value as an image element, if it is a picture. -/
def image? (v : Value) : Option (List Char) := v.picture?.map size.imageElement

/-- A value as an image element where arithmetic is checked: there is no result
if it comes to a product that does not fit. -/
def checkedImage? (v : Value) : Option (Option (List Char)) :=
  match v.picture? with
  | some p => if size.Fits p then some (some (size.imageElement p)) else Option.none
  | Option.none => some Option.none

end PictureSize

end Stepwise.Value
