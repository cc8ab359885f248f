import Stepwise.Proofs.Pictures

/-!
# The size in which a picture is displayed

The width of a drawing is that of the picture, but not less than a least width and not more
than a greatest one; if these are the wrong way round, the least one counts. So with a least
width a drawing always has a width, and it is a word as the two bounds are.

The height keeps the proportions, and is rounded down. This can come to nothing: a picture
that is wider than its number of rows times its displayed width is displayed with height
zero, and there is nothing to see. It takes a picture that is wider than the greatest width,
so none that is displayed in its own size or larger is lost.

All this is about products that fit into a word. A product that does not leaves a height
that has little to do with the picture.

## Main results

* `displayWidth_mem`, `displayHeight_pos_iff`: the bounds of the width, and when there is a
  height.
* `toNat_displayHeight`: the height is that of words.
* `displayed_iff`: which pictures are visible, told from their image elements.
-/

namespace Stepwise.Value

variable {size : PictureSize} {v : Value} {markup : List Char} {grid : Grid}

/-- Whether an image element holds a drawing for a width and a height. -/
def Displays (markup : List Char) (width height : Nat) : Prop :=
  ∃ rest, markup = PictureSize.element (Picture.sizeFront width height ++ rest)

/-- An image element is for one size. -/
theorem displays_iff {p : Picture} {width height : Nat} :
    Displays (size.imageElement p) width height ↔
      width = size.displayWidth p ∧ height = size.displayHeight p := by
  constructor
  · rintro ⟨rest, hmarkup⟩
    have hdrawing := PictureSize.element_injective hmarkup
    rw [Picture.drawing_eq] at hdrawing
    obtain ⟨hwidth, hheight, -⟩ := Picture.sizeFront_append_inj hdrawing
    exact ⟨hwidth.symm, hheight.symm⟩
  · rintro ⟨rfl, rfl⟩
    exact ⟨Picture.sizeBack p, congrArg PictureSize.element (Picture.drawing_eq size p)⟩

/-! ## Width -/

theorem displayWidth_mem (size : PictureSize) (p : Picture) :
    size.minWidth.toNat ≤ size.displayWidth p ∧
      size.displayWidth p ≤ max size.minWidth.toNat size.maxWidth.toNat := by
  rw [PictureSize.displayWidth]
  omega

/-- Up to the greatest width, no picture is displayed narrower than it is. -/
theorem width_le_displayWidth {p : Picture}
    (h : p.width ≤ max size.minWidth.toNat size.maxWidth.toNat) :
    p.width ≤ size.displayWidth p := by
  rw [PictureSize.displayWidth]
  omega

/-! ## Height -/

theorem Grid.height_pos (grid : Grid) : 0 < grid.height :=
  List.length_pos_iff.mpr grid.rows_ne_nil

theorem displayHeight_of_fits {p : Picture} (h : size.Fits p) :
    size.displayHeight p = p.height * size.displayWidth p / p.width := by
  rw [PictureSize.displayHeight, Nat.mod_eq_of_lt h]

theorem displayHeight_pos_iff (size : PictureSize) (grid : Grid) :
    0 < size.displayHeight grid.toPicture ↔
      grid.width ≤ grid.height * size.displayWidth grid.toPicture % 2 ^ 64 := by
  rw [PictureSize.displayHeight, Nat.div_pos_iff, and_iff_right grid.width_pos]
  rfl

theorem displayHeight_pos_iff_of_fits (h : size.Fits grid.toPicture) :
    0 < size.displayHeight grid.toPicture ↔
      grid.width ≤ grid.height * size.displayWidth grid.toPicture := by
  rw [displayHeight_of_fits h, Nat.div_pos_iff, and_iff_right grid.width_pos]

theorem displayHeight_pos_of_le (hfits : size.Fits grid.toPicture)
    (h : grid.width ≤ max size.minWidth.toNat size.maxWidth.toNat) :
    0 < size.displayHeight grid.toPicture := by
  rw [displayHeight_pos_iff_of_fits hfits]
  calc grid.width
      ≤ size.displayWidth grid.toPicture := width_le_displayWidth h
    _ ≤ grid.height * size.displayWidth grid.toPicture :=
        Nat.le_mul_of_pos_left _ grid.height_pos

/-- The height is worked out in words of 64 bits. -/
theorem toNat_displayHeight {p : Picture} {height width display : UInt64}
    (hheight : height.toNat = p.height) (hwidth : width.toNat = p.width)
    (hdisplay : display.toNat = size.displayWidth p) :
    (height * display / width).toNat = size.displayHeight p := by
  rw [UInt64.toNat_div, UInt64.toNat_mul, hheight, hdisplay, hwidth]
  rfl

/-! ## Visible pictures -/

/-- A picture is displayed in one size. With a least width it has a width within the bounds,
and its height is a quotient of words. As long as the product for the height fits into a
word, it has a height if and only if it is not wider than its rows times that width, in
particular if it is not wider than the greatest width. -/
theorem displayed_iff (hmin : 1 ≤ size.minWidth) (himage : size.image? v = some markup) :
    ∃ (grid : Grid) (width height : Nat), grid.IsOf v ∧
      (∀ w h, Displays markup w h ↔ w = width ∧ h = height) ∧
      0 < width ∧ size.minWidth.toNat ≤ width ∧
      width ≤ max size.minWidth.toNat size.maxWidth.toNat ∧
      (∀ a b c : UInt64, a.toNat = grid.height → b.toNat = width → c.toNat = grid.width →
        (a * b / c).toNat = height) ∧
      (0 < height ↔ grid.width ≤ grid.height * width % 2 ^ 64) ∧
      (grid.height * width < 2 ^ 64 →
        height = grid.height * width / grid.width ∧
        (0 < height ↔ grid.width ≤ grid.height * width) ∧
        (grid.width ≤ max size.minWidth.toNat size.maxWidth.toNat → 0 < height)) := by
  obtain ⟨p, hp, rfl⟩ := Option.map_eq_some_iff.mp himage
  obtain ⟨grid, rfl, hgrid⟩ := picture?_eq_some_iff.mp hp
  obtain ⟨hlow, hhigh⟩ := displayWidth_mem size grid.toPicture
  have hleast : 1 ≤ size.minWidth.toNat := UInt64.le_iff_toNat_le.mp hmin
  refine ⟨grid, size.displayWidth grid.toPicture, size.displayHeight grid.toPicture, hgrid,
    fun w h => displays_iff, Nat.lt_of_lt_of_le hleast hlow, hlow, hhigh, ?_,
    displayHeight_pos_iff size grid, fun hfits => ?_⟩
  · intro a b c ha hb hc
    exact toNat_displayHeight ha hc hb
  · exact ⟨displayHeight_of_fits hfits, displayHeight_pos_iff_of_fits hfits,
      displayHeight_pos_of_le hfits⟩

/-- One row of black. -/
def blackRow (width : Nat) : Value :=
  list [list (List.replicate width (list [int 0, int 0, int 0]))]

/-- The grid of a row of black. -/
def blackGrid (width : Nat) (h : 0 < width) : Grid :=
  ⟨⟨width, [List.replicate width ⟨0, 0, 0⟩]⟩, by simp, h, by simp⟩

theorem isOf_blackRow {width : Nat} (h : 0 < width) :
    (blackGrid width h).IsOf (blackRow width) := by
  have hcell : HoldsColour (list [int 0, int 0, int 0]) ⟨0, 0, 0⟩ :=
    ⟨0, 0, 0, .inl rfl, rfl, rfl, rfl⟩
  have hrow : ∀ n, List.Forall₂ HoldsColour (List.replicate n (list [int 0, int 0, int 0]))
      (List.replicate n ⟨0, 0, 0⟩) := by
    intro n
    induction n with
    | zero => exact .nil
    | succ n ih => exact .cons hcell ih
  exact ⟨_, rfl, .cons ⟨_, rfl, hrow width⟩ .nil⟩

/-- A row that is wider than the greatest width by one is lost. -/
theorem displayed_iff_blackRow :
    1 ≤ PictureSize.standard.minWidth ∧ ∃ markup,
      PictureSize.standard.image? (blackRow 151) = some markup ∧
        ∃ width, Displays markup width 0 ∧ 60 ≤ width ∧ width ≤ 150 := by
  have hmin : 1 ≤ PictureSize.standard.minWidth := by decide
  have hrow : (blackGrid 151 (by decide)).IsOf (blackRow 151) := isOf_blackRow _
  have himage := image?_of_isOf PictureSize.standard hrow
  obtain ⟨grid, width, height, hgrid, hshown, -, hlow, hhigh, -, -, hvisible⟩ :=
    displayed_iff hmin himage
  have hlow' : 60 ≤ width := hlow
  have hhigh' : width ≤ 150 := hhigh
  have hwide : grid.width = 151 ∧ grid.height = 1 := by
    rw [hgrid.unique hrow]
    exact ⟨rfl, rfl⟩
  obtain rfl : height = 0 := by
    rw [hwide.1, hwide.2] at hvisible
    omega
  exact ⟨hmin, _, himage, width, (hshown width 0).mpr ⟨rfl, rfl⟩, hlow', hhigh'⟩

/-- A picture need not be visible, although there is a least width and nothing overflows. -/
theorem not_forall_displayed :
    ¬ ∀ (size : PictureSize) (v : Value) (markup : List Char) (width height : Nat),
      1 ≤ size.minWidth → size.image? v = some markup → Displays markup width height →
      (∀ grid : Grid, grid.IsOf v → grid.height * width < 2 ^ 64) →
      0 < width ∧ 0 < height ∧ size.minWidth.toNat ≤ width ∧
        width ≤ max size.minWidth.toNat size.maxWidth.toNat := by
  intro h
  have hrow : (blackGrid 151 (by decide)).IsOf (blackRow 151) := isOf_blackRow _
  have hshown : Displays (PictureSize.standard.imageElement (blackGrid 151 (by decide)).toPicture)
      150 0 := displays_iff.mpr ⟨by decide, by decide⟩
  have hfits : ∀ grid : Grid, grid.IsOf (blackRow 151) → grid.height * 150 < 2 ^ 64 := by
    intro grid hgrid
    rw [hgrid.unique hrow]
    decide
  obtain ⟨-, hheight, -⟩ :=
    h .standard _ _ 150 0 (by decide) (image?_of_isOf .standard hrow) hshown hfits
  exact absurd hheight (by decide)

end Stepwise.Value
