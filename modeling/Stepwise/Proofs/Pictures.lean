import Stepwise.Proofs.Drawings

/-!
# Which values are pictures

Whether a value is a picture is found out on the way to its colours: cell by cell, row by
row, and the first thing that does not fit ends it. What comes out is a grid, which has at
least one row, at least one column and no gaps. Here this is compared with two descriptions
that do not go that way: when a value is a picture at all, and of which grid it is one.

Values with one grid have one image element. They need not be the same value, because a
colour may be a list or a tuple. Other than that the image element tells the grid.

## Main results

* `isSome_picture?_iff`: a value is a picture if it is a gapless list of lists of colours.
* `picture?_eq_some_iff`: its colours are those of its cells.
* `checkedImage?_eq_some_iff`: checked arithmetic makes no difference as long as it goes on.
* `image?_faithful`: values are shown alike if and only if their grids are the same.
-/

namespace Stepwise.Value

/-! ## Values in the form of a grid -/

/-- An integer that fits into a byte. -/
def IsPart (v : Value) : Prop := ∃ n : Int64, v = .int n ∧ 0 ≤ n.toInt ∧ n.toInt ≤ 255

/-- A list or tuple of three integers that fit into bytes. -/
def IsCell (v : Value) : Prop :=
  ∃ parts, (v = .list parts ∨ v = .tuple parts) ∧ parts.length = 3 ∧ ∀ part ∈ parts, IsPart part

/-- A list of cells. -/
def IsLine (width : Nat) (v : Value) : Prop :=
  ∃ cells, v = .list cells ∧ cells.length = width ∧ ∀ cell ∈ cells, IsCell cell

/-- A list of lists of cells. There are some, none is empty, and all have one length. -/
def IsImage (v : Value) : Prop :=
  ∃ lines width, v = .list lines ∧ lines ≠ [] ∧ 0 < width ∧ ∀ line ∈ lines, IsLine width line

/-- Colours in rows and columns, at least one and without gaps. -/
structure Grid extends Picture where
  rows_ne_nil : rows ≠ []
  width_pos : 0 < width
  length_row : ∀ row ∈ rows, row.length = width

/-- A cell with the parts of a colour. -/
def HoldsColour (cell : Value) (c : Colour) : Prop :=
  ∃ r g b : Int64,
    (cell = .list [.int r, .int g, .int b] ∨ cell = .tuple [.int r, .int g, .int b]) ∧
      r.toInt = c.red.toNat ∧ g.toInt = c.green.toNat ∧ b.toInt = c.blue.toNat

/-- A list of cells with the colours of a row. -/
def HoldsRow (line : Value) (row : List Colour) : Prop :=
  ∃ cells, line = .list cells ∧ List.Forall₂ HoldsColour cells row

/-- Whether a grid is the one that a value holds. -/
def Grid.IsOf (grid : Grid) (v : Value) : Prop :=
  ∃ lines, v = .list lines ∧ List.Forall₂ HoldsRow lines grid.rows

/-! ## Colours -/

theorem byte?_eq_some_iff {n : Int64} {part : UInt8} :
    byte? n = some part ↔ n.toInt = part.toNat := by
  have hpart := part.toNat_lt
  rw [byte?]
  split
  · rw [Option.some.injEq, ← UInt8.toNat_inj, UInt8.toNat_ofNat']
    omega
  · simp only [reduceCtorEq, false_iff]
    omega

theorem isPart_int_iff {n : Int64} : IsPart (int n) ↔ ∃ part : UInt8, n.toInt = part.toNat := by
  constructor
  · rintro ⟨m, heq, hlow, hhigh⟩
    obtain rfl : n = m := by simpa using heq
    refine ⟨UInt8.ofNat n.toInt.toNat, ?_⟩
    rw [UInt8.toNat_ofNat']
    omega
  · rintro ⟨part, hpart⟩
    have hlt := part.toNat_lt
    exact ⟨n, rfl, by omega, by omega⟩

/-- Three integers as a colour. -/
def ofParts? (r g b : Int64) : Option Colour := do return ⟨← byte? r, ← byte? g, ← byte? b⟩

theorem ofParts?_eq_some_iff {r g b : Int64} {c : Colour} :
    ofParts? r g b = some c ↔
      r.toInt = c.red.toNat ∧ g.toInt = c.green.toNat ∧ b.toInt = c.blue.toNat := by
  simp only [← byte?_eq_some_iff]
  cases c
  simp [ofParts?, Option.bind_eq_some_iff]

theorem colour?_eq_some_iff {cell : Value} {c : Colour} :
    colour? cell = some c ↔ HoldsColour cell c := by
  have hparts : ∀ r g b, cell = list [int r, int g, int b] ∨ cell = tuple [int r, int g, int b] →
      colour? cell = ofParts? r g b := by
    rintro r g b (rfl | rfl) <;> rfl
  constructor
  · intro h
    fun_cases colour? cell with
    | case1 r g b => exact ⟨r, g, b, .inl rfl, ofParts?_eq_some_iff.mp h⟩
    | case2 r g b => exact ⟨r, g, b, .inr rfl, ofParts?_eq_some_iff.mp h⟩
    | case3 cell hlist htuple =>
        rw [colour?.eq_3 cell hlist htuple] at h
        cases h
  · rintro ⟨r, g, b, hcell, hcolour⟩
    rw [hparts r g b hcell, ofParts?_eq_some_iff]
    exact hcolour

/-- A cell holds some colour. -/
theorem exists_holdsColour_iff {cell : Value} : (∃ c, HoldsColour cell c) ↔ IsCell cell := by
  constructor
  · rintro ⟨c, r, g, b, hcell, hr, hg, hb⟩
    refine ⟨_, hcell, rfl, ?_⟩
    simp only [List.forall_mem_cons, isPart_int_iff]
    exact ⟨⟨_, hr⟩, ⟨_, hg⟩, ⟨_, hb⟩, by simp⟩
  · rintro ⟨parts, hcell, hlength, hparts⟩
    obtain ⟨p, q, s, rfl⟩ := List.length_eq_three.mp hlength
    obtain ⟨hp, hq, hs⟩ : IsPart p ∧ IsPart q ∧ IsPart s := by simpa using hparts
    obtain ⟨r, rfl, -⟩ := id hp
    obtain ⟨g, rfl, -⟩ := id hq
    obtain ⟨b, rfl, -⟩ := id hs
    obtain ⟨red, hred⟩ := isPart_int_iff.mp hp
    obtain ⟨green, hgreen⟩ := isPart_int_iff.mp hq
    obtain ⟨blue, hblue⟩ := isPart_int_iff.mp hs
    exact ⟨⟨red, green, blue⟩, r, g, b, hcell, hred, hgreen, hblue⟩

/-! ## Lists of what is found -/

section Lists

variable {α β : Type} {items : List α} {found : List β}

theorem mapM_eq_some_iff {f : α → Option β} :
    items.mapM f = some found ↔ List.Forall₂ (fun a b => f a = some b) items found := by
  induction items generalizing found with
  | nil => simp
  | cons a items ih =>
      simp only [List.mapM_cons, Option.bind_eq_bind, Option.bind_eq_some_iff, ih,
        List.forall₂_cons_left_iff, Option.pure_def, Option.some.injEq]
      constructor
      · rintro ⟨b, hb, rest, hrest, rfl⟩
        exact ⟨b, rest, hb, hrest, rfl⟩
      · rintro ⟨b, rest, hb, hrest, rfl⟩
        exact ⟨b, hb, rest, hrest, rfl⟩

theorem exists_forall₂_iff {R : α → β → Prop} :
    (∃ found, List.Forall₂ R items found) ↔ ∀ a ∈ items, ∃ b, R a b := by
  induction items with
  | nil => simp
  | cons a items ih =>
      rw [List.forall_mem_cons, ← ih]
      constructor
      · rintro ⟨_, hfound⟩
        cases hfound with
        | cons hb hrest => exact ⟨⟨_, hb⟩, _, hrest⟩
      · rintro ⟨⟨b, hb⟩, rest, hrest⟩
        exact ⟨b :: rest, .cons hb hrest⟩

theorem forall₂_and_right {R : α → β → Prop} {P : β → Prop} :
    List.Forall₂ (fun a b => R a b ∧ P b) items found ↔
      List.Forall₂ R items found ∧ ∀ b ∈ found, P b := by
  induction items generalizing found with
  | nil => cases found <;> simp
  | cons a items ih =>
      cases found with
      | nil => simp
      | cons b found => simp only [List.forall₂_cons, ih, List.forall_mem_cons]; tauto

end Lists

/-! ## Rows and grids -/

theorem row?_eq_some_iff {width : Nat} {line : Value} {row : List Colour} :
    row? width line = some row ↔ HoldsRow line row ∧ row.length = width := by
  have hcells : ∀ cells, row? width (list cells) = some row ↔
      cells.length = width ∧ List.Forall₂ HoldsColour cells row := by
    intro cells
    rw [row?]
    simp only [Option.ite_none_right_eq_some, mapM_eq_some_iff, colour?_eq_some_iff]
  constructor
  · intro h
    fun_cases row? width line with
    | case1 cells _ | case2 cells _ =>
        obtain ⟨hlength, hrow⟩ := (hcells cells).mp h
        exact ⟨⟨cells, rfl, hrow⟩, hrow.length_eq.symm.trans hlength⟩
    | case3 line hlist =>
        rw [row?.eq_2 width line hlist] at h
        cases h
  · rintro ⟨⟨cells, rfl, hrow⟩, hlength⟩
    exact (hcells cells).mpr ⟨hrow.length_eq.trans hlength, hrow⟩

theorem exists_holdsRow_iff {width : Nat} {line : Value} :
    (∃ row, HoldsRow line row ∧ row.length = width) ↔ IsLine width line := by
  constructor
  · rintro ⟨row, ⟨cells, rfl, hrow⟩, hlength⟩
    refine ⟨cells, rfl, hrow.length_eq.trans hlength, fun cell hcell => ?_⟩
    exact exists_holdsColour_iff.mp (exists_forall₂_iff.mp ⟨row, hrow⟩ cell hcell)
  · rintro ⟨cells, rfl, hlength, hcells⟩
    obtain ⟨row, hrow⟩ := exists_forall₂_iff.mpr fun cell hcell =>
      exists_holdsColour_iff.mpr (hcells cell hcell)
    exact ⟨row, ⟨cells, rfl, hrow⟩, hrow.length_eq.symm.trans hlength⟩

/-- The rows of lines of one width. -/
theorem mapM_row?_eq_some_iff {width : Nat} {lines : List Value} {rows : List (List Colour)} :
    lines.mapM (row? width) = some rows ↔
      List.Forall₂ HoldsRow lines rows ∧ ∀ row ∈ rows, row.length = width := by
  simp only [mapM_eq_some_iff, row?_eq_some_iff, forall₂_and_right]

/-- The colours of a picture are those of the cells of the value. -/
theorem picture?_eq_some_iff {v : Value} {p : Picture} :
    v.picture? = some p ↔ ∃ grid : Grid, grid.toPicture = p ∧ grid.IsOf v := by
  constructor
  · intro h
    fun_cases picture? v with
    | case1 cells lines hempty => simp [picture?, hempty] at h
    | case2 cells lines hwidth =>
        rw [picture?, if_neg hwidth] at h
        obtain ⟨rows, hrows, rfl⟩ := Option.map_eq_some_iff.mp h
        obtain ⟨hheld, hlength⟩ := mapM_row?_eq_some_iff.mp hrows
        have hrows : rows ≠ [] := by
          rintro rfl
          cases hheld
        exact ⟨⟨⟨cells.length, rows⟩, hrows, Nat.pos_of_ne_zero hwidth, hlength⟩, rfl, _, rfl, hheld⟩
    | case3 v hlist =>
        rw [picture?.eq_2 v hlist] at h
        cases h
  · rintro ⟨⟨⟨width, rows⟩, hrows, hwidth, hlength⟩, rfl, lines, rfl, hheld⟩
    cases hheld with
    | nil => exact absurd rfl hrows
    | @cons line row lines rows hline hlines =>
        obtain ⟨cells, rfl, hcells⟩ := id hline
        have hcount : cells.length = width :=
          hcells.length_eq.trans (hlength row List.mem_cons_self)
        have hrows := mapM_row?_eq_some_iff.mpr ⟨List.Forall₂.cons hline hlines, hlength⟩
        rw [picture?, hcount, if_neg (Nat.ne_of_gt hwidth), hrows, Option.map_some]

theorem Grid.toPicture_injective : Function.Injective Grid.toPicture := by
  rintro ⟨p, _, _, _⟩ ⟨q, _, _, _⟩ rfl
  rfl

theorem isOf_iff {grid : Grid} {v : Value} : grid.IsOf v ↔ v.picture? = some grid.toPicture := by
  rw [picture?_eq_some_iff]
  constructor
  · exact fun h => ⟨grid, rfl, h⟩
  · rintro ⟨grid', heq, h⟩
    rwa [← Grid.toPicture_injective heq]

/-- A value holds at most one grid. -/
theorem Grid.IsOf.unique {grid grid' : Grid} {v : Value} (h : grid.IsOf v) (h' : grid'.IsOf v) :
    grid = grid' :=
  toPicture_injective (Option.some.inj ((isOf_iff.mp h).symm.trans (isOf_iff.mp h')))

/-- A value that is not empty, has no gaps and consists of colours holds a grid. -/
theorem exists_isOf_iff {v : Value} : (∃ grid : Grid, grid.IsOf v) ↔ IsImage v := by
  constructor
  · rintro ⟨⟨⟨width, rows⟩, hrows, hwidth, hlength⟩, lines, rfl, hheld⟩
    refine ⟨lines, width, rfl, ?_, hwidth, fun line hline => ?_⟩
    · rintro rfl
      exact hrows (List.forall₂_nil_left_iff.mp hheld)
    · have hrow := forall₂_and_right.mpr ⟨hheld, hlength⟩
      exact exists_holdsRow_iff.mp (exists_forall₂_iff.mp ⟨rows, hrow⟩ line hline)
  · rintro ⟨lines, width, rfl, hlines, hwidth, hall⟩
    obtain ⟨rows, hrow⟩ := exists_forall₂_iff.mpr fun line hline =>
      exists_holdsRow_iff.mpr (hall line hline)
    obtain ⟨hheld, hlength⟩ := forall₂_and_right.mp hrow
    have hrows : rows ≠ [] := by
      rintro rfl
      exact hlines (List.forall₂_nil_right_iff.mp hheld)
    exact ⟨⟨⟨width, rows⟩, hrows, hwidth, hlength⟩, lines, rfl, hheld⟩

theorem isSome_picture?_iff {v : Value} : v.picture?.isSome ↔ IsImage v := by
  rw [← exists_isOf_iff, Option.isSome_iff_exists]
  simp only [picture?_eq_some_iff]
  constructor
  · rintro ⟨_, grid, -, hgrid⟩
    exact ⟨grid, hgrid⟩
  · rintro ⟨grid, hgrid⟩
    exact ⟨_, grid, rfl, hgrid⟩

/-! ## Image elements -/

variable {size : PictureSize} {v : Value}

theorem image?_of_isOf (size : PictureSize) {grid : Grid} (h : grid.IsOf v) :
    size.image? v = some (size.imageElement grid.toPicture) := by
  rw [PictureSize.image?, isOf_iff.mp h, Option.map_some]

/-- The image element of a grid tells the grid. -/
theorem imageElement_inj {grid grid' : Grid}
    (h : size.imageElement grid.toPicture = size.imageElement grid'.toPicture) : grid = grid' := by
  have hdrawing := PictureSize.element_injective h
  rw [Picture.drawing_eq, Picture.drawing_eq] at hdrawing
  obtain ⟨-, -, hback⟩ := Picture.sizeFront_append_inj hdrawing
  exact Grid.toPicture_injective (Picture.sizeBack_inj grid.length_row grid'.length_row hback)

/-- Checked arithmetic either stops, for a picture whose height takes too great a product,
or makes no difference. -/
theorem checkedImage?_eq_some_iff (size : PictureSize) (v : Value)
    (image : Option (List Char)) :
    size.checkedImage? v = some image ↔
      image = size.image? v ∧ ∀ grid : Grid, grid.IsOf v → size.Fits grid.toPicture := by
  unfold PictureSize.checkedImage? PictureSize.image?
  cases hpicture : v.picture? with
  | none =>
      have hnone : ∀ grid : Grid, ¬ grid.IsOf v := by
        intro grid hgrid
        rw [isOf_iff.mp hgrid] at hpicture
        cases hpicture
      constructor
      · intro h
        exact ⟨(Option.some.inj h).symm, fun grid hgrid => absurd hgrid (hnone grid)⟩
      · rintro ⟨rfl, -⟩
        rfl
  | some p =>
      obtain ⟨grid, rfl, hgrid⟩ := picture?_eq_some_iff.mp hpicture
      have hfits : (∀ grid : Grid, grid.IsOf v → size.Fits grid.toPicture) ↔
          size.Fits grid.toPicture :=
        ⟨fun h => h grid hgrid, fun h grid' hgrid' => hgrid.unique hgrid' ▸ h⟩
      rw [hfits]
      by_cases h : size.Fits grid.toPicture
      · simp [h, eq_comm]
      · simp [h]

/-- With the highest bit of a word for a width, there is room for one row. -/
example : PictureSize.checkedImage? ⟨9223372036854775808, 9223372036854775808⟩
    (list (List.replicate 2 (list [list [int 0, int 0, int 0]]))) = Option.none := by
  decide +kernel

/-- A value is shown as a picture if and only if it is a list of lists of cells, some, none
of them empty and of one length. It holds a grid of colours then, and two such values are
shown alike if and only if they hold the same grid. This is so for words that keep the rest
of a product. Where arithmetic is checked, there is the same result or none, and none if and
only if the number of rows times the displayed width does not fit into a word. -/
theorem image?_faithful (size : PictureSize) (v : Value) :
    ((size.image? v).isSome ↔ IsImage v) ∧ (IsImage v ↔ ∃ grid : Grid, grid.IsOf v) ∧
      (∀ (w : Value) (grid grid' : Grid), grid.IsOf v → grid'.IsOf w →
        (size.image? v = size.image? w ↔ grid = grid')) ∧
      ∀ image, size.checkedImage? v = some image ↔ image = size.image? v ∧
        ∀ grid : Grid, grid.IsOf v →
          grid.height * size.displayWidth grid.toPicture < 2 ^ 64 := by
  refine ⟨?_, exists_isOf_iff.symm, fun w grid grid' hv hw => ?_,
    checkedImage?_eq_some_iff size v⟩
  · rw [PictureSize.image?, Option.isSome_map, isSome_picture?_iff]
  · rw [image?_of_isOf size hv, image?_of_isOf size hw, Option.some.injEq]
    constructor
    · exact imageElement_inj
    · rintro rfl
      rfl

/-- Two colours next to each other. -/
def strip : Grid :=
  ⟨⟨2, [[⟨255, 0, 0⟩, ⟨0, 16, 255⟩]]⟩, by decide, by decide, by decide⟩

/-- The same two colours, one below the other. -/
def column : Grid :=
  ⟨⟨1, [[⟨255, 0, 0⟩], [⟨0, 16, 255⟩]]⟩, by decide, by decide, by decide⟩

/-- It makes no difference whether a colour is a list or a tuple, but it does how the same
colours are arranged. -/
theorem image?_faithful_strip :
    let red := [int 255, int 0, int 0]
    let blue := [int 0, int 16, int 255]
    strip.IsOf (list [list [list red, tuple blue]]) ∧
      strip.IsOf (list [list [tuple red, list blue]]) ∧
      column.IsOf (list [list [list red], list [list blue]]) ∧
      PictureSize.standard.image? (list [list [list red, tuple blue]]) =
        PictureSize.standard.image? (list [list [tuple red, list blue]]) ∧
      PictureSize.standard.image? (list [list [list red, tuple blue]]) ≠
        PictureSize.standard.image? (list [list [list red], list [list blue]]) := by
  intro red blue
  have hstrip : strip.IsOf (list [list [list red, tuple blue]]) := isOf_iff.mpr rfl
  have hsame : strip.IsOf (list [list [tuple red, list blue]]) := isOf_iff.mpr rfl
  have hcolumn : column.IsOf (list [list [list red], list [list blue]]) := isOf_iff.mpr rfl
  have hfaithful :=
    (image?_faithful PictureSize.standard (list [list [list red, tuple blue]])).2.2.1
  refine ⟨hstrip, hsame, hcolumn, (hfaithful _ _ _ hstrip hsame).mpr rfl, fun halike => ?_⟩
  have hgrid := (hfaithful _ _ _ hstrip hcolumn).mp halike
  exact absurd (congrArg (fun grid => grid.width) hgrid) (by decide)

end Stepwise.Value
