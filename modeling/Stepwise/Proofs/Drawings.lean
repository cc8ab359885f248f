import Stepwise.Proofs.ReadArtifact
import Stepwise.Proofs.ReadableRepr
import Stepwise.Value.Picture

/-!
# What a drawing tells

A picture leaves as an image element, and the drawing is in there as bytes in base 64.
Nothing is lost on the way: the characters tell the bytes, the bytes tell the text of the
drawing, and the text tells the sizes and the colours.

No value of an attribute has a quotation mark in it, so that every value ends where its
closing mark stands. This takes a drawing apart from the front. Where a row ends is not
written, and has to be known from the width of the picture.

## Main results

* `ofBase64_base64`, `bytes_injective`: what is encoded can be told from its code.
* `sizeFront_append_inj`: the front of a drawing tells the size that it is shown in.
* `squaresFrom_append_inj`: the squares tell the colours of rows whose lengths are known.
* `sizeBack_inj`: what is behind the front tells the picture.
-/

namespace Stepwise

namespace Text

/-! ## Bytes -/

theorem bytes_injective : Function.Injective bytes := by
  intro s t h
  have hencoded : s.utf8Encode = t.utf8Encode := congrArg List.toByteArray h
  have hdecoded := congrArg ByteArray.utf8Decode? hencoded
  rw [List.utf8Decode?_utf8Encode, List.utf8Decode?_utf8Encode] at hdecoded
  simpa using hdecoded

/-! ## Base 64 -/

/-- The six bits that a character stands for; a filler stands for zeros. -/
def sixBits (c : Char) : Nat := ((List.range 64).find? fun n => base64Char n == c).getD 0

/-- The bytes of a number of 24 bits. -/
def threeBytes (group : Nat) : List UInt8 :=
  [UInt8.ofNat (group / Nat.pow 2 16), UInt8.ofNat (group / Nat.pow 2 8), UInt8.ofNat group]

/-- The bytes of a text in base 64. A group has a byte less for each filler in it. -/
def ofBase64 : List Char → List UInt8
  | a :: b :: c :: d :: rest =>
      (threeBytes (((sixBits a * 64 + sixBits b) * 64 + sixBits c) * 64 + sixBits d)).take
        (3 - [c, d].count '=') ++ ofBase64 rest
  | _ => []

theorem sixBits_base64Char : ∀ n < 64, sixBits (base64Char n) = n := by
  decide +kernel

theorem base64Char_ne_filler : ∀ n < 64, base64Char n ≠ '=' := by
  decide +kernel

theorem sixBits_mod (n : Nat) : sixBits (base64Char (n % 64)) = n % 64 :=
  sixBits_base64Char _ (Nat.mod_lt _ (by decide))

theorem base64Char_mod_ne_filler (n : Nat) : base64Char (n % 64) ≠ '=' :=
  base64Char_ne_filler _ (Nat.mod_lt _ (by decide))

/-- Three bytes as a number. -/
def group (a b c : UInt8) : Nat := a.toNat * Nat.pow 2 16 + b.toNat * Nat.pow 2 8 + c.toNat

theorem group_eq (a b c : UInt8) : group a b c = a.toNat * 65536 + b.toNat * 256 + c.toNat := by
  have hpow : Nat.pow 2 16 = 65536 ∧ Nat.pow 2 8 = 256 := by decide
  rw [group, hpow.1, hpow.2]

theorem threeBytes_group (a b c : UInt8) : threeBytes (group a b c) = [a, b, c] := by
  have hpow : Nat.pow 2 16 = 65536 ∧ Nat.pow 2 8 = 256 := by decide
  have ha := a.toNat_lt
  have hb := b.toNat_lt
  have hc := c.toNat_lt
  simp only [threeBytes, group_eq, hpow, List.cons.injEq, ← UInt8.toNat_inj, UInt8.toNat_ofNat']
  refine ⟨?_, ?_, ?_, trivial⟩
  · omega
  · omega
  · omega

/-- The four characters of a group tell its number, also if the last ones are fillers. -/
theorem sixBits_group (a b c : UInt8) {d e : Char}
    (hd : sixBits d = group a b c / Nat.pow 2 6 % 64) (he : sixBits e = group a b c % 64) :
    ((sixBits (base64Char (group a b c / Nat.pow 2 18)) * 64 +
      sixBits (base64Char (group a b c / Nat.pow 2 12 % 64))) * 64 + sixBits d) * 64 + sixBits e =
        group a b c := by
  have hpow : Nat.pow 2 18 = 262144 ∧ Nat.pow 2 12 = 4096 ∧ Nat.pow 2 6 = 64 := by decide
  have ha := a.toNat_lt
  have hlt : group a b c / 262144 < 64 := by
    have hb := b.toNat_lt
    have hc := c.toNat_lt
    rw [group_eq]
    omega
  rw [hpow.1, sixBits_base64Char _ hlt, sixBits_mod, hd, he, hpow.2.1, hpow.2.2]
  omega

theorem base64_triple (a b c : UInt8) (rest : List UInt8) :
    base64 (a :: b :: c :: rest) = base64Char (group a b c / Nat.pow 2 18) ::
      base64Char (group a b c / Nat.pow 2 12 % 64) ::
        base64Char (group a b c / Nat.pow 2 6 % 64) :: base64Char (group a b c % 64) ::
          base64 rest := rfl

theorem base64_pair (a b : UInt8) :
    base64 [a, b] = [base64Char (group a b 0 / Nat.pow 2 18),
      base64Char (group a b 0 / Nat.pow 2 12 % 64), base64Char (group a b 0 / Nat.pow 2 6 % 64),
      '='] := by
  simp only [base64, group, UInt8.toNat_zero, Nat.add_zero]

theorem base64_single (a : UInt8) :
    base64 [a] = [base64Char (group a 0 0 / Nat.pow 2 18),
      base64Char (group a 0 0 / Nat.pow 2 12 % 64), '=', '='] := by
  simp only [base64, group, UInt8.toNat_zero, Nat.zero_mul, Nat.add_zero]

/-- Bytes in base 64 are read back. -/
theorem ofBase64_base64 (data : List UInt8) : ofBase64 (base64 data) = data := by
  induction data using base64.induct with
  | case1 a b c rest ih =>
      have hfull : [base64Char (group a b c / Nat.pow 2 6 % 64),
          base64Char (group a b c % 64)].count '=' = 0 := by
        simp [base64Char_mod_ne_filler]
      rw [base64_triple, ofBase64, sixBits_group a b c (sixBits_mod _) (sixBits_mod _),
        threeBytes_group, hfull, ih]
      rfl
  | case2 a b =>
      have hlast : sixBits '=' = group a b 0 % 64 := by
        have hzero : sixBits '=' = 0 := by decide
        rw [hzero, group_eq, UInt8.toNat_zero]
        omega
      have hone : [base64Char (group a b 0 / Nat.pow 2 6 % 64), '='].count '=' = 1 := by
        simp [base64Char_mod_ne_filler]
      rw [base64_pair, ofBase64, sixBits_group a b 0 (sixBits_mod _) hlast, threeBytes_group, hone]
      rfl
  | case3 a =>
      have hpow : Nat.pow 2 6 = 64 := by decide
      have hzero : sixBits '=' = 0 := by decide
      have hthird : sixBits '=' = group a 0 0 / Nat.pow 2 6 % 64 := by
        rw [hzero, hpow, group_eq, UInt8.toNat_zero]
        omega
      have hlast : sixBits '=' = group a 0 0 % 64 := by
        rw [hzero, group_eq, UInt8.toNat_zero]
        omega
      rw [base64_single, ofBase64, sixBits_group a 0 0 hthird hlast, threeBytes_group]
      rfl
  | case4 => rfl

theorem base64_injective : Function.Injective base64 :=
  Function.LeftInverse.injective ofBase64_base64

end Text

namespace Value

open Stepwise.Text

namespace Picture

/-! ## Attributes -/

/-- Texts that end at the first mark are told apart, whatever follows them. -/
theorem append_cons_inj {mark : Char} {s t rest rest' : List Char} (hs : mark ∉ s) (ht : mark ∉ t)
    (h : s ++ mark :: rest = t ++ mark :: rest') : s = t ∧ rest = rest' := by
  induction s generalizing t with
  | nil =>
      cases t with
      | nil => exact ⟨rfl, (List.cons.inj h).2⟩
      | cons c t =>
          obtain rfl : mark = c := (List.cons.inj h).1
          exact absurd List.mem_cons_self ht
  | cons c s ih =>
      cases t with
      | nil =>
          obtain rfl : c = mark := (List.cons.inj h).1
          exact absurd List.mem_cons_self hs
      | cons c' t =>
          obtain ⟨rfl, htail⟩ := List.cons.inj h
          obtain ⟨rfl, hrest⟩ := ih (fun hmem => hs (List.mem_cons_of_mem _ hmem))
            (fun hmem => ht (List.mem_cons_of_mem _ hmem)) htail
          exact ⟨rfl, hrest⟩

/-- What stands between quotation marks ends at the second one. -/
theorem attribute_append_inj {name : String} {value value' rest rest' : List Char}
    (hvalue : '\'' ∉ value) (hvalue' : '\'' ∉ value')
    (h : attribute_ name value ++ rest = attribute_ name value' ++ rest') :
    value = value' ∧ rest = rest' := by
  simp only [attribute_, List.cons_append, List.append_assoc, List.nil_append, List.cons.injEq,
    true_and, List.append_cancel_left_eq] at h
  exact append_cons_inj hvalue hvalue' h

theorem mark_not_mem_decimal (n : Nat) : '\'' ∉ decimal n := not_mem_decimal (by decide) n

/-- The text of a number as the value of an attribute tells the number. -/
theorem attribute_decimal_inj {name : String} {n m : Nat} {rest rest' : List Char}
    (h : attribute_ name (decimal n) ++ rest = attribute_ name (decimal m) ++ rest') :
    n = m ∧ rest = rest' := by
  obtain ⟨hvalue, hrest⟩ := attribute_append_inj (mark_not_mem_decimal n) (mark_not_mem_decimal m) h
  exact ⟨decimal_injective hvalue, hrest⟩

/-! ## Squares -/

theorem hexPair_eq (n : UInt8) :
    hexPair n = [Nat.digitChar (n.toNat / 16), Nat.digitChar (n.toNat % 16)] :=
  Literal.padded_two n.toNat_lt

theorem hexPair_injective : Function.Injective hexPair := by
  intro n m h
  have hn := n.toNat_lt
  have hm := m.toNat_lt
  rw [hexPair_eq, hexPair_eq, List.cons.injEq, List.cons.injEq] at h
  obtain ⟨hhigh, hlow, -⟩ := h
  have hhigh' : n.toNat / 16 = m.toNat / 16 := by
    have hdigit := congrArg Json.hexDigit? hhigh
    rw [Json.hexDigit?_digitChar (by omega), Json.hexDigit?_digitChar (by omega)] at hdigit
    exact Option.some.inj hdigit
  have hlow' : n.toNat % 16 = m.toNat % 16 := by
    have hdigit := congrArg Json.hexDigit? hlow
    rw [Json.hexDigit?_digitChar (by omega), Json.hexDigit?_digitChar (by omega)] at hdigit
    exact Option.some.inj hdigit
  rw [← UInt8.toNat_inj]
  omega

/-- A colour in markup. -/
def fill (c : Colour) : List Char := '#' :: hexPair c.red ++ hexPair c.green ++ hexPair c.blue

theorem fill_injective : Function.Injective fill := by
  rintro ⟨r, g, b⟩ ⟨r', g', b'⟩ h
  have hlength : ∀ n m : UInt8, (hexPair n).length = (hexPair m).length := by
    intro n m
    rw [hexPair_eq, hexPair_eq]
    rfl
  simp only [fill, List.cons_append, List.cons.injEq, true_and, List.append_assoc] at h
  obtain ⟨hred, h⟩ := List.append_inj h (hlength r r')
  obtain ⟨hgreen, hblue⟩ := List.append_inj h (hlength g g')
  rw [hexPair_injective hred, hexPair_injective hgreen, hexPair_injective hblue]

theorem mark_not_mem_fill (c : Colour) : '\'' ∉ fill c := by
  have hdigit : ∀ d < 16, '\'' ≠ Nat.digitChar d := by decide
  have hpair : ∀ n : UInt8, '\'' ∉ hexPair n := by
    intro n
    have hn := n.toNat_lt
    simp [hexPair_eq, hdigit (n.toNat / 16) (by omega), hdigit (n.toNat % 16) (by omega)]
  simp [fill, hpair]

/-- A square up to its colour. -/
def squareFront (x y : Nat) : List Char :=
  "<rect".toList ++ attribute_ "x" (decimal x) ++ attribute_ "y" (decimal y) ++
    attribute_ "width" ['1'] ++ attribute_ "height" ['1']

theorem square_eq (x y : Nat) (c : Colour) :
    square x y c = squareFront x y ++ (attribute_ "fill" (fill c) ++ "/>".toList) := by
  rw [← List.append_assoc]
  unfold square squareFront fill
  rfl

/-- A square tells its colour. -/
theorem square_append_inj {x y : Nat} {c c' : Colour} {rest rest' : List Char}
    (h : square x y c ++ rest = square x y c' ++ rest') : c = c' ∧ rest = rest' := by
  rw [square_eq, square_eq] at h
  have hback := List.append_cancel_left (by simpa only [List.append_assoc] using h)
  obtain ⟨hfill, hrest⟩ := attribute_append_inj (mark_not_mem_fill c) (mark_not_mem_fill c') hback
  exact ⟨fill_injective hfill, List.append_cancel_left hrest⟩

theorem rowSquares_append_inj {y x : Nat} {row row' : List Colour} {rest rest' : List Char}
    (hlength : row.length = row'.length)
    (h : rowSquares y x row ++ rest = rowSquares y x row' ++ rest') : row = row' ∧ rest = rest' := by
  induction row generalizing x row' with
  | nil =>
      obtain rfl := List.length_eq_zero_iff.mp hlength.symm
      exact ⟨rfl, h⟩
  | cons c row ih =>
      obtain ⟨c', row', rfl⟩ := List.exists_cons_of_length_eq_add_one hlength.symm
      rw [rowSquares, rowSquares, List.append_assoc, List.append_assoc] at h
      obtain ⟨rfl, hrow⟩ := square_append_inj h
      obtain ⟨rfl, hrest⟩ := ih (Nat.succ.inj hlength) hrow
      exact ⟨rfl, hrest⟩

/-- The squares of rows tell their colours, if it is known how long they are. -/
theorem squaresFrom_append_inj {width y : Nat} {rows rows' : List (List Colour)}
    {rest rest' : List Char} (hheight : rows.length = rows'.length)
    (hrows : ∀ row ∈ rows, row.length = width) (hrows' : ∀ row ∈ rows', row.length = width)
    (h : squaresFrom y rows ++ rest = squaresFrom y rows' ++ rest') : rows = rows' := by
  induction rows generalizing y rows' with
  | nil => exact (List.length_eq_zero_iff.mp hheight.symm).symm
  | cons row rows ih =>
      obtain ⟨row', rows', rfl⟩ := List.exists_cons_of_length_eq_add_one hheight.symm
      obtain ⟨hrow, hrows⟩ := List.forall_mem_cons.mp hrows
      obtain ⟨hrow', hrows''⟩ := List.forall_mem_cons.mp hrows'
      rw [squaresFrom, squaresFrom, List.append_assoc, List.append_assoc] at h
      obtain ⟨rfl, hbehind⟩ := rowSquares_append_inj (hrow.trans hrow'.symm) h
      rw [ih (Nat.succ.inj hheight) hrows hrows'' hbehind]

/-! ## Drawings -/

/-- The value of the attribute for what a drawing shows: all of a picture. -/
def viewBox (width height : Nat) : List Char :=
  "0 0 ".toList ++ decimal width ++ ' ' :: decimal height

theorem viewBox_inj {width height width' height' : Nat}
    (h : viewBox width height = viewBox width' height') : width = width' ∧ height = height' := by
  have hblank : ∀ n, ' ' ∉ decimal n := not_mem_decimal (by decide)
  simp only [viewBox, List.append_assoc] at h
  obtain ⟨hwidth, hheight⟩ := append_cons_inj (hblank _) (hblank _) (List.append_cancel_left h)
  exact ⟨decimal_injective hwidth, decimal_injective hheight⟩

theorem mark_not_mem_viewBox (width height : Nat) : '\'' ∉ viewBox width height := by
  simp [viewBox, mark_not_mem_decimal]

/-- A drawing up to the size in which it is displayed. -/
def sizeFront (width height : Nat) : List Char :=
  "<svg".toList ++ attribute_ "xmlns" "http://www.w3.org/2000/svg".toList ++
    attribute_ "width" (decimal width) ++ attribute_ "height" (decimal height)

/-- A drawing behind the size in which it is displayed. -/
def sizeBack (p : Picture) : List Char :=
  attribute_ "viewBox" (viewBox p.width p.height) ++
    (attribute_ "shape-rendering" "crispEdges".toList ++
      ('>' :: squaresFrom 0 p.rows ++ "</svg>".toList))

theorem drawing_eq (size : PictureSize) (p : Picture) :
    size.drawing p = sizeFront (size.displayWidth p) (size.displayHeight p) ++ sizeBack p := by
  unfold PictureSize.drawing sizeFront sizeBack viewBox
  simp only [List.append_assoc]

theorem sizeFront_append_inj {width height width' height' : Nat} {rest rest' : List Char}
    (h : sizeFront width height ++ rest = sizeFront width' height' ++ rest') :
    width = width' ∧ height = height' ∧ rest = rest' := by
  unfold sizeFront at h
  simp only [List.append_assoc] at h
  obtain ⟨hwidth, hbehind⟩ :=
    attribute_decimal_inj (List.append_cancel_left (List.append_cancel_left h))
  obtain ⟨hheight, hrest⟩ := attribute_decimal_inj hbehind
  exact ⟨hwidth, hheight, hrest⟩

/-- What stands behind the size tells the picture, if every row of it is as long as the
picture is wide. -/
theorem sizeBack_inj {p q : Picture} (hp : ∀ row ∈ p.rows, row.length = p.width)
    (hq : ∀ row ∈ q.rows, row.length = q.width) (h : sizeBack p = sizeBack q) : p = q := by
  obtain ⟨hview, hbehind⟩ :=
    attribute_append_inj (mark_not_mem_viewBox _ _) (mark_not_mem_viewBox _ _) h
  obtain ⟨hwidth, hheight⟩ := viewBox_inj hview
  have hsquares := (List.cons.inj (List.append_cancel_left hbehind)).2
  have hrows := squaresFrom_append_inj hheight (hwidth ▸ hp) hq hsquares
  cases p
  cases q
  simp_all

end Picture

namespace PictureSize

/-- A drawing as an image element. -/
def element (drawing : List Char) : List Char :=
  "<img src='data:image/svg+xml;base64,".toList ++ base64 (bytes drawing) ++ "'>".toList

theorem element_injective : Function.Injective element := by
  intro s t h
  unfold element at h
  exact bytes_injective (base64_injective
    (List.append_cancel_left (List.append_cancel_right h)))

end PictureSize

end Value

end Stepwise
