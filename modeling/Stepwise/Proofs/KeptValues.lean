import Stepwise.Proofs.ReadBack
import Stepwise.Value.Json

/-!
# Values survive JSON

The writer gives a value as a variant, and the reader takes the variant apart
by its name. That the two agree is an induction over values, with one case for
each kind. As trees they agree for doubles as well; it is only the text of a
double from which another double may be read, so only values without doubles
have exact trees.

## Main results

* `ofJson_toJson`: a value is read from its tree.
* `isSound_toJson`: the tree of a value has no damage.
* `isExact_toJson`: the tree of a value without doubles can be told from its text.
-/

namespace Stepwise

namespace Json

/-- Reading each of several items that were written. -/
theorem mapM_map_of_left_inverse {m : Type → Type} [Monad m] [LawfulMonad m] {α β : Type}
    {write : α → β} {read : β → m α} {items : List α}
    (h : ∀ a ∈ items, read (write a) = pure a) : (items.map write).mapM read = pure items := by
  induction items with
  | nil => rfl
  | cons a rest ih =>
      have hrest := ih fun b hb => h b (List.mem_cons_of_mem _ hb)
      rw [List.map_cons, List.mapM_cons, h a List.mem_cons_self, hrest, pure_bind, pure_bind]

theorem isSound_record (members : List (String × Json)) :
    (record members).isSound = members.all fun member => member.2.isSound := by
  show membersSound _ = _
  induction members with
  | nil => rfl
  | cons member rest ih => simp [membersSound, ih]

theorem isExact_nat {n : Nat} (h : n < Nat.pow 2 64) : (nat n).isExact = true := by
  have hbig : Nat.pow 2 64 = 18446744073709551616 := by decide
  have hlow : -Int.pow 2 63 ≤ 0 := by decide
  have hhigh : Int.pow 2 64 = 18446744073709551616 := by decide
  exact isExact_int_iff.mpr ⟨by omega, by omega⟩

theorem fits_nat {n : Nat} (h : n < Nat.pow 2 64) : Fits 0 (nat n) :=
  ⟨isExact_nat h, Nat.le_refl 0⟩

theorem isExact_toInt (n : Int64) : (number (.int n.toInt)).isExact = true := by
  have hwider : Int.pow 2 63 ≤ Int.pow 2 64 := by decide
  exact isExact_int_iff.mpr ⟨n.le_toInt, n.toInt_lt.trans_le hwider⟩

theorem asInteger_toInt (n : Int64) : asInteger (.number (.int n.toInt)) = .ok n := by
  rw [asInteger, if_pos ⟨n.le_toInt, n.toInt_lt⟩, Int64.ofInt_toInt]

theorem asUnsigned_toNat (expected : String) (n : UInt64) :
    asUnsigned expected (.nat n.toNat) = .ok n := by
  have hlow : 0 ≤ (n.toNat : Int) := Int.natCast_nonneg _
  have hhigh : (n.toNat : Int) < Int.pow 2 64 := by
    have hbound := n.toNat_lt
    have hsame : Int.pow 2 64 = 18446744073709551616 := by decide
    omega
  rw [nat, asUnsigned, if_pos ⟨hlow, hhigh⟩, Int.toNat_natCast, UInt64.ofNat_toNat]

end Json

namespace Value

open Stepwise.Json

/-! ## Reading from a tree -/

mutual

/-- A value is read from its tree, wherever it stands. -/
theorem ofJson_toJson (blank : Blankness) : (v : Value) → ofJson blank v.toJson = .ok v
  | none => rfl
  | bool b => by
      show (asBool (.bool b)).map Value.bool = _
      rfl
  | int n => by
      show (asInteger (.number (.int n.toInt))).map Value.int = _
      rw [asInteger_toInt]
      rfl
  | float x => by
      show (asDouble (.number (.float x))).map Value.float = _
      rfl
  | str s => by
      show (asText (.text s)).map Value.str = _
      rfl
  | list items => by
      show (itemsOf blank (toJsons items)).map Value.list = _
      rw [itemsOf_toJsons blank items]
      rfl
  | tuple items => by
      show (itemsOf blank (toJsons items)).map Value.tuple = _
      rw [itemsOf_toJsons blank items]
      rfl
  | dict pairs => by
      show (pairsOf blank (pairsToJson pairs)).map Value.dict = _
      rw [pairsOf_pairsToJson blank pairs]
      rfl
  | set items => by
      show (itemsOf blank (toJsons items)).map Value.set = _
      rw [itemsOf_toJsons blank items]
      rfl
  | function name => by
      show (asText (.text name)).map Value.function = _
      rfl
  | module name => by
      show (asText (.text name)).map Value.module = _
      rfl
  | object typeName repr => by
      show readObject (.record [("type_name", .text typeName), ("repr", .text repr)]) = _
      rfl

theorem itemsOf_toJsons (blank : Blankness) : (items : List Value) →
    itemsOf blank (toJsons items) = .ok items
  | [] => rfl
  | v :: items => by
      rw [toJsons, itemsOf, ofJson_toJson blank v, itemsOf_toJsons blank items]
      rfl

theorem pairsOf_pairsToJson (blank : Blankness) : (pairs : List (Value × Value)) →
    pairsOf blank (pairsToJson pairs) = .ok pairs
  | [] => rfl
  | (k, v) :: pairs => by
      rw [pairsToJson, pairsOf, ofJson_toJson blank k, ofJson_toJson blank v,
        pairsOf_pairsToJson blank pairs]
      rfl

end

/-! ## Reading from a text -/

mutual

/-- Whether no double occurs in a value. -/
def isFloatFree : Value → Bool
  | float _ => false
  | list items | tuple items | set items => allFloatFree items
  | dict pairs => pairsFloatFree pairs
  | none | bool _ | int _ | str _ | function _ | module _ | object _ _ => true

/-- `isFloatFree` on lists. -/
def allFloatFree : List Value → Bool
  | [] => true
  | v :: items => isFloatFree v && allFloatFree items

/-- `isFloatFree` on lists of pairs. -/
def pairsFloatFree : List (Value × Value) → Bool
  | [] => true
  | (k, v) :: pairs => isFloatFree k && isFloatFree v && pairsFloatFree pairs

end

mutual

/-- The tree of a value has no damage. -/
theorem isSound_toJson : (v : Value) → v.toJson.isSound = true
  | none => rfl
  | bool _ => rfl
  | int _ => rfl
  | float _ => rfl
  | str _ => rfl
  | list items => by simp [toJson, isSound_record, isSound, allSound_toJsons items]
  | tuple items => by simp [toJson, isSound_record, isSound, allSound_toJsons items]
  | dict pairs => by simp [toJson, isSound_record, isSound, allSound_pairsToJson pairs]
  | set items => by simp [toJson, isSound_record, isSound, allSound_toJsons items]
  | function _ => rfl
  | module _ => rfl
  | object _ _ => rfl

theorem allSound_toJsons : (items : List Value) → allSound (toJsons items) = true
  | [] => rfl
  | v :: items => by simp [toJsons, allSound, isSound_toJson v, allSound_toJsons items]

theorem allSound_pairsToJson : (pairs : List (Value × Value)) →
    allSound (pairsToJson pairs) = true
  | [] => rfl
  | (k, v) :: pairs => by
      simp [pairsToJson, allSound, isSound, isSound_toJson k, isSound_toJson v,
        allSound_pairsToJson pairs]

end

mutual

/-- The tree of a value without doubles can be told from its text. -/
theorem isExact_toJson : (v : Value) → v.isFloatFree = true → v.toJson.isExact = true
  | none, _ => rfl
  | bool _, _ => rfl
  | int n, _ => by simp [toJson, isExact_record, isExact_toInt n]
  | float _, h => by simp [isFloatFree] at h
  | str _, _ => rfl
  | list items, h => by simp [toJson, isExact_record, isExact, allExact_toJsons items h]
  | tuple items, h => by simp [toJson, isExact_record, isExact, allExact_toJsons items h]
  | dict pairs, h => by simp [toJson, isExact_record, isExact, allExact_pairsToJson pairs h]
  | set items, h => by simp [toJson, isExact_record, isExact, allExact_toJsons items h]
  | function _, _ => rfl
  | module _, _ => rfl
  | object _ _, _ => rfl

theorem allExact_toJsons : (items : List Value) → allFloatFree items = true →
    allExact (toJsons items) = true
  | [], _ => rfl
  | v :: items, h => by
      simp only [allFloatFree, Bool.and_eq_true] at h
      simp [toJsons, allExact, isExact_toJson v h.1, allExact_toJsons items h.2]

theorem allExact_pairsToJson : (pairs : List (Value × Value)) → pairsFloatFree pairs = true →
    allExact (pairsToJson pairs) = true
  | [], _ => rfl
  | (k, v) :: pairs, h => by
      simp only [pairsFloatFree, Bool.and_eq_true] at h
      simp [pairsToJson, allExact, isExact, isExact_toJson k h.1.1, isExact_toJson v h.1.2,
        allExact_pairsToJson pairs h.2]

end

end Value

end Stepwise
