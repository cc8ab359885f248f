import Stepwise.Text.Bytes
import Stepwise.Writes.LineIndex

/-!
# Lines of offsets

A line index finds the line of an offset by the places at which lines start. It
is the number of line feeds in front of the offset, in bytes. Both agree since
the byte of a line feed is part of no other character.

## Main results

* `lineOf_ofText`: the line of an offset.
-/

namespace Stepwise

namespace Text

/-- The number of line feeds among the bytes of a text in front of an offset. -/
def lineFeedsBefore (offset : Nat) (t : List Char) : Nat := ((bytes t).take offset).count 10

theorem mod_eq_of_ofNat_eq {n : Nat} (h : (10 : UInt8) = UInt8.ofNat n) : n % 256 = 10 := by
  have hval := congrArg UInt8.toNat h
  simpa using hval.symm

/-- The byte of a line feed is part of no other character: the bytes of a
character with several of them are large. -/
theorem mem_utf8EncodeChar_iff (c : Char) : 10 ∈ String.utf8EncodeChar c ↔ c = '\n' := by
  constructor
  · intro h
    unfold String.utf8EncodeChar at h
    dsimp only at h
    split at h
    · have hcode := mod_eq_of_ofNat_eq (List.mem_singleton.mp h)
      have hval : c.val.toNat = 10 := by omega
      exact Char.ext (UInt32.toNat_inj.mp hval)
    · exfalso
      split at h
      · simp only [List.mem_cons, List.not_mem_nil, or_false] at h
        rcases h with h | h <;> have hcode := mod_eq_of_ofNat_eq h <;> omega
      · split at h
        · simp only [List.mem_cons, List.not_mem_nil, or_false] at h
          rcases h with h | h | h <;> have hcode := mod_eq_of_ofNat_eq h <;> omega
        · simp only [List.mem_cons, List.not_mem_nil, or_false] at h
          rcases h with h | h | h | h <;> have hcode := mod_eq_of_ofNat_eq h <;> omega
  · rintro rfl
    decide

theorem lineFeedsBefore_cons_lineFeed (offset : Nat) (t : List Char) :
    lineFeedsBefore (offset + 1) ('\n' :: t) = lineFeedsBefore offset t + 1 := by
  have hbytes : bytes ('\n' :: t) = 10 :: bytes t := rfl
  rw [lineFeedsBefore, hbytes, List.take_succ_cons, List.count_cons_self]
  rfl

theorem lineFeedsBefore_cons {c : Char} (h : c ≠ '\n') (offset : Nat) (t : List Char) :
    lineFeedsBefore offset (c :: t) = lineFeedsBefore (offset - c.utf8Size) t := by
  have hnone : ((String.utf8EncodeChar c).take offset).count 10 = 0 := by
    rw [List.count_eq_zero]
    exact fun hmem => h ((mem_utf8EncodeChar_iff c).mp (List.mem_of_mem_take hmem))
  rw [lineFeedsBefore, bytes, List.flatMap_cons, List.take_append, List.count_append, hnone,
    String.length_utf8EncodeChar, Nat.zero_add]
  rfl

theorem lineFeedsBefore_zero (t : List Char) : lineFeedsBefore 0 t = 0 := by
  simp [lineFeedsBefore]

end Text

namespace Writes.LineIndex

open Stepwise.Text

theorem lt_of_mem_startsBehind {offset start : Nat} {t : List Char}
    (h : start ∈ startsBehind offset t) : offset < start := by
  induction t generalizing offset with
  | nil => simp [startsBehind] at h
  | cons c rest ih =>
      have hsize := c.utf8Size_pos
      unfold startsBehind at h
      split at h
      · rcases List.mem_cons.mp h with rfl | hrest
        · exact Nat.lt_succ_self offset
        · have := ih hrest
          omega
      · have := ih h
        omega

theorem takeWhile_startsBehind_of_le {base offset : Nat} (t : List Char) (h : offset ≤ base) :
    (startsBehind base t).takeWhile (· ≤ offset) = [] := by
  cases hstarts : startsBehind base t with
  | nil => rfl
  | cons start rest =>
      have hstart : base < start := lt_of_mem_startsBehind (by rw [hstarts]; simp)
      exact List.takeWhile_cons_of_neg (by simp; omega)

/-- The lines that start in the rest of a text, up to an offset, start behind
the line feeds there. -/
theorem length_takeWhile_startsBehind (base offset : Nat) (t : List Char) :
    ((startsBehind base t).takeWhile (· ≤ offset)).length = lineFeedsBefore (offset - base) t := by
  induction t generalizing base with
  | nil => simp [startsBehind, lineFeedsBefore, bytes]
  | cons c rest ih =>
      by_cases hoffset : offset ≤ base
      · rw [takeWhile_startsBehind_of_le _ hoffset, Nat.sub_eq_zero_of_le hoffset,
          lineFeedsBefore_zero]
        rfl
      · by_cases hc : c = '\n'
        · subst hc
          have hdistance : offset - base = offset - (base + 1) + 1 := by omega
          rw [startsBehind, if_pos rfl, List.takeWhile_cons_of_pos (by simp; omega),
            List.length_cons, ih, hdistance, lineFeedsBefore_cons_lineFeed]
        · rw [startsBehind, if_neg hc, ih, lineFeedsBefore_cons hc, Nat.sub_sub]

/-- The line of an offset is the number of line feeds in front of it. -/
theorem lineOf_ofText (t : List Char) (offset : Nat) :
    (ofText t).lineOf offset = lineFeedsBefore offset t := by
  have hrest := length_takeWhile_startsBehind 0 offset t
  simp only [lineOf, ofText]
  rw [List.takeWhile_cons_of_pos (by simp), List.length_cons, hrest]
  rfl

end Writes.LineIndex

end Stepwise
