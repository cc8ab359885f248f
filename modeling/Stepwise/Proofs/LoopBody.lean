import Stepwise.Source.Basic

/-!
# Lines of loop bodies

The body of a loop is listed from the top of the program to the bottom, and
every line of it once. A mark for a loop therefore reaches each line of the
body exactly once.
-/

namespace Stepwise.Source

theorem le_of_mem_bodyFrom {baseline n m : Nat} {lines : List (List Char)}
    (h : m ∈ bodyFrom baseline n lines) : n ≤ m := by
  induction lines generalizing n with
  | nil => simp [bodyFrom] at h
  | cons line rest ih =>
      simp only [bodyFrom] at h
      split at h
      · exact Nat.le_of_succ_le (ih h)
      · split at h
        · simp at h
        · rcases List.mem_cons.mp h with rfl | hrest
          · exact Nat.le_refl _
          · exact Nat.le_of_succ_le (ih hrest)

theorem pairwise_bodyFrom (baseline n : Nat) (lines : List (List Char)) :
    (bodyFrom baseline n lines).Pairwise (· < ·) := by
  induction lines generalizing n with
  | nil => simp [bodyFrom]
  | cons line rest ih =>
      simp only [bodyFrom]
      split
      · exact ih (n + 1)
      · split
        · exact List.Pairwise.nil
        · refine List.Pairwise.cons ?_ (ih (n + 1))
          intro m hm
          exact le_of_mem_bodyFrom hm

theorem nodup_loopBody (s : Source) (header : Nat) : (s.loopBody header).Nodup := by
  have hlt := pairwise_bodyFrom (s.indentOf header) (header + 1)
    (s.lines.drop (header + 1))
  exact hlt.imp fun h => Nat.ne_of_lt h

end Stepwise.Source
