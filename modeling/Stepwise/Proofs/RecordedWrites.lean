import Mathlib.Data.List.Induction
import Stepwise.Writes.WriteMap

/-!
# What a map of writes holds

A name is recorded by a walk over the entries that stops at the first line that
is not in front of its own. A look-up stops at the first entry of its line. The
two meet since the lines of a map rise, which recording preserves.

## Main results

* `isRising_ofList`: the lines of a map rise.
* `at_ofList`: the names of a line are those recorded for it, in order.
-/

namespace Stepwise.Writes.WriteMap

/-- Whether the lines of entries rise. -/
def IsRising (entries : List (Nat × List String)) : Prop :=
  entries.Pairwise fun entry later => entry.1 < later.1

theorem lt_of_mem_insert {n line : Nat} {name : String} {entries : List (Nat × List String)}
    (hentries : ∀ entry ∈ entries, n < entry.1) (hline : n < line) :
    ∀ entry ∈ insert line name entries, n < entry.1 := by
  induction entries with
  | nil => simpa [insert] using hline
  | cons head rest ih =>
      obtain ⟨hhead, hrest⟩ := List.forall_mem_cons.mp hentries
      unfold insert
      split
      · exact List.forall_mem_cons.mpr ⟨hline, hentries⟩
      · split
        · exact List.forall_mem_cons.mpr ⟨hhead, hrest⟩
        · exact List.forall_mem_cons.mpr ⟨hhead, ih hrest⟩

theorem IsRising.insert {entries : List (Nat × List String)} (h : IsRising entries)
    (line : Nat) (name : String) : IsRising (insert line name entries) := by
  induction entries with
  | nil => exact List.pairwise_singleton _ _
  | cons head rest ih =>
      obtain ⟨hhead, hrest⟩ := List.pairwise_cons.mp h
      unfold WriteMap.insert
      split
      case isTrue hlt =>
        refine List.pairwise_cons.mpr ⟨List.forall_mem_cons.mpr ⟨hlt, ?_⟩, h⟩
        exact fun entry hentry => Nat.lt_trans hlt (hhead entry hentry)
      case isFalse hnotLt =>
        split
        case isTrue => exact List.pairwise_cons.mpr ⟨hhead, hrest⟩
        case isFalse hne =>
          have hlt : head.1 < line := by omega
          exact List.pairwise_cons.mpr ⟨lt_of_mem_insert hhead hlt, ih hrest⟩

/-- Nothing is found for a line in front of the first one. -/
theorem lookup_eq_none {line : Nat} {entries : List (Nat × List String)}
    (h : ∀ entry ∈ entries, line < entry.1) : entries.lookup line = none := by
  rw [List.lookup_eq_none_iff]
  intro entry hentry
  have hlt := h entry hentry
  exact bne_iff_ne.mpr (Nat.ne_of_lt hlt)

theorem lookup_insert_self {entries : List (Nat × List String)} (h : IsRising entries)
    (line : Nat) (name : String) :
    (insert line name entries).lookup line = some ((entries.lookup line).getD [] ++ [name]) := by
  induction entries with
  | nil => simp [insert]
  | cons head rest ih =>
      obtain ⟨hhead, hrest⟩ := List.pairwise_cons.mp h
      obtain ⟨n, names⟩ := head
      unfold insert
      split
      case isTrue hlt =>
        have hnone : ((n, names) :: rest).lookup line = none :=
          lookup_eq_none (List.forall_mem_cons.mpr
            ⟨hlt, fun entry hentry => Nat.lt_trans hlt (hhead entry hentry)⟩)
        rw [hnone, List.lookup_cons_self]
        rfl
      case isFalse =>
        split
        case isTrue heq =>
          subst heq
          simp
        case isFalse hne =>
          have hbeq : (line == n) = false := beq_eq_false_iff_ne.mpr hne
          simp only [List.lookup_cons, hbeq, ih hrest]

theorem lookup_insert_of_ne {line n : Nat} (h : n ≠ line) (name : String)
    (entries : List (Nat × List String)) :
    (insert line name entries).lookup n = entries.lookup n := by
  have hbeq : (n == line) = false := beq_eq_false_iff_ne.mpr h
  induction entries with
  | nil => simp [insert, List.lookup_cons, hbeq]
  | cons head rest ih =>
      obtain ⟨first, names⟩ := head
      unfold insert
      split
      case isTrue => simp only [List.lookup_cons, hbeq]
      case isFalse =>
        split
        case isTrue heq =>
          subst heq
          simp only [List.lookup_cons, hbeq]
        case isFalse => simp only [List.lookup_cons, ih]

/-- A write adds its name to its line, and to no other. -/
theorem at_record {m : WriteMap} (h : IsRising m.entries) (line n : Nat) (name : String) :
    (m.record line name).at_ n = m.at_ n ++ if n = line then [name] else [] := by
  unfold at_ record
  by_cases hn : n = line
  · subst hn
    simp [lookup_insert_self h]
  · simp [lookup_insert_of_ne hn, hn]

theorem ofList_concat (writes : List (Nat × String)) (write : Nat × String) :
    ofList (writes ++ [write]) = (ofList writes).record write.1 write.2 := by
  simp [ofList]

/-- The lines of a map rise. -/
theorem isRising_ofList (writes : List (Nat × String)) : IsRising (ofList writes).entries := by
  induction writes using List.reverseRecOn with
  | nil => exact List.Pairwise.nil
  | append_singleton writes write ih =>
      rw [ofList_concat]
      exact ih.insert write.1 write.2

/-- The names of a line are those recorded for it, in order. -/
theorem at_ofList (writes : List (Nat × String)) (line : Nat) :
    (ofList writes).at_ line = (writes.filter (·.1 == line)).map Prod.snd := by
  induction writes using List.reverseRecOn with
  | nil => rfl
  | append_singleton writes write ih =>
      rw [ofList_concat, at_record (isRising_ofList writes), ih, List.filter_append,
        List.map_append]
      by_cases hline : write.1 = line
      · simp [hline]
      · simp [hline, Ne.symm hline]

/-- A name is on a line as often as it was recorded for it. -/
theorem count_at_ofList (writes : List (Nat × String)) (line : Nat) (name : String) :
    ((ofList writes).at_ line).count name = writes.count (line, name) := by
  rw [at_ofList, List.count, List.countP_map, List.countP_filter, List.count]
  refine List.countP_congr fun write _ => ?_
  obtain ⟨n, id⟩ := write
  simp [and_comm]

end Stepwise.Writes.WriteMap
