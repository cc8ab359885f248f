import Mathlib.Data.List.Dedup
import Stepwise.Proofs.MemberNames
import Stepwise.Proofs.WriteSites

/-!
# What can be seen of a map of writes

A map is made by recording one write after the other, in any order of lines. It
can be listed, asked, counted and written as JSON, and all of that has to tell
the same: which names were recorded for which line.

What the list has to be follows from the writes alone, since there is only one
list of rising lines with the names of every line. The answers are those that
the list gives. In the text a line is named by its digits, which tell its
number, so lines are distinct there as well. A reader of JSON who keeps the
order of members finds the list again, and one who only looks for names finds
every line.

## Main results

* `isGrouped_iff`: a map lists what was recorded, and nothing else is such a list.
* `ofList_agrees`: what a map answers is what it lists.
* `ofList_shows`: so is what can be read from its text.
-/

namespace Stepwise.Writes.WriteMap

open Stepwise.Text

variable {m : WriteMap} {writes : List (Nat × String)} {entries : List (Nat × List String)}
  {line : Nat}

/-! ## The list -/

/-- The names that were recorded for a line, in order. -/
def namesOn (writes : List (Nat × String)) (line : Nat) : List String :=
  (writes.filter (·.1 == line)).map Prod.snd

/-- Whether entries are writes by line. -/
structure IsGrouped (writes : List (Nat × String)) (entries : List (Nat × List String)) :
    Prop where
  rising : (entries.map Prod.fst).Pairwise (· < ·)
  lines : ∀ line, line ∈ entries.map Prod.fst ↔ line ∈ writes.map Prod.fst
  names : ∀ entry ∈ entries, entry.2 = namesOn writes entry.1
  ne_nil : ∀ entry ∈ entries, entry.2 ≠ []

theorem isRising_iff : IsRising entries ↔ (entries.map Prod.fst).Pairwise (· < ·) :=
  List.pairwise_map.symm

theorem namesOn_ne_nil_iff : namesOn writes line ≠ [] ↔ line ∈ writes.map Prod.fst := by
  rw [namesOn, ne_eq, List.map_eq_nil_iff, List.filter_eq_nil_iff, List.mem_map]
  simp

/-- If the lines rise, then looking for a line finds its entry. -/
theorem IsRising.lookup_eq_some (h : IsRising entries) {entry : Nat × List String}
    (hentry : entry ∈ entries) : entries.lookup entry.1 = some entry.2 := by
  induction entries with
  | nil => simp at hentry
  | cons head rest ih =>
      obtain ⟨hhead, hrest⟩ := List.pairwise_cons.mp h
      rcases List.mem_cons.mp hentry with rfl | hbehind
      · exact List.lookup_cons_self
      · have hne : (entry.1 == head.1) = false :=
          beq_eq_false_iff_ne.mpr (Nat.ne_of_gt (hhead entry hbehind))
        rw [List.lookup_cons, hne]
        exact ih hrest hbehind

theorem lookup_eq_none_of_not_mem (h : line ∉ entries.map Prod.fst) :
    entries.lookup line = none := by
  rw [List.lookup_eq_none_iff]
  intro entry hentry
  rw [bne_iff_ne]
  rintro rfl
  exact h (List.mem_map_of_mem hentry)

theorem at_of_mem (h : IsRising m.entries) {entry : Nat × List String}
    (hentry : entry ∈ m.entries) : m.at_ entry.1 = entry.2 := by
  rw [at_, h.lookup_eq_some hentry]
  rfl

theorem at_of_not_mem (h : line ∉ m.entries.map Prod.fst) : m.at_ line = [] := by
  rw [at_, lookup_eq_none_of_not_mem h]
  rfl

/-- Recording a write leaves no line without names. -/
theorem ne_nil_of_mem_insert (h : ∀ entry ∈ entries, entry.2 ≠ []) (line : Nat)
    (name : String) : ∀ entry ∈ insert line name entries, entry.2 ≠ [] := by
  induction entries with
  | nil => simp [insert]
  | cons head rest ih =>
      obtain ⟨hhead, hrest⟩ := List.forall_mem_cons.mp h
      unfold insert
      split
      · exact List.forall_mem_cons.mpr ⟨List.cons_ne_nil _ _, h⟩
      · split
        · exact List.forall_mem_cons.mpr ⟨by simp, hrest⟩
        · exact List.forall_mem_cons.mpr ⟨hhead, ih hrest⟩

theorem ne_nil_of_mem_ofList (writes : List (Nat × String)) :
    ∀ entry ∈ (ofList writes).entries, entry.2 ≠ [] := by
  induction writes using List.reverseRecOn with
  | nil => simp [ofList, empty]
  | append_singleton writes write ih =>
      rw [ofList_concat]
      exact ne_nil_of_mem_insert ih write.1 write.2

theorem isGrouped_ofList (writes : List (Nat × String)) :
    IsGrouped writes (ofList writes).entries := by
  have hrising := isRising_ofList writes
  have hnames : ∀ entry ∈ (ofList writes).entries, entry.2 = namesOn writes entry.1 :=
    fun entry hentry => (at_of_mem hrising hentry).symm.trans (at_ofList writes entry.1)
  refine ⟨isRising_iff.mp hrising, fun line => ?_, hnames, ne_nil_of_mem_ofList writes⟩
  rw [← namesOn_ne_nil_iff]
  constructor
  · intro hline
    obtain ⟨entry, hentry, rfl⟩ := List.mem_map.mp hline
    rw [← hnames entry hentry]
    exact ne_nil_of_mem_ofList writes entry hentry
  · intro hne
    by_contra habsent
    have hnone := at_of_not_mem habsent
    rw [at_ofList] at hnone
    exact hne hnone

/-- The lines of such a list tell the rest of it. -/
theorem IsGrouped.eq_map (h : IsGrouped writes entries) :
    entries = (entries.map Prod.fst).map fun line => (line, namesOn writes line) := by
  rw [List.map_map]
  refine (List.map_id entries).symm.trans (List.map_congr_left fun entry hentry => ?_)
  exact Prod.ext rfl (h.names entry hentry)

theorem IsGrouped.nodup (h : IsGrouped writes entries) : (entries.map Prod.fst).Nodup :=
  h.rising.imp Nat.ne_of_lt

/-- There is only one list of the lines and names that were recorded. -/
theorem IsGrouped.eq {others : List (Nat × List String)} (h : IsGrouped writes entries)
    (hothers : IsGrouped writes others) : entries = others := by
  -- The same lines come in the same order, since they rise in both lists.
  have hperm : (entries.map Prod.fst).Perm (others.map Prod.fst) :=
    (List.perm_ext_iff_of_nodup h.nodup hothers.nodup).mpr fun line =>
      (h.lines line).trans (hothers.lines line).symm
  have hlines : entries.map Prod.fst = others.map Prod.fst :=
    hperm.eq_of_pairwise (fun _ _ _ _ hlt hgt => absurd hgt (Nat.lt_asymm hlt)) h.rising
      hothers.rising
  rw [h.eq_map, hlines, ← hothers.eq_map]

/-- A map lists the writes that were recorded, by line. -/
theorem isGrouped_iff (writes : List (Nat × String)) (entries : List (Nat × List String)) :
    IsGrouped writes entries ↔ entries = (ofList writes).entries := by
  constructor
  · exact fun h => h.eq (isGrouped_ofList writes)
  · rintro rfl
    exact isGrouped_ofList writes

/-! ## Answers -/

/-- Whether what a map answers is what it lists, for certain writes. -/
structure Agrees (m : WriteMap) (writes : List (Nat × String)) : Prop where
  at_of_mem : ∀ entry ∈ m.entries, m.at_ entry.1 = entry.2
  at_of_not_mem : ∀ line, line ∉ m.entries.map Prod.fst → m.at_ line = []
  containsLine_iff : ∀ line, m.containsLine line = true ↔ line ∈ m.entries.map Prod.fst
  length_eq : m.length = m.entries.length
  length_eq_lines : m.length = (writes.map Prod.fst).dedup.length
  isEmpty_iff : m.isEmpty = true ↔ m.entries = []
  writeCount_eq_sum : m.writeCount = (m.entries.map fun entry => entry.2.length).sum
  /-- Every write counts once. -/
  writeCount_eq_length : m.writeCount = writes.length

theorem containsLine_iff (m : WriteMap) (line : Nat) :
    m.containsLine line = true ↔ line ∈ m.entries.map Prod.fst := by
  simp [containsLine]

theorem writeCount_eq_sum (m : WriteMap) :
    m.writeCount = (m.entries.map fun entry => entry.2.length).sum := by
  rw [writeCount, List.length_flatMap]

theorem length_pairs (m : WriteMap) : m.pairs.length = m.writeCount := by
  rw [writeCount_eq_sum, pairs, List.length_flatMap]
  simp

/-- There are as many entries as there are different lines. -/
theorem IsGrouped.length_eq (h : IsGrouped writes entries) :
    entries.length = (writes.map Prod.fst).dedup.length := by
  have hperm : (entries.map Prod.fst).Perm (writes.map Prod.fst).dedup :=
    (List.perm_ext_iff_of_nodup h.nodup (List.nodup_dedup _)).mpr fun line =>
      (h.lines line).trans List.mem_dedup.symm
  rw [← hperm.length_eq, List.length_map]

theorem ofList_agrees (writes : List (Nat × String)) : Agrees (ofList writes) writes where
  at_of_mem _ := at_of_mem (isRising_ofList writes)
  at_of_not_mem _ := at_of_not_mem
  containsLine_iff := containsLine_iff _
  length_eq := rfl
  length_eq_lines := (isGrouped_ofList writes).length_eq
  isEmpty_iff := List.isEmpty_iff
  writeCount_eq_sum := writeCount_eq_sum _
  writeCount_eq_length := by rw [← length_pairs, (pairs_perm writes).length_eq]

/-! ## The text -/

/-- Whether a document tells the entries of a map, and in their order. -/
structure Tells (document : Json.Document) (entries : List (Nat × List String)) : Prop where
  ended : document.ended = true
  /-- The order is found by who keeps it, and each line by who looks for its name. -/
  object : ∃ members, document.root = .object members ∧ Json.HasDistinctNames members ∧
    members.mapM line? = some entries ∧
    ∀ entry ∈ entries, Json.lastItem? (String.ofList (decimal entry.1)) members =
      some (.array (entry.2.map Json.text))

/-- The member for a line. -/
def member (entry : Nat × List String) : String × Json :=
  (String.ofList (decimal entry.1), .array (entry.2.map Json.text))

/-- The members for lines, as they are read. -/
def object (entries : List (Nat × List String)) : List (Option String × Json) :=
  (entries.map member).map fun item => (some item.1, item.2)

theorem mapM_line?_object (entries : List (Nat × List String)) :
    (object entries).mapM line? = some entries := by
  have hread : ofJson? (.object (object entries)) = some ⟨entries⟩ := ofJson?_toJson ⟨entries⟩
  obtain ⟨found, hfound, heq⟩ := Option.bind_eq_some_iff.mp hread
  rw [hfound, WriteMap.mk.inj (Option.some.inj heq)]

/-- Distinct lines have distinct names. -/
theorem members_nodup (h : IsRising entries) : ((entries.map member).map Prod.fst).Nodup := by
  have hname : Function.Injective fun n => String.ofList (decimal n) :=
    fun _ _ heq => decimal_injective (String.ofList_inj.mp heq)
  have hlines : (entries.map Prod.fst).Nodup := (isRising_iff.mp h).imp Nat.ne_of_lt
  have hnames := (List.nodup_map_iff hname).mpr hlines
  rw [List.map_map] at hnames ⊢
  exact hnames

theorem read_toText (m : WriteMap) : Json.read m.toText = ⟨.object (object m.entries), true⟩ :=
  Json.read_write m.fits_toJson.isExact (m.fits_toJson.depth_le.trans (by decide))

theorem tells_read_toText (h : IsRising m.entries) : Tells (Json.read m.toText) m.entries := by
  have hnodup := members_nodup h
  rw [read_toText]
  refine ⟨rfl, object m.entries, rfl, Json.hasDistinctNames_map_iff.mpr hnodup,
    mapM_line?_object m.entries, fun entry hentry => ?_⟩
  exact Json.lastItem?_of_mem hnodup (List.mem_map_of_mem hentry)

/-- Whether what can be seen of a map is that certain writes were recorded. -/
structure Shows (m : WriteMap) (writes : List (Nat × String)) : Prop where
  /-- The entries are writes by line, and there are no others that are. -/
  entries_iff : ∀ entries, IsGrouped writes entries ↔ entries = m.entries
  agrees : Agrees m writes
  tells : Tells (Json.read m.toText) m.entries

/-- Whatever is recorded, in whatever order of lines: the map lists it by line, its
answers are those of the list, and its text is an object with the list in it. -/
theorem ofList_shows (writes : List (Nat × String)) : Shows (ofList writes) writes where
  entries_iff := isGrouped_iff writes
  agrees := ofList_agrees writes
  tells := tells_read_toText (isRising_ofList writes)

/-- Lines are in the order of their numbers, and not in that of their names. -/
example : (ofList [(10, "b"), (2, "a"), (10, "\"")]).toText =
    "\x7b\"2\":[\"a\"],\"10\":[\"b\",\"\\\"\"]\x7d".toList := by decide

end Stepwise.Writes.WriteMap
