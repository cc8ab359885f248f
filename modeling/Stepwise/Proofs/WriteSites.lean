import Mathlib.Data.List.Forall2
import Mathlib.Data.List.Perm.Subperm
import Stepwise.Artifact
import Stepwise.Proofs.SourceLines
import Stepwise.Proofs.StoredNames

/-!
# Where writes come from

Every write that is recorded of a program has a node of its own in the tree of
the program: a name that is stored, or a subscript that is assigned to and has
the name at the bottom of its container. Two writes never share a node, since
the walk that collects them comes to every node at most once. So what only
reads a name, deletes it or declares it is no write, and no write counts twice.

A map keeps writes by line, and so in another order than they were collected
in. What is matched with nodes are the pairs of the map, in its own order.

## Main results

* `root?_eq_some_iff`: what is at the bottom of a container.
* `pairs_perm`: a map has the writes that were recorded, each of them once.
* `writes_matched`: the writes of a program and the nodes they come from.
-/

namespace Stepwise.Grammar

variable {α : Type}

namespace Expr

/-- Whether an expression is a name, or leads to the name through subscripts,
members and stars. -/
inductive LeadsTo (id : String) : Expr α → Prop where
  | name (start : α) (context : Context) : LeadsTo id (.name start id context)
  | subscript (start : α) {base : Expr α} (index : Expr α) (context : Context)
      (hbase : LeadsTo id base) : LeadsTo id (.subscript start base index context)
  | member (start : α) {base : Expr α} (field : String) (context : Context)
      (hbase : LeadsTo id base) : LeadsTo id (.member start base field context)
  | starred (start : α) {value : Expr α} (context : Context) (hvalue : LeadsTo id value) :
      LeadsTo id (.starred start value context)

/-- Whether a node writes a name on a line: it starts on that line, and either
stores the name or assigns into a container that leads to it. -/
inductive WritesAt (lineOf : α → Nat) (line : Nat) (id : String) : Expr α → Prop where
  | name (start : α) (hline : lineOf start = line) :
      WritesAt lineOf line id (.name start id .store)
  | subscript (start : α) (base index : Expr α) (hline : lineOf start = line)
      (hroot : LeadsTo id base) : WritesAt lineOf line id (.subscript start base index .store)

theorem leadsTo_of_root? {id : String} (e : Expr α) (h : e.root? = some id) : LeadsTo id e := by
  induction e using part_induction with
  | step e ih =>
      cases e with
      | name start id' context =>
          obtain rfl : id' = id := by simpa [root?] using h
          exact .name start context
      | subscript start base index context =>
          rw [root?] at h
          exact .subscript start index context (ih base (by simp [parts]) h)
      | member start base field context =>
          rw [root?] at h
          exact .member start field context (ih base (by simp [parts]) h)
      | starred start value context =>
          rw [root?] at h
          exact .starred start context (ih value (by simp [parts]) h)
      | _ => simp [root?] at h

/-- The name at the bottom of a container is the one to which it leads. -/
theorem root?_eq_some_iff (e : Expr α) (id : String) : e.root? = some id ↔ LeadsTo id e := by
  constructor
  · exact leadsTo_of_root? e
  · intro h
    induction h with
    | name start context => rfl
    | subscript start index context _ ih => rw [root?, ih]
    | member start field context _ ih => rw [root?, ih]
    | starred start context _ ih => rw [root?, ih]

/-- A write of an expression itself is a write on the line where it starts. -/
theorem writesAt_of_write? (lineOf : α → Nat) {e : Expr α} {write : α × String}
    (h : e.write? = some write) : WritesAt lineOf (lineOf write.1) write.2 e := by
  cases e with
  | name start id context =>
      cases context with
      | store =>
          obtain rfl : (start, id) = write := by simpa [write?] using h
          exact .name start rfl
      | load => simp [write?] at h
      | delete => simp [write?] at h
  | subscript start base index context =>
      cases context with
      | store =>
          obtain ⟨id, hroot, rfl⟩ : ∃ id, base.root? = some id ∧ (start, id) = write := by
            simpa [write?] using h
          exact .subscript start base index rfl ((root?_eq_some_iff base id).mp hroot)
      | load => simp [write?] at h
      | delete => simp [write?] at h
  | _ => simp [write?] at h

/-- The writes of nodes, but for some, come each from a node of its own. -/
theorem forall₂_writesAt (lineOf : α → Nat) (keeps : α × String → Bool) (es : List (Expr α)) :
    ∃ sites, sites.Sublist es ∧ List.Forall₂ (fun write => WritesAt lineOf write.1 write.2)
      (((es.filterMap write?).filter keeps).map fun write => (lineOf write.1, write.2)) sites := by
  induction es with
  | nil => exact ⟨[], .slnil, .nil⟩
  | cons e rest ih =>
      obtain ⟨sites, hsites, hmatch⟩ := ih
      cases hwrite : e.write? with
      | none =>
          rw [List.filterMap_cons_none hwrite]
          exact ⟨sites, hsites.cons e, hmatch⟩
      | some write =>
          rw [List.filterMap_cons_some hwrite]
          by_cases hkeeps : keeps write = true
          · rw [List.filter_cons_of_pos hkeeps, List.map_cons]
            exact ⟨e :: sites, hsites.cons_cons e, .cons (writesAt_of_write? lineOf hwrite) hmatch⟩
          · rw [List.filter_cons_of_neg hkeeps]
            exact ⟨sites, hsites.cons e, hmatch⟩

end Expr

namespace Module

/-- The writes of a program come each from a visible node of its own. -/
theorem writes_sites (lineOf : α → Nat) (program : Module α) :
    ∃ sites, sites.Sublist program.visible ∧
      List.Forall₂ (fun write => Expr.WritesAt lineOf write.1 write.2)
        (program.writes.map fun write => (lineOf write.1, write.2)) sites := by
  rw [program.writes_eq]
  exact Expr.forall₂_writesAt lineOf _ program.visible

end Module

end Stepwise.Grammar

namespace Stepwise.Writes

namespace WriteMap

/-- The writes of a map, each with its line, in the order in which the map
lists them. -/
def pairs (m : WriteMap) : List (Nat × String) :=
  m.entries.flatMap fun entry => entry.2.map fun name => (entry.1, name)

theorem pairs_record (m : WriteMap) (line : Nat) (name : String) :
    (m.record line name).pairs.Perm ((line, name) :: m.pairs) := by
  unfold record pairs
  induction m.entries with
  | nil => simp [insert]
  | cons head rest ih =>
      obtain ⟨n, names⟩ := head
      unfold insert
      split
      · exact List.Perm.refl _
      · split
        · next heq =>
            subst heq
            simp only [List.flatMap_cons, List.map_append, List.map_cons, List.map_nil,
              List.append_assoc, List.singleton_append]
            exact List.perm_middle
        · have hrest := ih.append_left (names.map fun name => (n, name))
          exact hrest.trans List.perm_middle

/-- A map has the writes that were recorded, each as often as it was. -/
theorem pairs_perm (writes : List (Nat × String)) : (ofList writes).pairs.Perm writes := by
  induction writes using List.reverseRecOn with
  | nil => exact List.Perm.refl _
  | append_singleton writes write ih =>
      rw [ofList_concat]
      have hrecord := pairs_record (ofList writes) write.1 write.2
      exact (hrecord.trans (ih.cons write)).trans (List.perm_append_singleton write writes).symm

end WriteMap

open Stepwise.Grammar Stepwise.Source Stepwise.Text

variable {parser : Parser} {s : Source}

/-- Whether the writes of a map come from a program: they are matched one to
one with nodes of the program, of which no two are the same. -/
structure ComeFrom (s : Source) (program : Module (Fin (byteLength s.toText)))
    (m : WriteMap) : Prop where
  sites : ∃ sites, List.Subperm sites program.nodes ∧
    List.Forall₂ (fun write => Expr.WritesAt (lineAt s) write.1 write.2) m.pairs sites
  line_lt : ∀ write ∈ m.pairs, write.1 < max 1 s.length
  ne_reservedName : ∀ write ∈ m.pairs, write.2 ≠ reservedName

/-- The map of a program has the writes of its tree, on the lines of their
places. -/
theorem mem_pairs_writesOf_iff {program : Module (Fin (byteLength s.toText))}
    {write : Nat × String} :
    write ∈ (writesOf s program).pairs ↔
      ∃ place, (place, write.2) ∈ program.writes ∧ lineIn s place.val = write.1 := by
  rw [writesOf, ofModule, (WriteMap.pairs_perm _).mem_iff, List.mem_map]
  constructor
  · rintro ⟨⟨place, id⟩, hwrite, rfl⟩
    exact ⟨place, hwrite, rfl⟩
  · rintro ⟨place, hwrite, hline⟩
    exact ⟨(place, write.2), hwrite, Prod.ext hline rfl⟩

theorem mem_pairs_writesOf {program : Module (Fin (byteLength s.toText))} {write : Nat × String}
    (h : write ∈ (writesOf s program).pairs) :
    ∃ place, lineAt s place = write.1 ∧ write.2 ≠ reservedName := by
  obtain ⟨place, hwrite, hline⟩ := mem_pairs_writesOf_iff.mp h
  rw [Module.writes] at hwrite
  have hid := (List.mem_filter.mp hwrite).2
  exact ⟨place, (lineIn_eq s place).symm.trans hline, by simpa using hid⟩

theorem comeFrom_writesOf (h : s.IsSplit) (program : Module (Fin (byteLength s.toText))) :
    ComeFrom s program (writesOf s program) := by
  refine ⟨?_, ?_, ?_⟩
  · obtain ⟨sites, hsites, hmatch⟩ := program.writes_sites (lineAt s)
    have hline : (fun place => lineIn s place.val) = lineAt s := funext (lineIn_eq s)
    have hperm : (writesOf s program).pairs.Perm
        (program.writes.map fun write => (lineAt s write.1, write.2)) := by
      rw [writesOf, hline, ofModule]
      exact WriteMap.pairs_perm _
    obtain ⟨ordered, hordered, hsame⟩ := List.perm_comp_forall₂ hperm hmatch
    have hvisible : program.visible.Subperm program.nodes :=
      ((List.sublist_append_left _ _).subperm).trans program.nodes_perm.symm.subperm
    exact ⟨ordered, hsame.subperm.trans (hsites.subperm.trans hvisible), hordered⟩
  · intro write hwrite
    obtain ⟨place, hline, -⟩ := mem_pairs_writesOf hwrite
    rw [← hline]
    exact lineFeedsBefore_lt h place.isLt
  · intro write hwrite
    obtain ⟨-, -, hid⟩ := mem_pairs_writesOf hwrite
    exact hid

theorem isSplit_load (settings : Artifact.Settings) (text : List Char) :
    (settings.load text).IsSplit := by
  unfold Artifact.Settings.load
  split
  · exact isSplit_prepare text
  · exact isSplit_ofText text

/-- The analysis of a program that parses succeeds, and all writes that it finds
come from the tree of the program. In general they come from the tree of the
program that is left when certain lines have been emptied. -/
theorem writes_matched (parser : Parser) (settings : Artifact.Settings) (text : List Char) :
    (∀ program, parser (settings.load text).toText = .ok program →
      ∃ c, collectWith parser (settings.load text) = .ok c ∧ c.repaired = [] ∧
        ComeFrom (settings.load text) program c.writes) ∧
    ∀ c, collectWith parser (settings.load text) = .ok c →
      ∃ program, parser ((settings.load text).blankLines c.repaired).toText = .ok program ∧
        ComeFrom ((settings.load text).blankLines c.repaired) program c.writes := by
  have hsplit := isSplit_load settings text
  constructor
  · intro program hparses
    exact ⟨_, collectWith_of_ok hparses, rfl, comeFrom_writesOf hsplit program⟩
  · intro c hcollect
    obtain ⟨-, program, hparses, hwrites⟩ := (collectWith_eq_ok_iff parser _ c).mp hcollect
    refine ⟨program, hparses, ?_⟩
    rw [← hwrites]
    exact comeFrom_writesOf (isSplit_blankLines hsplit c.repaired) program

/-- Uses of names that store, read, delete and declare. -/
def mixedUses : List Char :=
  "import a\ndef f(b): b.c = d[e], *g.h[i][j] = k\ndel d[e], b\n".toList

theorem writes_matched_mixedUses : ∃ program,
    Grammar.parse (Artifact.Settings.standard.load mixedUses).toText = .ok program ∧
      ∀ wording, ∃ c, collect wording (Artifact.Settings.standard.load mixedUses) = .ok c ∧
        ComeFrom (Artifact.Settings.standard.load mixedUses) program c.writes ∧
        c.writes.pairs = [(1, "d"), (1, "g")] := by
  have hwrites : (Grammar.parse
      (Artifact.Settings.standard.load mixedUses).toText).toOption.map (fun program =>
        (writesOf (Artifact.Settings.standard.load mixedUses) program).pairs) =
          some [(1, "d"), (1, "g")] := by decide +kernel
  obtain ⟨program, hprogram, hpairs⟩ := Option.map_eq_some_iff.mp hwrites
  have hparse := eq_ok_of_toOption hprogram
  refine ⟨program, hparse, fun wording => ?_⟩
  have hparser := Parser.ofGrammar_of_ok hparse wording
  obtain ⟨c, hcollect, -, hcome⟩ :=
    (writes_matched (.ofGrammar wording) .standard mixedUses).1 program hparser
  obtain rfl := Except.ok.inj (hcollect.symm.trans (collectWith_of_ok hparser))
  exact ⟨_, hcollect, hcome, hpairs⟩

end Stepwise.Writes
