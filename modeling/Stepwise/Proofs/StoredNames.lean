import Stepwise.Proofs.LineNumber
import Stepwise.Proofs.RecordedWrites
import Stepwise.Proofs.Repairs
import Stepwise.Proofs.TreeWalk

/-!
# Names that are stored and names that are recorded

A name can be stored wherever an expression can stand: by a named expression,
or by a comprehension. The walk that collects writes finds every such place but
one. It does not look inside of a subscript that is assigned to, neither at the
container nor at the index, and a name that is stored there is not recorded.

## Main results

* `writes_eq`: a program writes what its visible nodes write.
* `names_recorded`: what is recorded of a program that parses, and when that is
  every name that it stores.
-/

namespace Stepwise.Grammar

variable {α : Type}

namespace Expr

/-- Whether an expression is a certain name that is stored, on a certain line. -/
def storesName (lineOf : α → Nat) (line : Nat) (id : String) : Expr α → Bool
  | name start n .store => lineOf start == line && n == id
  | _ => false

/-- Whether an expression is a subscript that is assigned to, which starts on a
certain line and has a certain name at the bottom of its container. -/
def storesInto (lineOf : α → Nat) (line : Nat) (id : String) : Expr α → Bool
  | subscript start base _ .store => lineOf start == line && root? base == some id
  | _ => false

/-! ## Writes of nodes -/

theorem writesAll_eq (es : List (Expr α)) : writesAll es = es.flatMap writes := by
  induction es with
  | nil => rw [writesAll, List.flatMap_nil]
  | cons e rest ih => rw [writesAll, ih, List.flatMap_cons]

theorem clauseWritesAll_eq (clauses : List (ForClause α)) :
    clauseWritesAll clauses = (clauses.flatMap ForClause.parts).flatMap writes := by
  induction clauses with
  | nil => rw [clauseWritesAll, List.flatMap_nil, List.flatMap_nil]
  | cons clause rest ih =>
      obtain ⟨target, iterable, conditions⟩ := clause
      simp [clauseWritesAll, ih, writesAll_eq, ForClause.parts]

/-- An expression writes what it writes itself and what its parts write, and a
subscript that is assigned to only the former. -/
theorem writes_eq_parts (e : Expr α) : writes e =
    (write? e).toList ++ if e.isSubscriptTarget then [] else e.parts.flatMap writes := by
  cases e with
  | subscript start base index context =>
      cases context <;> simp [writes, write?, parts, isSubscriptTarget]
  | _ => simp [writes, write?, parts, isSubscriptTarget, writesAll_eq, clauseWritesAll_eq]

/-- An expression writes what its visible nodes write. -/
theorem writes_eq (e : Expr α) : writes e = (visible e).filterMap write? := by
  induction e using part_induction with
  | step e ih =>
      rw [writes_eq_parts, List.filterMap_eq_flatMap_toList]
      cases htarget : e.isSubscriptTarget with
      | true =>
          rw [visible_of_isSubscriptTarget htarget, List.flatMap_singleton, if_pos rfl,
            List.append_nil]
      | false =>
          have hparts : e.parts.flatMap writes =
              (e.parts.flatMap visible).flatMap fun node => (write? node).toList := by
            rw [List.flatMap_assoc]
            refine List.flatMap_congr fun part hpart => ?_
            rw [ih part hpart, List.filterMap_eq_flatMap_toList]
          rw [visible_of_not_isSubscriptTarget htarget, List.flatMap_cons, if_neg (by decide),
            hparts]

/-- An expression writes a name on a line by storing the name, or by assigning
into a container with it, and never by both. -/
theorem countP_write (lineOf : α → Nat) (line : Nat) (id : String) (e : Expr α) :
    (write? e).toList.countP (fun write => lineOf write.1 == line && write.2 == id) =
      (if storesName lineOf line id e then 1 else 0) +
        if storesInto lineOf line id e then 1 else 0 := by
  cases e with
  | name start n context =>
      cases context <;> simp [write?, storesName, storesInto, List.countP_singleton]
  | subscript start base index context =>
      cases context <;> cases hroot : root? base <;>
        simp [write?, storesName, storesInto, hroot, List.countP_singleton]
  | _ => rfl

theorem countP_filterMap_write (lineOf : α → Nat) (line : Nat) (id : String)
    (es : List (Expr α)) :
    (es.filterMap write?).countP (fun write => lineOf write.1 == line && write.2 == id) =
      es.countP (storesName lineOf line id) + es.countP (storesInto lineOf line id) := by
  rw [List.filterMap_eq_flatMap_toList]
  induction es with
  | nil => rfl
  | cons e rest ih =>
      rw [List.flatMap_cons, List.countP_append, countP_write, ih, List.countP_cons,
        List.countP_cons]
      omega

end Expr

/-! ## Writes of programs -/

mutual

/-- A statement writes what its expressions write. -/
theorem Stmt.writes_eq : (s : Stmt α) → s.writes = s.expressions.flatMap Expr.writes
  | .simple parts => by
      rw [Stmt.writes, Stmt.expressions, Expr.writesAll_eq]
  | .assign targets value => by
      simp [Stmt.writes, Stmt.expressions, Expr.writesAll_eq]
  | .update target value => by
      simp [Stmt.writes, Stmt.expressions]
  | .annotated target annotation value => by
      cases value <;> simp [Stmt.writes, Stmt.expressions]
  | .alias target parameters value => by
      simp [Stmt.writes, Stmt.expressions, Expr.writesAll_eq]
  | .forLoop target iterable body orelse => by
      simp [Stmt.writes, Stmt.expressions, Stmt.writesAll_eq body, Stmt.writesAll_eq orelse]
  | .function decorators types defaults annotations body => by
      simp [Stmt.writes, Stmt.expressions, Expr.writesAll_eq, Stmt.writesAll_eq body]
  | .class_ decorators types positional keywords body => by
      simp [Stmt.writes, Stmt.expressions, Expr.writesAll_eq, Stmt.writesAll_eq body]
  | .compound clauses => by
      rw [Stmt.writes, Stmt.expressions, Stmt.clauseWritesAll_eq clauses]

theorem Stmt.writesAll_eq : (ss : List (Stmt α)) →
    Stmt.writesAll ss = (Stmt.expressionsAll ss).flatMap Expr.writes
  | [] => by rw [Stmt.writesAll, Stmt.expressionsAll, List.flatMap_nil]
  | s :: rest => by
      rw [Stmt.writesAll, Stmt.expressionsAll, List.flatMap_append, Stmt.writes_eq s,
        Stmt.writesAll_eq rest]

theorem Stmt.clauseWritesAll_eq : (clauses : List (Clause α)) →
    Stmt.clauseWritesAll clauses = (Stmt.clauseExpressionsAll clauses).flatMap Expr.writes
  | [] => by rw [Stmt.clauseWritesAll, Stmt.clauseExpressionsAll, List.flatMap_nil]
  | .mk header body :: rest => by
      rw [Stmt.clauseWritesAll, Stmt.clauseExpressionsAll, List.flatMap_append,
        List.flatMap_append, Expr.writesAll_eq, Stmt.writesAll_eq body,
        Stmt.clauseWritesAll_eq rest]

end

namespace Module

variable (program : Module α)

/-- A program writes what its visible nodes write, the reserved name excepted. -/
theorem writes_eq : program.writes =
    (program.visible.filterMap Expr.write?).filter fun write => write.2 != reservedName := by
  have hexpressions : Stmt.writesAll program = program.visible.filterMap Expr.write? := by
    rw [Stmt.writesAll_eq, visible, List.filterMap_flatMap]
    exact List.flatMap_congr fun e _ => Expr.writes_eq e
  rw [writes, hexpressions]

/-- A program writes a name on a line as often as a visible node stores the
name or assigns into a container with it. -/
theorem count_writes {id : String} (h : id ≠ reservedName) (lineOf : α → Nat) (line : Nat) :
    (program.writes.map fun write => (lineOf write.1, write.2)).count (line, id) =
      program.visible.countP (Expr.storesName lineOf line id) +
        program.visible.countP (Expr.storesInto lineOf line id) := by
  rw [← Expr.countP_filterMap_write, writes_eq, List.count, List.countP_map, List.countP_filter]
  refine List.countP_congr fun write _ => ?_
  obtain ⟨place, n⟩ := write
  simp only [Function.comp, Bool.and_eq_true, beq_iff_eq, Prod.mk.injEq, bne_iff_ne]
  exact and_iff_left_of_imp fun hwrite => hwrite.2 ▸ h

end Module

end Stepwise.Grammar

namespace Stepwise.Writes

open Stepwise.Grammar Stepwise.Source Stepwise.Text

variable {parser : Parser} {s : Source}

/-- The line of a place in a program: the number of line feeds in front of it. -/
def lineAt (s : Source) (place : Fin (byteLength s.toText)) : Nat :=
  lineFeedsBefore place.val s.toText

/-- Whether a map has all names that a program stores, on the lines where they
start, and as often as they are stored there. A visible assignment into a
container counts as one more write of the name at the bottom. -/
def RecordsNames (s : Source) (program : Module (Fin (byteLength s.toText)))
    (m : WriteMap) : Prop :=
  ∀ line id, id ≠ reservedName → (m.at_ line).count id =
    program.nodes.countP (Expr.storesName (lineAt s) line id) +
      program.visible.countP (Expr.storesInto (lineAt s) line id)

/-- What a map has of a program. -/
structure IsRecordOf (s : Source) (program : Module (Fin (byteLength s.toText)))
    (m : WriteMap) : Prop where
  /-- The map has all that is visible, and nothing else. -/
  count : ∀ line id, id ≠ reservedName → (m.at_ line).count id =
    program.visible.countP (Expr.storesName (lineAt s) line id) +
      program.visible.countP (Expr.storesInto (lineAt s) line id)
  /-- It has all names exactly if none is stored inside of a subscript that is
  assigned to. -/
  recordsNames_iff : RecordsNames s program m ↔
    ∀ target ∈ program.nodes, ∀ e ∈ target.covered, ∀ place id,
      e = .name place id .store → id = reservedName

theorem lineIn_eq (s : Source) (place : Fin (byteLength s.toText)) :
    lineIn s place.val = lineAt s place :=
  LineIndex.lineOf_ofText s.toText place.val

theorem collectWith_of_ok {program : Module (Fin (byteLength s.toText))}
    (h : parser s.toText = .ok program) :
    collectWith parser s = .ok ⟨writesOf s program, []⟩ :=
  (collectWith_eq_ok_iff parser s _).mpr ⟨mends_nil parser s, program, h, rfl⟩

theorem count_at_writesOf {id : String} (h : id ≠ reservedName)
    (program : Module (Fin (byteLength s.toText))) (line : Nat) :
    ((writesOf s program).at_ line).count id =
      program.visible.countP (Expr.storesName (lineAt s) line id) +
        program.visible.countP (Expr.storesInto (lineAt s) line id) := by
  have hline : (fun place => lineIn s place.val) = lineAt s := funext (lineIn_eq s)
  rw [writesOf, hline, ofModule, WriteMap.count_at_ofList, program.count_writes h]

theorem eq_name_of_storesName {line : Nat} {id : String} {e : Expr (Fin (byteLength s.toText))}
    (h : Expr.storesName (lineAt s) line id e = true) : ∃ place, e = .name place id .store := by
  unfold Expr.storesName at h
  split at h
  case h_1 place n =>
    obtain ⟨-, rfl⟩ : lineAt s place = line ∧ n = id := by simpa using h
    exact ⟨place, rfl⟩
  case h_2 => cases h

theorem recordsNames_writesOf_iff (program : Module (Fin (byteLength s.toText))) :
    RecordsNames s program (writesOf s program) ↔
      ∀ target ∈ program.nodes, ∀ e ∈ target.covered, ∀ place id,
        e = .name place id .store → id = reservedName := by
  constructor
  · rintro hrecords target htarget e he place id rfl
    by_contra hid
    have hrecorded := hrecords (lineAt s place) id hid
    rw [count_at_writesOf hid, program.countP_nodes] at hrecorded
    have hhidden := (program.mem_hidden_iff _).mpr ⟨target, htarget, he⟩
    have hstores : Expr.storesName (lineAt s) (lineAt s place) id (.name place id .store) := by
      simp [Expr.storesName]
    have hpos := List.countP_pos_iff.mpr ⟨_, hhidden, hstores⟩
    omega
  · intro hcovered line id hid
    have hnone : program.hidden.countP (Expr.storesName (lineAt s) line id) = 0 := by
      rw [List.countP_eq_zero]
      intro e he hstores
      obtain ⟨target, htarget, hinside⟩ := (program.mem_hidden_iff e).mp he
      obtain ⟨place, hname⟩ := eq_name_of_storesName hstores
      exact hid (hcovered target htarget e hinside place id hname)
    rw [count_at_writesOf hid, program.countP_nodes, hnone, Nat.add_zero]

theorem eq_ok_of_toOption {ε β : Type} {x : Except ε β} {b : β} (h : x.toOption = some b) :
    x = .ok b := by
  cases x with
  | error e => cases h
  | ok a => exact congrArg Except.ok (Option.some.inj h)

/-- A program that parses is not repaired, and every name that it stores is
recorded once, except for those inside of a subscript that is assigned to. -/
theorem names_recorded (parser : Parser) (s : Source)
    (program : Module (Fin (byteLength s.toText))) (hparses : parser s.toText = .ok program) :
    ∃ c, collectWith parser s = .ok c ∧ c.repaired = [] ∧ IsRecordOf s program c.writes := by
  refine ⟨_, collectWith_of_ok hparses, rfl, ?_, ?_⟩
  · exact fun line id hid => count_at_writesOf hid program line
  · exact recordsNames_writesOf_iff program

/-- Targets of several kinds on two lines. -/
def mixedTargets : List Char := "a[i], b = c\nfor d in e: f = (g := d)\n".toList

theorem names_recorded_mixedTargets : ∃ program,
    Grammar.parse (ofText mixedTargets).toText = .ok program ∧
      ∀ wording, ∃ c, collect wording (ofText mixedTargets) = .ok c ∧
        IsRecordOf (ofText mixedTargets) program c.writes := by
  have hparses : (Grammar.parse (ofText mixedTargets).toText).toOption.isSome = true := by
    decide +kernel
  obtain ⟨program, hprogram⟩ := Option.isSome_iff_exists.mp hparses
  have hparse := eq_ok_of_toOption hprogram
  refine ⟨program, hparse, fun wording => ?_⟩
  obtain ⟨c, hcollect, -, hrecord⟩ :=
    names_recorded (.ofGrammar wording) _ program (Parser.ofGrammar_of_ok hparse wording)
  exact ⟨c, hcollect, hrecord⟩

/-- A name that is stored in the index of a target. -/
def namedIndex : List Char := "f()[(i := 0)] = 1\n".toList

/-- Not every name that a program stores is recorded. -/
theorem not_forall_names_recorded : ∃ program,
    Grammar.parse (ofText namedIndex).toText = .ok program ∧
      program.nodes.countP (Expr.storesName (lineAt (ofText namedIndex)) 0 "i") = 1 ∧
      ∀ wording, ∃ c, collect wording (ofText namedIndex) = .ok c ∧ c.writes.at_ 0 = [] := by
  have hstored : (Grammar.parse (ofText namedIndex).toText).toOption.map
      (fun program => (program.nodes.countP (Expr.storesName (lineAt (ofText namedIndex)) 0 "i"),
        (writesOf (ofText namedIndex) program).at_ 0)) = some (1, []) := by decide +kernel
  obtain ⟨program, hprogram, hfound⟩ := Option.map_eq_some_iff.mp hstored
  obtain ⟨hname, hnone⟩ := Prod.ext_iff.mp hfound
  have hparse := eq_ok_of_toOption hprogram
  exact ⟨program, hparse, hname, fun wording =>
    ⟨_, collectWith_of_ok (Parser.ofGrammar_of_ok hparse wording), hnone⟩⟩

end Stepwise.Writes
