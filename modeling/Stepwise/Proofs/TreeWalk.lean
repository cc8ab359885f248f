import Mathlib.Data.List.Basic
import Stepwise.Grammar.Tree

/-!
# Walks over syntax trees

A walk lists the expressions of a tree, each in front of its parts. It is told
which expressions to enter, and finds no parts in the others. What it finds by
entering everything are the nodes of the tree.

A subscript that is assigned to can be treated as a whole. What is inside of it
is then covered, and a walk that does not enter such subscripts finds the
visible nodes. Induction is on the parts of an expression, so that none of the
lemmas on walks needs a case for each kind of expression.

## Main results

* `part_induction`: induction on parts.
* `reached_eq`: what a walk finds, from what it finds in the parts.
* `nodes_perm`: a node is either visible or hidden.
* `mem_hidden_iff`: the hidden nodes are all those inside of such subscripts.
-/

namespace Stepwise.Grammar

variable {α : Type}

/-- The parts of a clause of a comprehension, in the order in which they are
evaluated. -/
def ForClause.parts : ForClause α → List (Expr α)
  | .mk target iterable conditions => iterable :: target :: conditions

namespace Expr

/-- The parts of an expression, in the order in which they are evaluated. -/
def parts : Expr α → List (Expr α)
  | name .. | atom .. => []
  | member _ base _ _ => [base]
  | subscript _ base index _ => [base, index]
  | starred _ value _ => [value]
  | sequence _ _ items _ => items
  | operation _ _ operands => operands
  | named _ target value => [value, target]
  | conditional _ body test orelse => [test, body, orelse]
  | lambda _ defaults body => defaults ++ [body]
  | call _ callee positional keywords => callee :: (positional ++ keywords)
  | comprehension _ results clauses => clauses.flatMap ForClause.parts ++ results

/-- Whether an expression is a subscript that is assigned to. -/
def isSubscriptTarget : Expr α → Bool
  | subscript _ _ _ .store => true
  | _ => false

/-- An expression in front of what is inside of it, if it is entered. -/
def inFront (enters : Expr α → Bool) (e : Expr α) (inside : List (Expr α)) : List (Expr α) :=
  e :: if enters e then inside else []

mutual

/-- The expressions that a walk finds, each in front of its parts. -/
def reached (enters : Expr α → Bool) : Expr α → List (Expr α)
  | name start id context => [name start id context]
  | member start base field context =>
      inFront enters (member start base field context) (reached enters base)
  | subscript start base index context =>
      inFront enters (subscript start base index context)
        (reached enters base ++ reached enters index)
  | starred start value context =>
      inFront enters (starred start value context) (reached enters value)
  | sequence start shape items context =>
      inFront enters (sequence start shape items context) (reachedAll enters items)
  | atom start value => [atom start value]
  | operation start class_ operands =>
      inFront enters (operation start class_ operands) (reachedAll enters operands)
  | named start target value =>
      inFront enters (named start target value) (reached enters value ++ reached enters target)
  | conditional start body test orelse =>
      inFront enters (conditional start body test orelse)
        (reached enters test ++ reached enters body ++ reached enters orelse)
  | lambda start defaults body =>
      inFront enters (lambda start defaults body)
        (reachedAll enters defaults ++ reached enters body)
  | call start callee positional keywords =>
      inFront enters (call start callee positional keywords)
        (reached enters callee ++ reachedAll enters positional ++ reachedAll enters keywords)
  | comprehension start results clauses =>
      inFront enters (comprehension start results clauses)
        (clauseReachedAll enters clauses ++ reachedAll enters results)

/-- The expressions that a walk finds in several expressions. -/
def reachedAll (enters : Expr α → Bool) : List (Expr α) → List (Expr α)
  | [] => []
  | e :: rest => reached enters e ++ reachedAll enters rest

/-- The expressions that a walk finds in the clauses of a comprehension. -/
def clauseReachedAll (enters : Expr α → Bool) : List (ForClause α) → List (Expr α)
  | [] => []
  | .mk target iterable conditions :: rest =>
      reached enters iterable ++ reached enters target ++ reachedAll enters conditions ++
        clauseReachedAll enters rest

end

/-- An expression and all that it is made of. -/
def nodes (e : Expr α) : List (Expr α) := reached (fun _ => true) e

/-- The nodes of an expression that are not inside of a subscript that is
assigned to. -/
def visible (e : Expr α) : List (Expr α) := reached (fun e => !e.isSubscriptTarget) e

/-- The nodes inside of an expression that is a subscript that is assigned to. -/
def covered (e : Expr α) : List (Expr α) :=
  if e.isSubscriptTarget then e.parts.flatMap nodes else []

/-! ## Induction on parts -/

mutual

/-- Induction on the parts of an expression. -/
theorem part_induction {P : Expr α → Prop} (step : ∀ e, (∀ part ∈ e.parts, P part) → P e) :
    (e : Expr α) → P e
  | name _ _ _ | atom _ _ => step _ (by simp [parts])
  | member _ base _ _ => step _ (by simpa [parts] using part_induction step base)
  | subscript _ base index _ =>
      step _ (by simpa [parts] using ⟨part_induction step base, part_induction step index⟩)
  | starred _ value _ => step _ (by simpa [parts] using part_induction step value)
  | sequence _ _ items _ => step _ (part_inductionAll step items)
  | operation _ _ operands => step _ (part_inductionAll step operands)
  | named _ target value =>
      step _ (by simpa [parts] using ⟨part_induction step value, part_induction step target⟩)
  | conditional _ body test orelse =>
      step _ (by simpa [parts] using
        ⟨part_induction step test, part_induction step body, part_induction step orelse⟩)
  | lambda _ defaults body =>
      step _ (List.forall_mem_append.mpr
        ⟨part_inductionAll step defaults, by simpa using part_induction step body⟩)
  | call _ callee positional keywords =>
      step _ (List.forall_mem_cons.mpr
        ⟨part_induction step callee, List.forall_mem_append.mpr
          ⟨part_inductionAll step positional, part_inductionAll step keywords⟩⟩)
  | comprehension _ results clauses =>
      step _ (List.forall_mem_append.mpr
        ⟨part_inductionClauses step clauses, part_inductionAll step results⟩)

private theorem part_inductionAll {P : Expr α → Prop}
    (step : ∀ e, (∀ part ∈ e.parts, P part) → P e) : (es : List (Expr α)) → ∀ e ∈ es, P e
  | [] => by simp
  | e :: rest =>
      List.forall_mem_cons.mpr ⟨part_induction step e, part_inductionAll step rest⟩

private theorem part_inductionClauses {P : Expr α → Prop}
    (step : ∀ e, (∀ part ∈ e.parts, P part) → P e) :
    (clauses : List (ForClause α)) → ∀ e ∈ clauses.flatMap ForClause.parts, P e
  | [] => by simp
  | .mk target iterable conditions :: rest =>
      List.forall_mem_append.mpr
        ⟨List.forall_mem_cons.mpr
          ⟨part_induction step iterable, List.forall_mem_cons.mpr
            ⟨part_induction step target, part_inductionAll step conditions⟩⟩,
          part_inductionClauses step rest⟩

end

/-! ## What a walk finds -/

theorem reachedAll_eq (enters : Expr α → Bool) (es : List (Expr α)) :
    reachedAll enters es = es.flatMap (reached enters) := by
  induction es with
  | nil => rw [reachedAll, List.flatMap_nil]
  | cons e rest ih => rw [reachedAll, ih, List.flatMap_cons]

theorem clauseReachedAll_eq (enters : Expr α → Bool) (clauses : List (ForClause α)) :
    clauseReachedAll enters clauses =
      (clauses.flatMap ForClause.parts).flatMap (reached enters) := by
  induction clauses with
  | nil => rw [clauseReachedAll, List.flatMap_nil, List.flatMap_nil]
  | cons clause rest ih =>
      obtain ⟨target, iterable, conditions⟩ := clause
      simp [clauseReachedAll, ih, reachedAll_eq, ForClause.parts]

/-- A walk finds an expression, and what it finds in the parts, if it enters. -/
theorem reached_eq (enters : Expr α → Bool) (e : Expr α) :
    reached enters e = inFront enters e (e.parts.flatMap (reached enters)) := by
  cases e with
  | name | atom => simp [reached, parts, inFront]
  | _ => simp [reached, parts, reachedAll_eq, clauseReachedAll_eq]

theorem nodes_eq (e : Expr α) : nodes e = e :: e.parts.flatMap nodes :=
  reached_eq _ e

theorem visible_of_isSubscriptTarget {e : Expr α} (h : e.isSubscriptTarget = true) :
    visible e = [e] := by
  rw [visible, reached_eq, inFront, h]
  rfl

theorem visible_of_not_isSubscriptTarget {e : Expr α} (h : e.isSubscriptTarget = false) :
    visible e = e :: e.parts.flatMap visible := by
  rw [visible, reached_eq, inFront, h]
  rfl

theorem covered_of_isSubscriptTarget {e : Expr α} (h : e.isSubscriptTarget = true) :
    covered e = e.parts.flatMap nodes := if_pos h

theorem covered_of_not_isSubscriptTarget {e : Expr α} (h : e.isSubscriptTarget = false) :
    covered e = [] := by
  rw [covered, h]
  rfl

/-! ## Visible and hidden nodes -/

/-- Whether nodes are those that are shown together with those that the shown
ones cover. -/
def Splits (all shown : List (Expr α)) : Prop := all.Perm (shown ++ shown.flatMap covered)

theorem Splits.append {all shown all' shown' : List (Expr α)} (h : Splits all shown)
    (h' : Splits all' shown') : Splits (all ++ all') (shown ++ shown') := by
  have hswap := (List.perm_append_comm_assoc (shown.flatMap covered) shown'
    (shown'.flatMap covered)).append_left shown
  have hboth := List.Perm.append h h'
  rw [List.append_assoc] at hboth
  rw [Splits, List.flatMap_append, List.append_assoc]
  exact hboth.trans hswap

theorem Splits.flatMap {es : List (Expr α)} (h : ∀ e ∈ es, Splits (nodes e) (visible e)) :
    Splits (es.flatMap nodes) (es.flatMap visible) := by
  induction es with
  | nil => exact List.Perm.nil
  | cons e rest ih =>
      obtain ⟨he, hrest⟩ := List.forall_mem_cons.mp h
      exact he.append (ih hrest)

/-- Both walks go on outside of a subscript that is assigned to, and inside of
it only one of them does. -/
theorem splits_nodes (e : Expr α) : Splits (nodes e) (visible e) := by
  induction e using part_induction with
  | step e ih =>
      rw [nodes_eq]
      cases htarget : e.isSubscriptTarget with
      | true =>
          rw [visible_of_isSubscriptTarget htarget, Splits, List.flatMap_singleton,
            covered_of_isSubscriptTarget htarget]
          exact List.Perm.refl _
      | false =>
          rw [visible_of_not_isSubscriptTarget htarget, Splits, List.flatMap_cons,
            covered_of_not_isSubscriptTarget htarget]
          exact (Splits.flatMap ih).cons e

/-! ## Nodes of nodes -/

/-- Whether the nodes of expressions are among the expressions. -/
def IsClosed (es : List (Expr α)) : Prop := ∀ e ∈ es, nodes e ⊆ es

theorem IsClosed.flatMap {es : List (Expr α)} (h : ∀ e ∈ es, IsClosed (nodes e)) :
    IsClosed (es.flatMap nodes) := by
  intro inner hinner
  obtain ⟨e, he, hnode⟩ := List.mem_flatMap.mp hinner
  exact fun _ hmem => List.mem_flatMap.mpr ⟨e, he, h e he inner hnode hmem⟩

/-- The nodes of a node are nodes of the same expression. -/
theorem isClosed_nodes (e : Expr α) : IsClosed (nodes e) := by
  induction e using part_induction with
  | step e ih =>
      intro inner hinner
      rw [nodes_eq] at hinner
      rcases List.mem_cons.mp hinner with rfl | hpart
      · exact List.Subset.refl _
      · rw [nodes_eq e]
        exact List.Subset.trans (IsClosed.flatMap ih inner hpart) (List.subset_cons_self e _)

theorem isClosed_covered (e : Expr α) : IsClosed (covered e) := by
  unfold covered
  split
  · exact IsClosed.flatMap fun part _ => isClosed_nodes part
  · exact fun _ h => nomatch h

theorem covered_subset (e : Expr α) : covered e ⊆ nodes e := by
  unfold covered
  split
  · rw [nodes_eq e]
    exact List.subset_cons_self e _
  · exact List.nil_subset _

end Expr

/-! ## Programs -/

mutual

/-- The expressions that stand in a statement, those of its suites included. -/
def Stmt.expressions : Stmt α → List (Expr α)
  | .simple parts => parts
  | .assign targets value => targets ++ [value]
  | .update target value => [target, value]
  | .annotated target annotation value => target :: annotation :: value.toList
  | .alias target parameters value => value :: (parameters ++ [target])
  | .forLoop target iterable body orelse =>
      target :: iterable :: (Stmt.expressionsAll body ++ Stmt.expressionsAll orelse)
  | .function decorators types defaults annotations body =>
      decorators ++ types ++ defaults ++ annotations ++ Stmt.expressionsAll body
  | .class_ decorators types positional keywords body =>
      decorators ++ types ++ positional ++ keywords ++ Stmt.expressionsAll body
  | .compound clauses => Stmt.clauseExpressionsAll clauses

/-- The expressions that stand in statements. -/
def Stmt.expressionsAll : List (Stmt α) → List (Expr α)
  | [] => []
  | s :: rest => s.expressions ++ Stmt.expressionsAll rest

/-- The expressions that stand in the clauses of a statement. -/
def Stmt.clauseExpressionsAll : List (Clause α) → List (Expr α)
  | [] => []
  | .mk header body :: rest =>
      header ++ Stmt.expressionsAll body ++ Stmt.clauseExpressionsAll rest

end

namespace Module

variable (program : Module α)

/-- The nodes of the expressions of a program. -/
def nodes : List (Expr α) := (Stmt.expressionsAll program).flatMap Expr.nodes

/-- The nodes of a program that are not inside of a subscript that is assigned
to. -/
def visible : List (Expr α) := (Stmt.expressionsAll program).flatMap Expr.visible

/-- The nodes of a program that a visible node covers. -/
def hidden : List (Expr α) := (visible program).flatMap Expr.covered

/-- A node of a program is either visible or hidden. -/
theorem nodes_perm : program.nodes.Perm (program.visible ++ program.hidden) :=
  Expr.Splits.flatMap fun e _ => e.splits_nodes

theorem countP_nodes (p : Expr α → Bool) :
    program.nodes.countP p = program.visible.countP p + program.hidden.countP p := by
  rw [program.nodes_perm.countP_eq p, List.countP_append]

/-- A node is hidden if it is inside of any subscript that is assigned to, also
of one that is hidden itself. -/
theorem mem_hidden_iff (e : Expr α) :
    e ∈ program.hidden ↔ ∃ target ∈ program.nodes, e ∈ target.covered := by
  constructor
  · intro he
    obtain ⟨target, htarget, hcovered⟩ := List.mem_flatMap.mp he
    have hnode := program.nodes_perm.mem_iff.mpr (List.mem_append_left _ htarget)
    exact ⟨target, hnode, hcovered⟩
  · rintro ⟨target, htarget, he⟩
    rcases List.mem_append.mp (program.nodes_perm.mem_iff.mp htarget) with hvisible | hhidden
    · exact List.mem_flatMap.mpr ⟨target, hvisible, he⟩
    · obtain ⟨outer, houter, hinside⟩ := List.mem_flatMap.mp hhidden
      have hcovered := outer.isClosed_covered target hinside (target.covered_subset he)
      exact List.mem_flatMap.mpr ⟨outer, houter, hcovered⟩

end Module

end Stepwise.Grammar
