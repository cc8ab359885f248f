import Stepwise.Grammar.Tree
import Stepwise.Source.Basic
import Stepwise.Writes.WriteMap

/-!
# Collecting writes

The names that a program assigns to, in the order in which it does. A name
that is written is a write of that name. Assigning to a subscript is a write
of the name at the bottom of the container, at the place where the target
starts, and nothing inside such a target is looked at. Targets come before
values, so that the writes of a line read from left to right; in all other
respects the order is that of evaluation.
-/

namespace Stepwise.Grammar

variable {α : Type}

namespace Expr

/-- The name at the bottom of a container. -/
def root? : Expr α → Option String
  | name _ id _ => some id
  | subscript _ base _ _ => root? base
  | member _ base _ _ => root? base
  | starred _ value _ => root? value
  | _ => none

/-- The write that an expression is, apart from those in its parts. -/
def write? : Expr α → Option (α × String)
  | name start id .store => some (start, id)
  | subscript start base _ .store => (root? base).map fun id => (start, id)
  | _ => none

mutual

/-- The names written by an expression, each with the place of the target. -/
def writes : Expr α → List (α × String)
  | name start id context => (write? (name start id context)).toList
  | member _ base _ _ => writes base
  | subscript start base index .store =>
      (write? (subscript start base index .store)).toList
  | subscript _ base index _ => writes base ++ writes index
  | starred _ value _ => writes value
  | sequence _ _ items _ => writesAll items
  | atom _ _ => []
  | operation _ _ operands => writesAll operands
  | named _ target value => writes value ++ writes target
  | conditional _ body test orelse => writes test ++ writes body ++ writes orelse
  | lambda _ defaults body => writesAll defaults ++ writes body
  | call _ callee positional keywords =>
      writes callee ++ writesAll positional ++ writesAll keywords
  | comprehension _ results clauses => clauseWritesAll clauses ++ writesAll results

/-- The names written by expressions, one after the other. -/
def writesAll : List (Expr α) → List (α × String)
  | [] => []
  | e :: rest => writes e ++ writesAll rest

/-- The names written by the clauses of a comprehension. -/
def clauseWritesAll : List (ForClause α) → List (α × String)
  | [] => []
  | .mk target iterable conditions :: rest =>
      writes iterable ++ writes target ++ writesAll conditions ++ clauseWritesAll rest

end

end Expr

mutual

/-- The names written by a statement. -/
def Stmt.writes : Stmt α → List (α × String)
  | .simple parts => Expr.writesAll parts
  | .assign targets value => Expr.writesAll targets ++ value.writes
  | .update target value => target.writes ++ value.writes
  | .annotated target annotation value =>
      target.writes ++ annotation.writes ++ (value.map Expr.writes).getD []
  | .alias target parameters value =>
      value.writes ++ Expr.writesAll parameters ++ target.writes
  | .forLoop target iterable body orelse =>
      target.writes ++ iterable.writes ++ Stmt.writesAll body ++ Stmt.writesAll orelse
  | .function decorators types defaults annotations body =>
      Expr.writesAll decorators ++ Expr.writesAll types ++ Expr.writesAll defaults ++
        Expr.writesAll annotations ++ Stmt.writesAll body
  | .class_ decorators types positional keywords body =>
      Expr.writesAll decorators ++ Expr.writesAll types ++ Expr.writesAll positional ++
        Expr.writesAll keywords ++ Stmt.writesAll body
  | .compound clauses => Stmt.clauseWritesAll clauses

/-- The names written by statements, one after the other. -/
def Stmt.writesAll : List (Stmt α) → List (α × String)
  | [] => []
  | s :: rest => s.writes ++ Stmt.writesAll rest

/-- The names written by the clauses of a statement. -/
def Stmt.clauseWritesAll : List (Clause α) → List (α × String)
  | [] => []
  | .mk header body :: rest =>
      Expr.writesAll header ++ Stmt.writesAll body ++ Stmt.clauseWritesAll rest

end

/-- The names written by a program, in order. The reserved name is not among
them. -/
def Module.writes (program : Module α) : List (α × String) :=
  (Stmt.writesAll program).filter fun write => write.2 != reservedName

end Stepwise.Grammar

namespace Stepwise.Writes

/-- The names written by a program, by line. -/
def ofModule {α : Type} (lineOf : α → Nat) (program : Grammar.Module α) : WriteMap :=
  .ofList (program.writes.map fun write => (lineOf write.1, write.2))

end Stepwise.Writes
