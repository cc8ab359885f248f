/-!
# Syntax trees

What a program is made of, as far as its writes are concerned. A tree keeps
every name with its place and with the part that it plays (read, written or
deleted), and the nesting of expressions and statements. Operators are kept by
class, the values of literals are not kept at all.

Expressions that are only evaluated, part by part from left to right, are
`operation`s. The other constructors are those whose parts play different
roles, or whose order of evaluation is not that of the text.

The type of places is a parameter. A tree over `Fin n` therefore speaks about
the first `n` bytes of a text and about nothing else.
-/

namespace Stepwise.Grammar

/-- The part that an expression plays in its statement. -/
inductive Context where
  | load | store | delete
  deriving DecidableEq

/-- The two displays that can be assigned to. -/
inductive Shape where
  | tuple | list
  deriving DecidableEq

/-- Expressions without parts. -/
inductive Atom where
  | constant
  | realNumber
  | imaginaryNumber
  | text
  deriving DecidableEq

/-- The classes of expressions whose parts are evaluated from left to right. -/
inductive Operation where
  | arithmetic | negation | not | boolean | comparison | await | yield | slice
  | set | dict | template
  deriving DecidableEq

mutual

/-- Expressions. `start` is where the expression starts; enclosing parentheses
are not part of it. -/
inductive Expr (α : Type) where
  | name (start : α) (id : String) (context : Context)
  | member (start : α) (base : Expr α) (field : String) (context : Context)
  | subscript (start : α) (base index : Expr α) (context : Context)
  | starred (start : α) (value : Expr α) (context : Context)
  | sequence (start : α) (shape : Shape) (items : List (Expr α)) (context : Context)
  | atom (start : α) (atom : Atom)
  | operation (start : α) (class_ : Operation) (operands : List (Expr α))
  /-- A named expression. -/
  | named (start : α) (target value : Expr α)
  | conditional (start : α) (body test orelse : Expr α)
  | lambda (start : α) (defaults : List (Expr α)) (body : Expr α)
  /-- A call; unpacked arguments stand among the others of their kind. -/
  | call (start : α) (callee : Expr α) (positional keywords : List (Expr α))
  /-- A comprehension or generator; a comprehension of a mapping has two
  results. -/
  | comprehension (start : α) (results : List (Expr α)) (clauses : List (ForClause α))

/-- One `for` of a comprehension with the conditions behind it. -/
inductive ForClause (α : Type) where
  | mk (target iterable : Expr α) (conditions : List (Expr α))

end

mutual

/-- Statements. -/
inductive Stmt (α : Type) where
  /-- A statement that evaluates expressions from left to right, or that has
  none. -/
  | simple (parts : List (Expr α))
  | assign (targets : List (Expr α)) (value : Expr α)
  | update (target value : Expr α)
  | annotated (target annotation : Expr α) (value : Option (Expr α))
  | alias (name : Expr α) (parameters : List (Expr α)) (value : Expr α)
  | forLoop (target iterable : Expr α) (body orelse : List (Stmt α))
  | function (decorators typeParameters defaults annotations : List (Expr α))
      (body : List (Stmt α))
  | class_ (decorators typeParameters positional keywords : List (Expr α))
      (body : List (Stmt α))
  /-- Any other statement with suites: the clauses of `if`, `while`, `with`,
  `try` and `match`. -/
  | compound (clauses : List (Clause α))

/-- A header, whose expressions are evaluated from left to right, and its
suite. -/
inductive Clause (α : Type) where
  | mk (header : List (Expr α)) (body : List (Stmt α))

end

/-- A program. -/
abbrev Module (α : Type) := List (Stmt α)

namespace Expr

variable {α : Type}

/-- Where an expression starts. -/
def start : Expr α → α
  | name start .. | member start .. | subscript start .. | starred start ..
  | sequence start .. | atom start .. | operation start .. | named start ..
  | conditional start .. | lambda start .. | call start ..
  | comprehension start .. => start

mutual

/-- An expression in another part. A display hands the part on to its items,
and other expressions are what they are in any part. -/
def inContext (context : Context) : Expr α → Expr α
  | name start id _ => name start id context
  | member start base field _ => member start base field context
  | subscript start base index _ => subscript start base index context
  | starred start value _ => starred start (inContext context value) context
  | sequence start shape items _ =>
      sequence start shape (inContextAll context items) context
  | e => e

/-- Expressions in another part. -/
def inContextAll (context : Context) : List (Expr α) → List (Expr α)
  | [] => []
  | e :: rest => inContext context e :: inContextAll context rest

end

mutual

/-- The start of the first part of an assignment target that cannot be
assigned to. -/
def targetDefect? : Expr α → Option α
  | name .. | member .. | subscript .. => none
  | starred _ value _ => targetDefect? value
  | sequence _ _ items _ => targetDefectAny? items
  | e => some e.start

/-- The first defect among several targets. -/
def targetDefectAny? : List (Expr α) → Option α
  | [] => none
  | e :: rest => (targetDefect? e).or (targetDefectAny? rest)

end

mutual

/-- The start of the first part of a target that cannot be deleted. -/
def deletionDefect? : Expr α → Option α
  | name .. | member .. | subscript .. => none
  | sequence _ _ items _ => deletionDefectAny? items
  | e => some e.start

/-- The first defect among several targets of a deletion. -/
def deletionDefectAny? : List (Expr α) → Option α
  | [] => none
  | e :: rest => (deletionDefect? e).or (deletionDefectAny? rest)

end

/-- Whether an expression can be the target of an annotated or augmented
assignment. -/
def isSingleTarget : Expr α → Bool
  | name .. | member .. | subscript .. => true
  | _ => false

end Expr

end Stepwise.Grammar
