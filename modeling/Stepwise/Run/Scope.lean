/-!
# Scopes

What kind of code a call runs, told from the name of its code.
-/

namespace Stepwise.Run

/-- What kind of code a call runs. -/
inductive Scope where
  /-- The program itself. -/
  | module
  | function
  /-- A comprehension or a generator expression. -/
  | comprehension
  deriving DecidableEq

/-- The names of code that belongs to a comprehension or generator expression. -/
def Scope.comprehensionNames : List String :=
  ["<listcomp>", "<dictcomp>", "<setcomp>", "<genexpr>"]

/-- The scope of code with a certain name. -/
def Scope.ofName (name : String) : Scope :=
  if name = "<module>" then module
  else if name ∈ comprehensionNames then comprehension
  else function

end Stepwise.Run
