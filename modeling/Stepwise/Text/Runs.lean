/-!
# Runs of code points

A character class of the Unicode standard is kept as the list of its runs of
consecutive code points. Membership is a walk over that list: the classes are
asked about single characters of short texts, and a walk is easier to reason
about than a search by halving.
-/

namespace Stepwise.Text

/-- The ends of a run of consecutive code points, both included. -/
abbrev Run := Nat × Nat

/-- Whether a character lies in one of the runs. -/
def inRuns (runs : List Run) (c : Char) : Bool :=
  runs.any fun run => decide (run.1 ≤ c.toNat) && decide (c.toNat ≤ run.2)

end Stepwise.Text
