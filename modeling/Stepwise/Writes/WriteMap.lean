/-!
# Writes by line

Which names each line writes. Lines come in rising order, and the names of a
line in the order in which they were recorded; a line without writes has no
entry.
-/

namespace Stepwise.Writes

/-- The names that lines write. -/
structure WriteMap where
  entries : List (Nat × List String)
  deriving DecidableEq

namespace WriteMap

/-- No writes. -/
def empty : WriteMap := ⟨[]⟩

/-- Entries with one more name on a line. -/
def insert (line : Nat) (name : String) :
    List (Nat × List String) → List (Nat × List String)
  | [] => [(line, [name])]
  | (n, names) :: rest =>
      if line < n then (line, [name]) :: (n, names) :: rest
      else if line = n then (n, names ++ [name]) :: rest
      else (n, names) :: insert line name rest

/-- One more write. -/
def record (m : WriteMap) (line : Nat) (name : String) : WriteMap :=
  ⟨insert line name m.entries⟩

/-- The names that a line writes. -/
def at_ (m : WriteMap) (line : Nat) : List String :=
  (m.entries.lookup line).getD []

/-- Whether a line writes anything. -/
def containsLine (m : WriteMap) (line : Nat) : Bool :=
  m.entries.any fun entry => entry.1 == line

/-- The number of lines that write something. -/
def length (m : WriteMap) : Nat := m.entries.length

/-- Whether there are no writes. -/
def isEmpty (m : WriteMap) : Bool := m.entries.isEmpty

/-- The number of writes on all lines. -/
def writeCount (m : WriteMap) : Nat := (m.entries.flatMap fun entry => entry.2).length

/-- The map of a list of writes. -/
def ofList (writes : List (Nat × String)) : WriteMap :=
  writes.foldl (fun m write => m.record write.1 write.2) empty

end WriteMap

end Stepwise.Writes
