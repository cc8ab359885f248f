import Stepwise.Json.Write
import Stepwise.Text.Digits
import Stepwise.Writes.WriteMap

/-!
# Writes in JSON

An object with a member for every line that writes something, from the lowest
line to the highest. A line is named by its number.
-/

namespace Stepwise.Writes.WriteMap

/-- Writes in JSON. -/
def toJson (m : WriteMap) : Json :=
  .record (m.entries.map fun entry =>
    (String.ofList (Text.decimal entry.1), .array (entry.2.map Json.text)))

/-- Writes as JSON text. -/
def toText (m : WriteMap) : List Char := m.toJson.write

end Stepwise.Writes.WriteMap
