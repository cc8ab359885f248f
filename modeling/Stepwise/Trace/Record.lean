import Stepwise.Json.Basic
import Stepwise.Ordered
import Stepwise.Text.Digits

/-!
# Records of a trace

A trace keeps its records by place: a line that is about to run, or a line
from which a call returns. There are steps, which show the variables of a call
at one moment, and marks on the lines of a loop body for the beginning and the
end of the loop. All of them carry the loops that were active, from the
outermost to the innermost, each by its header and a counter of iterations.

In JSON a record is one flat object, where the variables of a step stand among
its other members under their own names.
-/

namespace Stepwise.Trace

open Stepwise.Text

/-- A place in a trace. Lines are numbered from zero. -/
inductive Key where
  /-- A statement on the line is about to run. -/
  | line (n : Nat)
  /-- A call is about to return from the line. -/
  | leave (n : Nat)
  deriving DecidableEq

namespace Key

/-- The line of a place. -/
def lineNumber : Key → Nat
  | line n | leave n => n

/-- Whether a call returns. -/
def isLeave : Key → Bool
  | leave _ => true
  | line _ => false

/-- A place as a name. -/
def name : Key → List Char
  | line n => decimal n
  | leave n => 'R' :: decimal n

/-- A place in JSON. -/
def toJson : Key → Json
  | line n => .nat n
  | leave n => .text (String.ofList (leave n).name)

end Key

/-- The active loops, outermost first. -/
structure Loops where
  iterations : List Nat
  /-- The lines of the headers. -/
  headers : List Nat
  deriving DecidableEq

/-- What is shown of a call at one moment. -/
structure Step where
  /-- The number of steps before this one. -/
  time : Nat
  key : Key
  loops : Loops
  /-- The texts of the variables, in the order in which they were bound. -/
  bindings : Ordered String (List Char)
  /-- The place of the step before. -/
  previous : Option Key
  /-- The place of the step behind. -/
  next : Option Key
  /-- The text of the value that is returned. -/
  returned : Option (List Char)

inductive Record where
  | step (s : Step)
  /-- A loop that has the line in its body begins. -/
  | beginLoop (loops : Loops)
  /-- A loop that has the line in its body ends. -/
  | endLoop (loops : Loops)

namespace Record

/-- The step that a record is, if it is one. -/
def step? : Record → Option Step
  | step s => some s
  | _ => none

/-- Whether a record marks the beginning or end of a loop. -/
def isMark : Record → Bool
  | step _ => false
  | _ => true

/-- The loops that were active. -/
def loops : Record → Loops
  | step s => s.loops
  | beginLoop loops | endLoop loops => loops

/-- The record with its step, if it is one, changed. -/
def mapStep (f : Step → Step) : Record → Record
  | step s => step (f s)
  | other => other

end Record

/-! ## JSON -/

/-- Numbers with commas between them. -/
def joined (numbers : List Nat) : List Char := List.intercalate [','] (numbers.map decimal)

/-- A text in JSON. -/
def textItem (t : List Char) : Json := .text (String.ofList t)

/-- The members for the active loops. -/
def Loops.members (loops : Loops) : List (String × Json) :=
  [("#", textItem (joined loops.iterations)), ("$", textItem (joined loops.headers))]

/-- A mark in JSON. -/
def markToJson (name : String) (loops : Loops) : Json :=
  .record ((name, textItem (joined loops.iterations)) :: loops.members)

/-- A member that may be left out. -/
def optional (name : String) (value : Option Json) : List (String × Json) :=
  (value.map fun j => (name, j)).toList

/-- A step in JSON. -/
def Step.toJson (s : Step) : Json :=
  .record (("time", .nat s.time) :: s.loops.members ++
    (s.bindings.entries.map fun entry => (entry.1, textItem entry.2)) ++
    ("lineno", s.key.toJson) :: optional "prev_lineno" (s.previous.map Key.toJson) ++
    optional "next_lineno" (s.next.map Key.toJson) ++
    optional "rv" (s.returned.map textItem))

/-- A record in JSON. -/
def Record.toJson : Record → Json
  | step s => s.toJson
  | beginLoop loops => markToJson "begin_loop" loops
  | endLoop loops => markToJson "end_loop" loops

end Stepwise.Trace
