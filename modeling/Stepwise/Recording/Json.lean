import Stepwise.Recording.Basic
import Stepwise.Value.Json

/-!
# Recordings in JSON

How a recording is kept as text. An event is a record with a tag that tells
what happens. Before any of its other fields is looked at, the whole event has
to be read, so damage anywhere in an event counts before a wrong shape; only
the tag itself is judged on the way.
-/

namespace Stepwise.Recording

open Stepwise.Json Stepwise.Run

/-! ## Writing -/

/-- A recorded call in JSON. -/
def Frame.toJson (frame : Frame) : Json :=
  .record [("id", .nat frame.id.toNat), ("name", .text frame.name),
    ("origin", .text frame.origin),
    ("locals", .record (frame.locals.entries.map fun entry => (entry.1, entry.2.toJson)))]

/-- A recorded event in JSON. -/
def eventToJson : Event Frame → Json
  | .line frame n =>
      .record [("event", .text "line"), ("frame", frame.toJson), ("line", .nat n.toNat)]
  | .leave frame n value =>
      .record [("event", .text "return"), ("frame", frame.toJson), ("line", .nat n.toNat),
        ("value", value.toJson)]

/-- A recording in JSON; without a digest, that field is left out. -/
def toJson (r : Recording) : Json :=
  .record ((r.digest.map fun digest => ("source_digest", .text digest)).toList ++
    [("events", .array (r.events.map eventToJson))])

/-- A recording as text. -/
def toText (r : Recording) : List Char := r.toJson.write

/-! ## Frames -/

/-- What the record of a call is called in messages. -/
def frameShape : Shape := ⟨"struct RecordedFrame", ["id", "name", "origin", "locals"]⟩

/-- The fields of the record of a call. -/
structure FrameFields where
  id : Option UInt64
  name : Option String
  origin : Option String
  locals : Option (Ordered String Value)

/-- Reads the values of local variables. -/
def readLocals : List (Option String × Json) → Result (List (String × Value))
  | [] => .ok []
  | (none, _) :: _ => .error .malformed
  | (some name, j) :: members => do
      let value ← Value.ofJson Value.nullOrEmpty j
      return (name, value) :: (← readLocals members)

/-- Reads local variables; of several values of one name the last one counts. -/
def asLocals : Json → Result (Ordered String Value)
  | .object members => (readLocals members).map .ofList
  | j => refuse j "a map"

/-- Reads one field of the record of a call. -/
def FrameFields.field (found : FrameFields) (name : String) (j : Json) : Result FrameFields :=
  if name = "id" then
    (once name found.id (asUnsigned "u64" j)).map fun id => { found with id }
  else if name = "name" then
    (once name found.name (asText j)).map fun name => { found with name }
  else if name = "origin" then
    (once name found.origin (asText j)).map fun origin => { found with origin }
  else if name = "locals" then
    (once name found.locals (asLocals j)).map fun locals => { found with locals }
  else pass found j

/-- Reads a recorded call. -/
def Frame.ofJson (j : Json) : Result Frame := do
  let contents ← frameShape.read leftOver ⟨none, none, none, none⟩ FrameFields.field j
  let id ← frameShape.require contents.byPosition "id" contents.found.id
  let name ← frameShape.require contents.byPosition "name" contents.found.name
  return ⟨id, name, contents.found.origin.getD noFile, contents.found.locals.getD .empty⟩

/-! ## Events -/

/-- What happens in an event. -/
inductive Tag where
  | line
  | leave
  deriving DecidableEq

/-- The names of tags. -/
def tagNames : List String := ["line", "return"]

/-- Reads a tag. -/
def Tag.ofJson : Json → Result Tag
  | .text name =>
      (knownVariant tagNames name).map fun name => if name = "line" then line else leave
  | j => refuse j "variant identifier"

/-- What the record of an event is called in messages. -/
def eventShape : Tag → Shape
  | .line => ⟨"struct variant RecordedEvent::Line", ["frame", "line"]⟩
  | .leave => ⟨"struct variant RecordedEvent::Return", ["frame", "line", "value"]⟩

/-- The fields of the record of an event. -/
structure EventFields where
  frame : Option Frame
  line : Option UInt64
  value : Option Value

/-- Reads one field of the record of an event; only some events have a value. -/
def EventFields.field (tag : Tag) (found : EventFields) (name : String) (j : Json) :
    Result EventFields :=
  if name = "frame" then
    (once name found.frame (Frame.ofJson j)).map fun frame => { found with frame }
  else if name = "line" then
    (once name found.line (asUnsigned "usize" j)).map fun line => { found with line }
  else if name = "value" ∧ tag = .leave then
    (once name found.value (Value.ofJson Value.nullOrEmpty j)).map fun value =>
      { found with value }
  else pass found j

/-- Reads an event apart from its tag. -/
def readEvent (tag : Tag) (j : Json) : Result (Event Frame) := do
  let shape := eventShape tag
  let contents ← shape.read leftOver ⟨none, none, none⟩ (EventFields.field tag) j
  let frame ← shape.require contents.byPosition "frame" contents.found.frame
  let line ← shape.require contents.byPosition "line" contents.found.line
  match tag with
  | .line => return .line frame line
  | .leave => return .leave frame line (contents.found.value.getD .none)

/-- Takes the tag out of the members of an event. -/
def takeTag : (before : Option Tag) → List (Option String × Json) →
    Result (Option Tag × List (Option String × Json))
  | tag, [] => .ok (tag, [])
  | _, (none, _) :: _ => .error .malformed
  | before, (some "event", j) :: members => do
      takeTag (← once "event" before (Tag.ofJson j)) members
  | before, member :: members =>
      if member.2.isSound then
        (takeTag before members).map fun (tag, others) => (tag, member :: others)
      else .error .malformed

/-- Reads an event. -/
def eventOfJson : Json → Result (Event Frame)
  | .object members => do
      match ← takeTag none members with
      | (some tag, others) => readEvent tag (.object others)
      | (none, _) => fail (.missingField "event")
  | .array [] => fail (.missingField "event")
  | .array (j :: items) => do
      let tag ← Tag.ofJson j
      if allSound items then readEvent tag (.array items) else .error .malformed
  | j => refuse j "internally tagged enum RecordedEvent"

/-! ## Recordings -/

/-- What the record of a recording is called in messages. -/
def shape : Shape := ⟨"struct RecordedRun", ["source_digest", "events"]⟩

/-- The fields of the record of a recording. -/
structure RecordingFields where
  digest : Option (Option String)
  events : Option (List (Event Frame))

/-- Reads a digest, or that there is none. -/
def asDigest : Json → Result (Option String)
  | .null => .ok none
  | j => (asText j).map some

/-- Reads several events. -/
def asEvents : Json → Result (List (Event Frame))
  | .array items => items.mapM eventOfJson
  | j => refuse j "a sequence"

/-- Reads one field of the record of a recording. -/
def RecordingFields.field (found : RecordingFields) (name : String) (j : Json) :
    Result RecordingFields :=
  if name = "source_digest" then
    (once name found.digest (asDigest j)).map fun digest => { found with digest }
  else if name = "events" then
    (once name found.events (asEvents j)).map fun events => { found with events }
  else pass found j

/-- Reads a recording from a tree. -/
def ofJson (j : Json) : Result Recording := do
  let contents ← shape.read (fun _ _ => .malformed) ⟨none, none⟩ RecordingFields.field j
  let events ← shape.require contents.byPosition "events" contents.found.events
  return ⟨contents.found.digest.getD none, events⟩

/-- Reads a recording. What follows it in the text is only looked at if there
is nothing wrong with it. -/
def ofText (t : List Char) : Result Recording := do
  let document := Json.read t
  let r ← ofJson document.root
  if document.ended then return r else .error .malformed

end Stepwise.Recording
