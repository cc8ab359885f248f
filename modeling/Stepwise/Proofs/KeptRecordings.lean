import Stepwise.Proofs.KeptValues
import Stepwise.Recording.Json

/-!
# Recordings survive JSON

A recording is written field by field, and its fields are read back one after
the other. Two things are not plain: an event has its tag among its other
fields, so the reader first takes the tag out and looks whether anything else
is damaged; and the local variables of a frame are read into an ordered map,
which gives them the order in which they stand in the text.

As a tree every recording is read back. From its text it is read back if there
are no doubles in it and nothing is nested too deep for the reader.

## Main results

* `ofJson_toJson`: a recording is read from its tree.
* `ofText_toText`: a recording without doubles is read from its text.
-/

namespace Stepwise.Recording

open Stepwise.Json Stepwise.Run

/-! ## Reading from a tree -/

/-- Local variables are read back, and in order. -/
theorem asLocals_record (locals : Ordered String Value) :
    asLocals (.record (locals.entries.map fun entry => (entry.1, entry.2.toJson))) =
      .ok locals := by
  -- Of lists rather than maps, since the rest of a map is none by itself.
  have hread : ∀ entries : List (String × Value),
      readLocals ((entries.map fun entry => (entry.1, entry.2.toJson)).map fun member =>
        (some member.1, member.2)) = .ok entries := by
    intro entries
    induction entries with
    | nil => rfl
    | cons entry rest ih =>
        rw [List.map_cons, List.map_cons, readLocals, Value.ofJson_toJson, ih]
        rfl
  rw [record, asLocals, hread, Except.map, Ordered.ofList_entries]

/-- A field that can be read is read first. -/
theorem readMembers_cons {σ : Type} {field : σ → String → Json → Result σ} {found found' : σ}
    {name : String} {j : Json} (h : field found name j = .ok found')
    (members : List (Option String × Json)) :
    readMembers field found ((some name, j) :: members) = readMembers field found' members := by
  rw [readMembers, h]
  rfl

/-- A field that may be wrong is read first, and the others if it is not. -/
theorem readMembers_cons_of_map {σ α : Type} {field : σ → String → Json → Result σ} {found : σ}
    {name : String} {j : Json} {members : List (Option String × Json)} {r : Result α}
    {found' : α → σ} {rest : α → Result σ} (h : field found name j = r.map found')
    (hrest : ∀ a, readMembers field (found' a) members = rest a) :
    readMembers field found ((some name, j) :: members) = r >>= rest := by
  rw [readMembers, h]
  cases r with
  | error e => rfl
  | ok a => exact hrest a

theorem FrameFields.field_id (id : UInt64) (name origin : Option String)
    (locals : Option (Ordered String Value)) :
    field ⟨none, name, origin, locals⟩ "id" (.nat id.toNat) =
      .ok ⟨some id, name, origin, locals⟩ := by
  rw [field, if_pos rfl, asUnsigned_toNat]
  rfl

theorem FrameFields.field_locals (id : UInt64) (name origin : String) (locals : Json) :
    field ⟨some id, some name, some origin, none⟩ "locals" locals =
      (asLocals locals).map fun locals => ⟨some id, some name, some origin, some locals⟩ := by
  rw [field, if_neg (by decide), if_neg (by decide), if_neg (by decide), if_pos rfl]
  cases asLocals locals <;> rfl

/-- The record of a call is read field by field, and only its local variables can
be wrong. -/
theorem Frame.ofJson_record (id : UInt64) (name origin : String) (locals : Json) :
    Frame.ofJson (.record [("id", .nat id.toNat), ("name", .text name),
      ("origin", .text origin), ("locals", locals)]) =
      (asLocals locals).map fun locals => ⟨id, name, origin, locals⟩ := by
  have hname : FrameFields.field ⟨some id, none, none, none⟩ "name" (.text name) =
      .ok ⟨some id, some name, none, none⟩ := rfl
  have horigin : FrameFields.field ⟨some id, some name, none, none⟩ "origin" (.text origin) =
      .ok ⟨some id, some name, some origin, none⟩ := rfl
  have hlocals := FrameFields.field_locals id name origin locals
  rw [Frame.ofJson, record, Shape.read]
  simp only [List.map_cons, List.map_nil]
  rw [readMembers_cons (FrameFields.field_id id none none none), readMembers_cons hname,
    readMembers_cons horigin, readMembers_cons_of_map hlocals fun _ => rfl]
  cases asLocals locals <;> rfl

theorem Frame.ofJson_toJson (frame : Frame) : Frame.ofJson frame.toJson = .ok frame := by
  rw [Frame.toJson, Frame.ofJson_record, asLocals_record]
  rfl

theorem Frame.isSound_toJson (frame : Frame) : frame.toJson.isSound = true := by
  simp [Frame.toJson, isSound_record, Value.isSound_toJson, nat, isSound]

/-- Among sound members with other names there is no tag. -/
theorem takeTag_others (tag : Option Tag) (members : List (String × Json))
    (h : ∀ member ∈ members, member.1 ≠ "event" ∧ member.2.isSound = true) :
    takeTag tag (members.map fun member => (some member.1, member.2)) =
      .ok (tag, members.map fun member => (some member.1, member.2)) := by
  induction members with
  | nil => rfl
  | cons member rest ih =>
      obtain ⟨hname, hsound⟩ := h member (by simp)
      have hrest := ih fun other hother => h other (List.mem_cons_of_mem _ hother)
      have hother : ∀ j, (some member.1, member.2) = (some "event", j) → False := by
        intro j heq
        exact hname (Option.some.inj (Prod.mk.inj heq).1)
      -- The last case of the reader is the one for members with other names.
      rw [List.map_cons, takeTag.eq_4 _ _ _ (by simp) hother, if_pos hsound, hrest]
      rfl

/-- The tag of an event tells how its other members are read. -/
theorem eventOfJson_record {name : String} {tag : Tag} (htag : Tag.ofJson (.text name) = .ok tag)
    {members : List (String × Json)}
    (h : ∀ member ∈ members, member.1 ≠ "event" ∧ member.2.isSound = true) :
    eventOfJson (.record (("event", .text name) :: members)) = readEvent tag (.record members) := by
  rw [record, eventOfJson, List.map_cons, takeTag, htag]
  show (takeTag (some tag) _ >>= _) = _
  rw [takeTag_others (some tag) members h]
  rfl

theorem EventFields.field_frame (tag : Tag) (frame : Json) :
    field tag ⟨none, none, none⟩ "frame" frame =
      (Frame.ofJson frame).map fun frame => ⟨some frame, none, none⟩ := by
  rw [field, if_pos rfl]
  cases Frame.ofJson frame <;> rfl

theorem EventFields.field_line (tag : Tag) (frame : Frame) (n : UInt64) :
    field tag ⟨some frame, none, none⟩ "line" (.nat n.toNat) =
      .ok ⟨some frame, some n, none⟩ := by
  rw [field, if_neg (by decide), if_pos rfl, asUnsigned_toNat]
  rfl

theorem EventFields.field_value (frame : Frame) (n : UInt64) (value : Json) :
    field .leave ⟨some frame, some n, none⟩ "value" value =
      (Value.ofJson Value.nullOrEmpty value).map fun value =>
        ⟨some frame, some n, some value⟩ := by
  rw [field, if_neg (by decide), if_neg (by decide), if_pos ⟨rfl, rfl⟩]
  cases Value.ofJson Value.nullOrEmpty value <;> rfl

/-- A sound record of a line is read by its frame. -/
theorem eventOfJson_line {frame : Json} (hframe : frame.isSound = true) (n : UInt64) :
    eventOfJson (.record [("event", .text "line"), ("frame", frame), ("line", .nat n.toNat)]) =
      (Frame.ofJson frame).map fun frame => .line frame n := by
  have htag : Tag.ofJson (.text "line") = .ok .line := rfl
  have hsound : ∀ member ∈ [("frame", frame), ("line", Json.nat n.toNat)],
      member.1 ≠ "event" ∧ member.2.isSound = true := by
    simp [hframe, nat, isSound]
  have hread : readMembers (EventFields.field .line) ⟨none, none, none⟩
      [(some "frame", frame), (some "line", .nat n.toNat)] =
      (do
        let frame ← Frame.ofJson frame
        return ⟨some frame, some n, none⟩) :=
    readMembers_cons_of_map (EventFields.field_frame .line frame) fun found =>
      readMembers_cons (EventFields.field_line .line found n) []
  rw [eventOfJson_record htag hsound, readEvent, record, Shape.read]
  simp only [List.map_cons, List.map_nil]
  rw [hread]
  cases Frame.ofJson frame <;> rfl

/-- A sound record of a return is read by its frame and its value. -/
theorem eventOfJson_leave {frame value : Json} (hframe : frame.isSound = true)
    (hvalue : value.isSound = true) (n : UInt64) :
    eventOfJson (.record [("event", .text "return"), ("frame", frame), ("line", .nat n.toNat),
      ("value", value)]) =
      (do
        let frame ← Frame.ofJson frame
        (Value.ofJson Value.nullOrEmpty value).map (.leave frame n)) := by
  have htag : Tag.ofJson (.text "return") = .ok .leave := rfl
  have hsound : ∀ member ∈ [("frame", frame), ("line", Json.nat n.toNat), ("value", value)],
      member.1 ≠ "event" ∧ member.2.isSound = true := by
    simp [hframe, hvalue, nat, isSound]
  have hread : readMembers (EventFields.field .leave) ⟨none, none, none⟩
      [(some "frame", frame), (some "line", .nat n.toNat), (some "value", value)] =
      (do
        let frame ← Frame.ofJson frame
        let value ← Value.ofJson Value.nullOrEmpty value
        return ⟨some frame, some n, some value⟩) := by
    refine readMembers_cons_of_map (EventFields.field_frame .leave frame) fun found => ?_
    rw [readMembers_cons (EventFields.field_line .leave found n)]
    exact readMembers_cons_of_map (EventFields.field_value found n value) fun _ => rfl
  rw [eventOfJson_record htag hsound, readEvent, record, Shape.read]
  simp only [List.map_cons, List.map_nil]
  rw [hread]
  cases Frame.ofJson frame with
  | error e => rfl
  | ok frame => cases Value.ofJson Value.nullOrEmpty value <;> rfl

/-- An event is read by its tag. -/
theorem eventOfJson_eventToJson (event : Event Frame) :
    eventOfJson (eventToJson event) = .ok event := by
  cases event with
  | line frame n =>
      rw [eventToJson, eventOfJson_line frame.isSound_toJson, Frame.ofJson_toJson]
      rfl
  | leave frame n value =>
      rw [eventToJson, eventOfJson_leave frame.isSound_toJson value.isSound_toJson,
        Frame.ofJson_toJson, Value.ofJson_toJson]
      rfl

/-- The record of a recording is read event by event. -/
theorem ofJson_record (digest : Option String) (events : List Json) :
    ofJson (.record ((digest.map fun digest => ("source_digest", .text digest)).toList ++
      [("events", .array events)])) =
      (events.mapM eventOfJson).map fun events => ⟨digest, events⟩ := by
  have hevents (found : Option (Option String)) :
      RecordingFields.field ⟨found, none⟩ "events" (.array events) =
        (events.mapM eventOfJson).map fun events => ⟨found, some events⟩ := by
    rw [RecordingFields.field, if_neg (by decide), if_pos rfl]
    show (once "events" none (events.mapM eventOfJson)).map _ = _
    cases events.mapM eventOfJson <;> rfl
  cases digest with
  | none =>
      show (shape.read _ _ RecordingFields.field
        (.object [(some "events", .array events)]) >>= _) = _
      rw [Shape.read, readMembers_cons_of_map (hevents none) fun _ => rfl]
      cases events.mapM eventOfJson <;> rfl
  | some digest =>
      have hdigest : RecordingFields.field ⟨none, none⟩ "source_digest" (.text digest) =
          .ok ⟨some (some digest), none⟩ := rfl
      show (shape.read _ _ RecordingFields.field
        (.object [(some "source_digest", .text digest), (some "events", .array events)]) >>= _) = _
      rw [Shape.read, readMembers_cons hdigest,
        readMembers_cons_of_map (hevents (some digest)) fun _ => rfl]
      cases events.mapM eventOfJson <;> rfl

/-- A recording is read from its tree. -/
theorem ofJson_toJson (r : Recording) : ofJson r.toJson = .ok r := by
  have hevents : (r.events.map eventToJson).mapM eventOfJson = .ok r.events :=
    mapM_map_of_left_inverse fun event _ => eventOfJson_eventToJson event
  rw [toJson, ofJson_record, hevents]
  rfl

/-! ## Reading from a text -/

/-- Whether no double occurs in a recorded call. -/
def Frame.isFloatFree (frame : Frame) : Bool :=
  frame.locals.entries.all fun entry => entry.2.isFloatFree

/-- Whether no double occurs in an event. -/
def eventIsFloatFree : Event Frame → Bool
  | .line frame _ => frame.isFloatFree
  | .leave frame _ value => frame.isFloatFree && value.isFloatFree

/-- Whether no double occurs in a recording. -/
def isFloatFree (r : Recording) : Bool := r.events.all eventIsFloatFree

theorem isExact_toNat (n : UInt64) : (Json.nat n.toNat).isExact = true :=
  isExact_nat n.toNat_lt

theorem Frame.isExact_toJson {frame : Frame} (h : frame.isFloatFree = true) :
    frame.toJson.isExact = true := by
  have hlocals : ∀ name value, (name, value) ∈ frame.locals.entries →
      value.toJson.isExact = true := by
    intro name value hmem
    exact Value.isExact_toJson value (List.all_eq_true.mp h (name, value) hmem)
  simpa [Frame.toJson, isExact_record, isExact_toNat, isExact] using hlocals

theorem isExact_eventToJson {event : Event Frame} (h : eventIsFloatFree event = true) :
    (eventToJson event).isExact = true := by
  cases event with
  | line frame n =>
      simp [eventToJson, isExact_record, isExact_toNat, Frame.isExact_toJson h, isExact]
  | leave frame n value =>
      simp only [eventIsFloatFree, Bool.and_eq_true] at h
      simp [eventToJson, isExact_record, isExact_toNat, Frame.isExact_toJson h.1,
        Value.isExact_toJson value h.2, isExact]

theorem isExact_toJson {r : Recording} (h : r.isFloatFree = true) :
    r.toJson.isExact = true := by
  have hevents : (array (r.events.map eventToJson)).isExact = true := by
    rw [isExact_array, List.all_map, List.all_eq_true]
    intro event hevent
    exact isExact_eventToJson (List.all_eq_true.mp h event hevent)
  rw [toJson, isExact_record, List.all_append]
  cases r.digest with
  | none => simp [hevents]
  | some digest =>
      have hdigest : (text digest).isExact = true := rfl
      simp [hevents, hdigest]

/-- A recording without doubles is read from its text. -/
theorem ofText_toText (r : Recording) (hfloat : r.isFloatFree = true)
    (hdepth : r.toJson.depth ≤ maxDepth) : ofText r.toText = .ok r := by
  rw [ofText, toText, read_write (isExact_toJson hfloat) hdepth]
  show (ofJson r.toJson >>= _) = _
  rw [ofJson_toJson]
  rfl

/-- A recording with names that have to be escaped, locals out of alphabetical
order, values of many kinds and the greatest and least numbers. -/
def manyKinds : Recording where
  digest := some "9f86d081"
  events :=
    [.line (.start 0xffffffffffffffff "größe\n\"数\" \\ 😀") 0xffffffffffffffff,
      .leave (((Frame.start 0 "f").withLocal "z" (.int Int64.minValue)).withLocal "a"
        (.dict [(.str "\x00\t", .list [.tuple [], .set [.bool true, .none]]),
          (.int Int64.maxValue, .object "Point" "<Point 1>")])) 0 (.function "g"),
      .leave (.start 1 "<module>") 7 .none]

theorem ofText_manyKinds : manyKinds.isFloatFree = true ∧ manyKinds.toJson.depth ≤ maxDepth ∧
    ofText manyKinds.toText = .ok manyKinds := by
  have hfloat : manyKinds.isFloatFree = true := by decide +kernel
  have hdepth : manyKinds.toJson.depth ≤ maxDepth := by decide +kernel
  exact ⟨hfloat, hdepth, manyKinds.ofText_toText hfloat hdepth⟩

end Stepwise.Recording
