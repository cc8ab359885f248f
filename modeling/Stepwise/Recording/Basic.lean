import Stepwise.Ordered
import Stepwise.Run.Event
import Stepwise.Text.Digest

/-!
# Recordings

The events of a run, kept to be shown again. A recording can be bound to the
program it was made from, by the digest of its text; it is then of no use for
any other program. In a recorded frame every local variable has one value.

## Main results

* `play_of_mismatch`: a refused program leaves the observer alone.
* `play_of_match`: otherwise the observer sees the events.
-/

namespace Stepwise

open Stepwise.Run Stepwise.Text

/-- A recorded call. -/
structure Recording.Frame where
  id : UInt64
  name : String
  origin : String
  locals : Ordered String Value

/-- The origin of a program that did not come from a file. -/
def Recording.noFile : String := "<string>"

namespace Recording.Frame

/-- A call of the program without local variables. -/
def start (id : UInt64) (name : String) : Frame := ⟨id, name, noFile, .empty⟩

/-- A call with a value for a local variable. -/
def withLocal (frame : Frame) (name : String) (value : Value) : Frame :=
  { frame with locals := frame.locals.insert name value }

/-- What an observer sees of a recorded call. -/
def view (frame : Frame) : Run.Frame :=
  ⟨frame.id, frame.name, frame.origin, frame.locals.entries⟩

/-- Whether two recorded calls are equal, with doubles equal as numbers. -/
def same (f g : Frame) : Bool :=
  f.id == g.id && f.name == g.name && f.origin == g.origin &&
    f.locals.keys == g.locals.keys &&
    Value.sameItems (f.locals.entries.map Prod.snd) (g.locals.entries.map Prod.snd)

end Recording.Frame

/-- Recorded events, and the digest of the program if they are bound to one. -/
structure Recording where
  digest : Option String
  events : List (Event Recording.Frame)

namespace Recording

/-- A recording for any program. -/
def ofEvents (events : List (Event Frame)) : Recording := ⟨none, events⟩

/-- A recording bound to the text of a program. -/
def forProgram (program : List Char) (events : List (Event Frame)) : Recording :=
  ⟨some (Text.digest program), events⟩

/-- Whether two events are equal, with doubles equal as numbers. -/
def sameEvent : Event Frame → Event Frame → Bool
  | .line frame number, .line frame' number' => frame.same frame' && number == number'
  | .leave frame number value, .leave frame' number' value' =>
      frame.same frame' && number == number' && value.same value'
  | _, _ => false

/-- Whether two recordings are equal, with doubles equal as numbers. -/
def same (r s : Recording) : Bool :=
  r.digest == s.digest && r.events.length == s.events.length &&
    (r.events.zip s.events).all fun pair => sameEvent pair.1 pair.2

/-- A program that a recording is not for. -/
structure DigestMismatch where
  expected : String
  actual : String
  deriving DecidableEq

/-- The mismatch in words. -/
def DigestMismatch.message (m : DigestMismatch) : String :=
  "Recorded run does not match program: expected digest " ++ m.expected ++ ", got " ++ m.actual

/-- Whether a recording may be replayed for the text of a program. -/
def check (r : Recording) (program : List Char) : Except DigestMismatch Unit :=
  match r.digest with
  | none => .ok ()
  | some expected =>
      let actual := Text.digest program
      if actual = expected then .ok () else .error ⟨expected, actual⟩

/-- What an observer sees of the events. -/
def views (r : Recording) : List (Event Run.Frame) := r.events.map (Event.map Frame.view)

/-- What there is behind a replay: how it went, the recording, and the state of the
observer. -/
structure Played (σ : Type) where
  outcome : Except DigestMismatch Unit
  recording : Recording
  observer : σ

/-- Replays a recording for the text of a program. The text is checked before the observer
is shown anything. -/
def play (r : Recording) (program : List Char) {σ : Type} (observer : Observer σ) (s : σ) :
    Played σ :=
  match r.check program with
  | .error m => ⟨.error m, r, s⟩
  | .ok () => ⟨.ok (), r, observe observer s r.views⟩

/-- Replays a recording as the run of a program. -/
def replay (r : Recording) {σ : Type} : Host σ DigestMismatch := fun program observer s =>
  let played := r.play program observer s
  played.outcome.map fun _ => played.observer

theorem play_of_match {r : Recording} {program : List Char}
    (h : r.check program = .ok ()) {σ : Type} (observer : Observer σ) (s : σ) :
    r.play program observer s = ⟨.ok (), r, observe observer s r.views⟩ := by
  simp [play, h]

theorem replay_of_match {r : Recording} {program : List Char}
    (h : r.check program = .ok ()) {σ : Type} (observer : Observer σ) (s : σ) :
    r.replay program observer s = .ok (observe observer s r.views) := by
  simp [replay, play_of_match h, Except.map]

end Recording

end Stepwise
