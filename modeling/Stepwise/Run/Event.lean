import Stepwise.Run.Scope
import Stepwise.Value.Basic

/-!
# Events of a run

A program is run by a host, which tells an observer what happens: a statement
is about to run, or a call is about to return. Every event comes with the
frame of the call in question, its local variables included. The observer
answers whether the run is to go on.

What a frame is depends on who looks at it, so events are over any type of
frames.
-/

namespace Stepwise.Run

/-- A call under way. -/
structure Frame where
  /-- Tells the calls of a run apart. -/
  id : UInt64
  /-- The name of the code that is run. -/
  name : String
  /-- Where the code came from. -/
  origin : String
  /-- The local variables in the order in which they were bound. -/
  locals : List (String × Value)

/-- The scope of a call. -/
def Frame.scope (frame : Frame) : Scope := .ofName frame.name

/-- Something that happens in a run. Lines are numbered from one. -/
inductive Event (φ : Type) where
  /-- A statement on a line is about to run. -/
  | line (frame : φ) (number : UInt64)
  /-- A call is about to return a value from a line. -/
  | leave (frame : φ) (number : UInt64) (value : Value)

namespace Event

variable {φ ψ : Type}

/-- The frame of an event. -/
def frame : Event φ → φ
  | line frame _ => frame
  | leave frame _ _ => frame

/-- The same event with another view of its frame. -/
def map (f : φ → ψ) : Event φ → Event ψ
  | line frame number => line (f frame) number
  | leave frame number value => leave (f frame) number value

/-- The line of an event, numbered from zero. -/
def lineIndex : Event φ → Nat
  | line _ number => number.toNat - 1
  | leave _ number _ => number.toNat - 1

end Event

/-- What an observer answers. -/
inductive Flow where
  | goOn
  | halt
  deriving DecidableEq

/-- An observer, by what an event makes of its state. -/
abbrev Observer (σ : Type) := σ → Event Frame → σ × Flow

/-- Shows events to an observer, up to the first one at which it halts. -/
def observe {σ : Type} (observer : Observer σ) : σ → List (Event Frame) → σ
  | s, [] => s
  | s, event :: events =>
      match observer s event with
      | (s', .goOn) => observe observer s' events
      | (s', .halt) => s'

/-- A host runs the text of a program under observation, unless it cannot. -/
abbrev Host (σ ε : Type) := List Char → Observer σ → σ → Except ε σ

end Stepwise.Run
