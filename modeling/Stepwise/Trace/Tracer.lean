import Stepwise.Run.Event
import Stepwise.Source.Basic
import Stepwise.Trace.Log
import Stepwise.Value.Format

/-!
# The tracer

An observer that turns the events of a run into a trace. What loops are active
is not told by events; it is worked out from the text of the program. A visit
to a loop header in a call begins the loop, or its next iteration if it is
the innermost active loop of that call already. A visit to a line that is not
deeper than the header ends it. A call that returns ends its loops, unless it
is only suspended.

Loops of several calls can be active at a time, and they are kept on one stack.
A call only ever ends loops of its own, and only on top of the stack.

The number of steps is limited. The first event that would go beyond the limit
halts the tracer, and from then on nothing changes any more.

## Main results

* `record_returned`: it makes no difference when the value of a return is put
  into its step.
* `step_of_halted`: a tracer that has halted stays as it is.
-/

namespace Stepwise.Trace

open Stepwise.Run Stepwise.Text

/-- What a tracer records. -/
structure Settings where
  /-- The number of steps after which the tracer halts. -/
  maxSteps : Nat
  /-- The origin of calls that belong to the program. -/
  origin : String
  /-- The name of a variable that is never shown. -/
  reserved : String
  deriving DecidableEq

/-- The usual settings. -/
def Settings.standard : Settings := ⟨100, "<string>", reservedName⟩

/-- An active loop. -/
structure Loop where
  /-- The call in which the loop runs. -/
  context : UInt64
  /-- The line of its header. -/
  header : Nat
  /-- The number of iterations that are complete. -/
  iteration : Nat
  deriving DecidableEq

/-- The loops on a stack, as they are recorded. -/
def loopsOf (stack : List Loop) : Loops :=
  ⟨stack.reverse.map Loop.iteration, stack.reverse.map Loop.header⟩

/-- Where the latest step is. -/
structure Latest where
  /-- The call that it shows. -/
  context : UInt64
  key : Key
  /-- Its number among the records of the place. -/
  index : Nat
  deriving DecidableEq

/-- What a tracer keeps from event to event. -/
structure State where
  /-- The number of steps so far. -/
  time : Nat
  log : Log
  /-- The active loops, innermost first. -/
  loops : List Loop
  latest : Option Latest
  /-- The variables that the program had when it was first seen. -/
  preexisting : Option (List String)
  halted : Bool

/-- The state in front of all events. -/
def State.start : State := ⟨0, .empty, [], none, none, false⟩

/-- A tracer for a program. -/
structure Tracer where
  source : Source
  settings : Settings
  format : Value.Format

namespace Tracer

variable (t : Tracer)

/-- Whether the events of a call are not recorded. -/
def ignores (frame : Frame) : Bool :=
  frame.scope == .comprehension || frame.origin != t.settings.origin

/-- Takes note of the variables that exist when the program is first seen. -/
def notice (frame : Frame) (s : State) : State :=
  if frame.scope = .module ∧ s.preexisting.isNone then
    { s with preexisting := some (frame.locals.map Prod.fst) }
  else s

/-! ## Loops -/

/-- Marks the end of the innermost loop on the lines of its body. An iteration
that was cut short has not been counted at the header and may be counted now. -/
def markEnd (counted : Bool) (top : Loop) (outer : List Loop) (log : Log) : Log :=
  let last := if counted then { top with iteration := top.iteration + 1 } else top
  log.pushAll (t.source.loopBody top.header) (.endLoop (loopsOf (last :: outer)))

/-- Ends the loops of a call on top of the stack. -/
def endOwn (counted : Bool) (context : UInt64) : List Loop → Log → List Loop × Log
  | [], log => ([], log)
  | top :: outer, log =>
      if top.context = context then endOwn counted context outer (t.markEnd counted top outer log)
      else (top :: outer, log)

/-- Ends all loops of a call on top of the stack. -/
def endAll (counted : Bool) (context : UInt64) (s : State) : State :=
  let rest := t.endOwn counted context s.loops s.log
  { s with loops := rest.1, log := rest.2 }

/-- Ends the loops of a call that control has left on its way to a line. After
a `return` these are all of them, each in the middle of an iteration. Else it
is the innermost one, if the line is outside of it; only after a `break` its
last iteration has not been counted. -/
def endLeft (context : UInt64) (line : Nat) (s : State) : State :=
  match s.loops, s.latest with
  | top :: outer, some latest =>
      let before := t.source.text latest.key.lineNumber
      if top.context ≠ context then s
      else if latest.context = context ∧ Source.isReturn before then t.endAll true context s
      else if line ≠ top.header ∧ t.source.indentOf line ≤ t.source.indentOf top.header then
        { s with loops := outer, log := t.markEnd (Source.isBreak before) top outer s.log }
      else s
  | _, _ => s

/-- Begins a loop, and marks that on the lines of its body. -/
def beginLoop (context : UInt64) (line : Nat) (s : State) : State :=
  let loops := ⟨context, line, 0⟩ :: s.loops
  { s with
    loops
    log := s.log.pushAll (t.source.loopBody line) (.beginLoop (loopsOf loops)) }

/-- Begins a loop or its next iteration, if a line is the header of one. -/
def enter (context : UInt64) (line : Nat) (s : State) : State :=
  if t.source.isHeader line then
    match s.loops with
    | top :: outer =>
        if top.context = context ∧ top.header = line then
          { s with loops := { top with iteration := top.iteration + 1 } :: outer }
        else t.beginLoop context line s
    | [] => t.beginLoop context line s
  else s

/-! ## Steps -/

/-- Whether a variable of a call is never shown. -/
def hides (s : State) (frame : Frame) (name : String) : Bool :=
  name == t.settings.reserved ||
    (frame.scope == .module && (s.preexisting.getD []).contains name)

/-- The texts of the variables of a call. -/
def bindings (s : State) (frame : Frame) : Ordered String (List Char) :=
  .ofList (frame.locals.filterMap fun entry =>
    if t.hides s frame entry.1 then none
    else (t.format.show? entry.2).map fun shown => (entry.1, shown))

/-- Records a step, and links the one before to it. -/
def record (frame : Frame) (key : Key) (returned : Option (List Char)) (s : State) : State :=
  let step : Step :=
    ⟨s.time, key, loopsOf s.loops, t.bindings s frame, s.latest.map Latest.key, none, returned⟩
  let linked := match s.latest with
    | some latest =>
        s.log.modifyStep latest.key latest.index fun before => { before with next := some key }
    | none => s.log
  { s with
    time := s.time + 1
    log := linked.push key (.step step)
    latest := some ⟨frame.id, key, (linked.at_ key).length⟩ }

/-- The value that a call returns may as well come into its step afterwards, at
the place and the number that have been noted for the latest step. -/
theorem record_returned (frame : Frame) (key : Key) (returned : Option (List Char)) (s : State) :
    ∃ latest, (t.record frame key none s).latest = some latest ∧
      t.record frame key returned s =
        { t.record frame key none s with
          log := (t.record frame key none s).log.modifyStep latest.key latest.index
            fun step => { step with returned } } := by
  refine ⟨_, rfl, ?_⟩
  unfold record
  simp only [Log.modifyStep_push]

/-- Halts at the limit, and goes on below it. -/
def withinLimit (s : State) (go : State → State) : State × Flow :=
  if s.time < t.settings.maxSteps then (go s, .goOn) else ({ s with halted := true }, .halt)

/-- A statement on a line is about to run. -/
def visit (frame : Frame) (line : Nat) (s : State) : State × Flow :=
  t.withinLimit (t.endLeft frame.id line s) fun s =>
    t.enter frame.id line (t.record frame (.line line) none s)

/-- A call is about to return from a line. -/
def leave (frame : Frame) (line : Nat) (value : Value) (s : State) : State × Flow :=
  t.withinLimit s fun s =>
    let s := t.endLeft frame.id line (t.record frame (.leave line) (t.format.show? value) s)
    if Source.isSuspension (t.source.text line) then s else t.endAll false frame.id s

/-- What an event makes of the state. -/
def step : Observer State := fun s event =>
  if s.halted then (s, .halt)
  else
    match event with
    | .line frame _ =>
        let s := notice frame s
        if t.ignores frame then (s, .goOn) else t.visit frame event.lineIndex s
    | .leave frame _ value =>
        if t.ignores frame then (s, .goOn) else t.leave frame event.lineIndex value s

/-- What several events make of the state, also those after a halt. -/
def run (s : State) (events : List (Event Frame)) : State :=
  events.foldl (fun s event => (t.step s event).1) s

theorem step_of_halted {s : State} (h : s.halted = true) (event : Event Frame) :
    t.step s event = (s, .halt) := by
  simp [step, h]

end Tracer

end Stepwise.Trace
