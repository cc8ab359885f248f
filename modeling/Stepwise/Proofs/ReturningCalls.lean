import Stepwise.Proofs.LoopExits

/-!
# Loops of calls that return

A call that returns for good is done with its loops, and one that is only suspended
goes on with them later. The tracer ends loops on top of the stack only. A loop of the
call below one of another call, which may be a generator that nobody asks any more,
is out of its reach; and as other calls never end it either, it stays for the rest of
the run, and every later step shows it.

Whether a call is suspended is told by its line, and so is whether it leaves its
loops on account of a `return`. A line can say both, as a `return` of what is awaited
does. The loops on top are ended then, although the call is going to come back.

## Main results

* `callLoops_run`: the loops of a call stay as they are while other calls run.
* `final_ends_iff`: when a call that returns for good leaves no loop behind.
* `suspension_keeps_iff`: when a call that is suspended keeps its loops.
-/

namespace Stepwise.Trace

open Stepwise.Run

/-- The active loops of a call, wherever they are on the stack. -/
def callLoops (context : UInt64) (loops : List Loop) : List Loop :=
  loops.filter fun l => l.context == context

/-- The loops of a call below one of another call. -/
def buried (context : UInt64) (loops : List Loop) : List Loop :=
  callLoops context (loops.dropWhile fun l => l.context == context)

/-- Whether an entry is the mark of a loop. -/
def Entry.isMark : Entry → Bool
  | step _ _ => false
  | _ => true

/-- The marks of loops at a place. -/
def Log.marksAt (log : Log) (key : Key) : List Entry := (log.trail key).filter Entry.isMark

theorem mem_headers_loopsOf {loops : List Loop} {loop : Loop} (h : loop ∈ loops) :
    loop.header ∈ (loopsOf loops).headers := by
  rw [loopsOf]
  exact List.mem_map_of_mem (List.mem_reverse.mpr h)

namespace Tracer

variable {t : Tracer} {s : State} {event : Event Frame} {frame : Frame} {number : UInt64}
  {value : Value} {context : UInt64}

/-! ## The loops of other calls -/

theorem Ends.callLoops_eq {own : UInt64} {before after : List Loop} (h : Ends own before after)
    (hother : own ≠ context) : callLoops context after = callLoops context before := by
  obtain ⟨ended, rfl, hended⟩ := h
  have hnone : callLoops context ended = [] := by
    rw [callLoops, List.filter_eq_nil_iff]
    intro l hl
    simpa [hended l hl] using hother
  have hsplit : callLoops context (ended ++ after) =
      callLoops context ended ++ callLoops context after := List.filter_append ..
  rw [hsplit, hnone, List.nil_append]

theorem Advances.callLoops_eq {own : UInt64} {before after : List Loop}
    (h : Advances own before after) (hother : own ≠ context) :
    callLoops context after = callLoops context before := by
  cases h with
  | same => rfl
  | count hkept hcontext => simp [callLoops, hkept, hcontext, Loop.counted, hother]
  | begin_ header => simp [callLoops, hother]

/-- An event leaves the loops of other calls as they are. -/
theorem callLoops_step (hother : event.frame.id ≠ context) :
    callLoops context (t.step s event).1.loops = callLoops context s.loops :=
  ((t.kept_advances s event).callLoops_eq hother).trans ((t.kept_ends s event).callLoops_eq hother)

theorem callLoops_run {events : List (Event Frame)}
    (hothers : ∀ event ∈ events, event.frame.id ≠ context) :
    callLoops context (t.run s events).loops = callLoops context s.loops := by
  induction events generalizing s with
  | nil => rfl
  | cons event rest ih =>
      obtain ⟨hother, hrest⟩ := List.forall_mem_cons.mp hothers
      exact (ih hrest).trans (callLoops_step hother)

/-- A step of another call shows the loops of a call. -/
theorem header_mem_addedAt {loop : Loop} (hloop : loop ∈ callLoops context s.loops)
    (hother : event.frame.id ≠ context) {key : Key} {step : Step}
    (hstep : step ∈ t.addedAt s event key) : loop.header ∈ step.loops.headers := by
  have happroach : callLoops context (t.approach event s).loops = callLoops context s.loops := by
    cases event with
    | line frame number =>
        rw [approach_line_loops]
        exact (t.endLeft_ends frame.id _ s).callLoops_eq hother
    | leave frame number value => rfl
  rw [addedAt_eq] at hstep
  split at hstep
  · rw [List.mem_singleton.mp hstep]
    rw [← happroach] at hloop
    exact mem_headers_loopsOf (List.mem_of_mem_filter hloop)
  · cases hstep

/-! ## Calls that return for good -/

theorem Ends.dropWhile_eq {before after : List Loop} (h : Ends context before after) :
    (after.dropWhile fun l => l.context == context) =
      before.dropWhile fun l => l.context == context := by
  obtain ⟨ended, rfl, hended⟩ := h
  rw [List.dropWhile_append_of_pos]
  simpa using hended

/-- What a return that is recorded does behind its step. -/
theorem step_leave (hrecorded : t.IsRecorded s (.leave frame number value)) :
    (t.step s (.leave frame number value)).1 =
      if Source.isSuspension (t.source.text (number.toNat - 1)) then
        t.endLeft frame.id (number.toNat - 1)
          (t.record frame (.leave (number.toNat - 1)) (t.format.show? value) s)
      else t.endAll false frame.id (t.endLeft frame.id (number.toNat - 1)
        (t.record frame (.leave (number.toNat - 1)) (t.format.show? value) s)) :=
  step_of_isRecorded hrecorded

/-- A call that returns for good ends its loops on top of the stack. -/
theorem final_loops (hrecorded : t.IsRecorded s (.leave frame number value))
    (hfinal : Source.isSuspension (t.source.text (number.toNat - 1)) = false) :
    (t.step s (.leave frame number value)).1.loops =
      s.loops.dropWhile fun l => l.context == frame.id := by
  have hends := t.endLeft_ends frame.id (number.toNat - 1)
    (t.record frame (.leave (number.toNat - 1)) (t.format.show? value) s)
  rw [step_leave hrecorded, if_neg (by simp [hfinal]), endAll_loops]
  exact hends.dropWhile_eq

theorem callLoops_eq_nil_iff {loops : List Loop} :
    callLoops context loops = [] ↔ ∀ l ∈ loops, l.context ≠ context := by
  simp [callLoops]

/-- A call that returns for good leaves no loop behind exactly if it has none below
one of another call. The loops that it has there are active for as long as the call
has no further event, which may be for the rest of the run, and all steps show them. -/
theorem final_ends_iff (t : Tracer) (events : List (Event Frame)) (frame : Frame)
    (number : UInt64) (value : Value)
    (hrecorded : t.IsRecorded (t.run .start events) (.leave frame number value))
    (hfinal : Source.isSuspension (t.source.text (number.toNat - 1)) = false) :
    ((∀ l ∈ (t.run .start (events ++ [.leave frame number value])).loops,
        l.context ≠ frame.id) ↔ buried frame.id (t.run .start events).loops = []) ∧
      ∀ more, (∀ event ∈ more, event.frame.id ≠ frame.id) →
        callLoops frame.id (t.run .start (events ++ .leave frame number value :: more)).loops =
            buried frame.id (t.run .start events).loops ∧
          ∀ event key, event.frame.id ≠ frame.id →
            ∀ step ∈ t.addedAt (t.run .start (events ++ .leave frame number value :: more)) event
              key, ∀ l ∈ buried frame.id (t.run .start events).loops,
                l.header ∈ step.loops.headers := by
  have hloops := final_loops hrecorded hfinal
  rw [← run_append_singleton] at hloops
  refine ⟨?_, fun more hmore => ?_⟩
  · rw [← callLoops_eq_nil_iff, hloops]
    rfl
  · have hlater : callLoops frame.id
        (t.run .start (events ++ .leave frame number value :: more)).loops =
          buried frame.id (t.run .start events).loops := by
      rw [List.append_cons, run_append, callLoops_run hmore, hloops]
      rfl
    refine ⟨hlater, fun event key hother step hstep l hl => ?_⟩
    rw [← hlater] at hl
    exact header_mem_addedAt hl hother hstep

/-- A loop over a generator that loops itself. Leaving it ends the function. -/
def forsaken : Tracer :=
  ⟨.ofText ("def f():\n  for x in g():\n    break\ndef g():\n  for i in s:\n    yield i\n" ++
    "f()\nx\n").toList, .standard, .standard⟩

/-- The first item is made, and the loop over the items is left. -/
def forsakenEvents : List (Event Frame) :=
  let generator : Frame := ⟨3, "g", "<string>", []⟩
  [.line functionFrame 2, .line generator 5, .line generator 6, .leave generator 6 .none,
    .line functionFrame 3]

private theorem forsaken_leave :
    forsaken.IsRecorded (forsaken.run .start forsakenEvents) (.leave functionFrame 3 .none) ∧
      Source.isSuspension (forsaken.source.text 2) = false ∧
      buried 2 (forsaken.run .start forsakenEvents).loops = [⟨2, 1, 0⟩] := by
  decide +kernel

/-- The loop of the function is still active when the program goes on. -/
theorem final_ends_iff_forsaken :
    forsaken.IsRecorded (forsaken.run .start forsakenEvents) (.leave functionFrame 3 .none) ∧
      Source.isSuspension (forsaken.source.text 2) = false ∧
      callLoops 2 (forsaken.run .start (forsakenEvents ++
        [.leave functionFrame 3 .none, .line programFrame 8])).loops = [⟨2, 1, 0⟩] := by
  obtain ⟨hrecorded, hfinal, hburied⟩ := forsaken_leave
  obtain ⟨-, hlater⟩ := forsaken.final_ends_iff forsakenEvents functionFrame 3 .none hrecorded hfinal
  have hloops := (hlater [.line programFrame 8] (by decide)).1
  exact ⟨hrecorded, hfinal, hloops.trans hburied⟩

/-- A call that returns for good can leave a loop behind. -/
theorem not_forall_final_ends :
    ¬ ∀ (t : Tracer) (events : List (Event Frame)) (frame : Frame) (number : UInt64)
      (value : Value), t.IsRecorded (t.run .start events) (.leave frame number value) →
      Source.isSuspension (t.source.text (number.toNat - 1)) = false →
      ∀ l ∈ (t.run .start (events ++ [.leave frame number value])).loops,
        l.context ≠ frame.id := by
  intro h
  obtain ⟨hrecorded, hfinal, -⟩ := forsaken_leave
  have hloops := h forsaken forsakenEvents functionFrame 3 .none hrecorded hfinal
  revert hloops
  decide +kernel

/-! ## Calls that are suspended -/

/-- A call with none of the innermost loops has none to end. -/
theorem endAll_of_other (counted : Bool) (hother : ∀ top ∈ s.loops.head?, top.context ≠ context) :
    t.endAll counted context s = s := by
  rw [endAll]
  cases hloops : s.loops with
  | nil => rw [endOwn, ← hloops]
  | cons top outer =>
      have htop : top.context ≠ context := hother top (by simp [hloops])
      rw [endOwn, if_neg htop, ← hloops]

theorem isMark_endMarks {counted : Bool} {key : Key} {ended outer : List Loop} :
    ∀ entry ∈ (t.endMarks counted key ended outer).map Record.entry, entry.isMark = true := by
  induction ended with
  | nil => simp [endMarks]
  | cons top ended ih =>
      rw [endMarks, List.map_append, List.forall_mem_append]
      refine ⟨?_, ih⟩
      split <;> simp [Record.entry, Entry.isMark]

/-- The end of every loop of a call on top of the stack is marked. -/
theorem trail_endAll (t : Tracer) (counted : Bool) (context : UInt64) (s : State) (key : Key) :
    (t.endAll counted context s).log.trail key = s.log.trail key ++
      (t.endMarks counted key (ownOnTop context s.loops)
        (s.loops.dropWhile fun l => l.context == context)).map Record.entry := by
  obtain ⟨ended, hloops, -, hat⟩ := t.at_endOwn counted context s.loops s.log
  rw [endOwn_fst] at hloops hat
  have hended : ended = ownOnTop context s.loops :=
    List.append_cancel_right (hloops.symm.trans List.takeWhile_append_dropWhile.symm)
  rw [Log.trail, endAll]
  rw [hat, List.map_append, hended]
  rfl

theorem marksAt_endAll (t : Tracer) (counted : Bool) (context : UInt64) (s : State) (key : Key) :
    (t.endAll counted context s).log.marksAt key = s.log.marksAt key ++
      (t.endMarks counted key (ownOnTop context s.loops)
        (s.loops.dropWhile fun l => l.context == context)).map Record.entry := by
  rw [Log.marksAt, trail_endAll, List.filter_append, List.filter_eq_self.mpr isMark_endMarks]
  rfl

theorem marksAt_record (frame : Frame) (key other : Key) (returned : Option (List Char))
    (s : State) : (t.record frame key returned s).log.marksAt other = s.log.marksAt other := by
  rw [Log.marksAt, trail_record, List.filter_append, Log.marksAt]
  split <;> simp [Entry.isMark]

/-- A call that returns from a line deeper than its loops leaves them on account of
a `return` on that line, or not at all. -/
theorem endLeft_of_inside {line index : Nat} (hlatest : s.latest = some ⟨context, .leave line, index⟩)
    (hinside : ∀ l ∈ s.loops, l.context = context →
      t.source.indentOf l.header < t.source.indentOf line) :
    t.endLeft context line s =
      if Source.isReturn (t.source.text line) then t.endAll true context s else s := by
  by_cases hother : ∀ top ∈ s.loops.head?, top.context ≠ context
  · rw [endLeft_of_other hother, endAll_of_other true hother, ite_self]
  · push Not at hother
    obtain ⟨top, htop, hcontext⟩ := hother
    obtain ⟨outer, hloops⟩ := List.head?_eq_some_iff.mp htop
    have hdeeper := hinside top (by simp [hloops]) hcontext
    have hexits : ¬ (line ≠ top.header ∧ t.source.indentOf line ≤ t.source.indentOf top.header) :=
      fun h => Nat.not_le.mpr hdeeper h.2
    rw [endLeft_of_own hloops hlatest hcontext, if_neg hexits]
    simp only [Key.lineNumber, true_and]

/-- The step of a return is the latest one when loops are looked at, so it is on this
line that a `return` counts. -/
theorem step_suspension (hrecorded : t.IsRecorded s (.leave frame number value))
    (hsuspends : Source.isSuspension (t.source.text (number.toNat - 1)) = true)
    (hinside : ∀ l ∈ s.loops, l.context = frame.id →
      t.source.indentOf l.header < t.source.indentOf (number.toNat - 1)) :
    (t.step s (.leave frame number value)).1 =
      if Source.isReturn (t.source.text (number.toNat - 1)) then
        t.endAll true frame.id
          (t.record frame (.leave (number.toNat - 1)) (t.format.show? value) s)
      else t.record frame (.leave (number.toNat - 1)) (t.format.show? value) s := by
  rw [step_leave hrecorded, if_pos hsuspends]
  exact endLeft_of_inside rfl hinside

/-- Without a `return` on the line, a call that is suspended keeps its loops. -/
theorem suspension_of_not_isReturn (hrecorded : t.IsRecorded s (.leave frame number value))
    (hsuspends : Source.isSuspension (t.source.text (number.toNat - 1)) = true)
    (hinside : ∀ l ∈ s.loops, l.context = frame.id →
      t.source.indentOf l.header < t.source.indentOf (number.toNat - 1))
    (hreturn : Source.isReturn (t.source.text (number.toNat - 1)) = false) :
    (t.step s (.leave frame number value)).1.loops = s.loops ∧
      ∀ key, (t.step s (.leave frame number value)).1.log.marksAt key = s.log.marksAt key := by
  rw [step_suspension hrecorded hsuspends hinside, if_neg (by simp [hreturn])]
  exact ⟨rfl, fun key => marksAt_record ..⟩

/-- With a `return` on the line, it ends its loops on top of the stack. -/
theorem suspension_of_isReturn (hrecorded : t.IsRecorded s (.leave frame number value))
    (hsuspends : Source.isSuspension (t.source.text (number.toNat - 1)) = true)
    (hinside : ∀ l ∈ s.loops, l.context = frame.id →
      t.source.indentOf l.header < t.source.indentOf (number.toNat - 1))
    (hreturn : Source.isReturn (t.source.text (number.toNat - 1)) = true) :
    ownOnTop frame.id s.loops ++ (t.step s (.leave frame number value)).1.loops = s.loops ∧
      ∀ key, (t.step s (.leave frame number value)).1.log.marksAt key = s.log.marksAt key ++
        (t.endMarks true key (ownOnTop frame.id s.loops)
          (t.step s (.leave frame number value)).1.loops).map Record.entry := by
  have hloops : (t.step s (.leave frame number value)).1.loops =
      s.loops.dropWhile fun l => l.context == frame.id := by
    rw [step_suspension hrecorded hsuspends hinside, if_pos hreturn, endAll_loops]
    rfl
  constructor
  · rw [hloops]
    exact List.takeWhile_append_dropWhile
  · intro key
    rw [hloops, step_suspension hrecorded hsuspends hinside, if_pos hreturn, marksAt_endAll,
      marksAt_record]
    rfl

/-- A call that is suspended on a line deeper than its loops keeps all of them, without
any mark, exactly if there is no `return` on the line or it has none of the innermost
loops. They are then its loops for as long as it is suspended. Else the loops that it
has on top of the stack are ended, each with its last iteration counted. -/
theorem suspension_keeps_iff (t : Tracer) (events : List (Event Frame)) (frame : Frame)
    (number : UInt64) (value : Value)
    (hrecorded : t.IsRecorded (t.run .start events) (.leave frame number value))
    (hsuspends : Source.isSuspension (t.source.text (number.toNat - 1)) = true)
    (hinside : ∀ l ∈ (t.run .start events).loops, l.context = frame.id →
      t.source.indentOf l.header < t.source.indentOf (number.toNat - 1)) :
    (((t.run .start (events ++ [.leave frame number value])).loops =
          (t.run .start events).loops ∧
        ∀ key, (t.run .start (events ++ [.leave frame number value])).log.marksAt key =
          (t.run .start events).log.marksAt key) ↔
      Source.isReturn (t.source.text (number.toNat - 1)) = false ∨
        ownOnTop frame.id (t.run .start events).loops = []) ∧
    (Source.isReturn (t.source.text (number.toNat - 1)) = false →
      ∀ more, (∀ event ∈ more, event.frame.id ≠ frame.id) →
        callLoops frame.id (t.run .start (events ++ .leave frame number value :: more)).loops =
          callLoops frame.id (t.run .start events).loops) ∧
    (Source.isReturn (t.source.text (number.toNat - 1)) = true →
      ownOnTop frame.id (t.run .start events).loops ++
          (t.run .start (events ++ [.leave frame number value])).loops =
        (t.run .start events).loops ∧
      ∀ key, (t.run .start (events ++ [.leave frame number value])).log.marksAt key =
        (t.run .start events).log.marksAt key ++
          (t.endMarks true key (ownOnTop frame.id (t.run .start events).loops)
            (t.run .start (events ++ [.leave frame number value])).loops).map Record.entry) := by
  simp only [run_append_singleton]
  cases hreturn : Source.isReturn (t.source.text (number.toNat - 1)) with
  | false =>
      have hstays := suspension_of_not_isReturn hrecorded hsuspends hinside hreturn
      refine ⟨iff_of_true hstays (.inl rfl), fun _ more hmore => ?_, nofun⟩
      rw [List.append_cons, run_append, callLoops_run hmore, run_append_singleton, hstays.1]
  | true =>
      obtain ⟨hsplit, hmarks⟩ := suspension_of_isReturn hrecorded hsuspends hinside hreturn
      refine ⟨⟨?_, ?_⟩, nofun, fun _ => ⟨hsplit, hmarks⟩⟩
      · rintro ⟨hsame, -⟩
        rw [hsame] at hsplit
        exact .inr (List.append_left_eq_self.mp hsplit)
      · rintro (hnone | hnone)
        · cases hnone
        · rw [hnone, List.nil_append] at hsplit
          refine ⟨hsplit, fun key => ?_⟩
          rw [hmarks key, hnone]
          simp [endMarks]

/-- A `return` of something that has to be awaited, inside of a loop. -/
def awaiting : Tracer :=
  ⟨.ofText "async def f(s):\n  for x in s:\n    return await x\n".toList, .standard, .standard⟩

/-- A run up to the line that is suspended. -/
def awaitingEvents : List (Event Frame) := [.line functionFrame 2, .line functionFrame 3]

private theorem awaiting_leave :
    awaiting.IsRecorded (awaiting.run .start awaitingEvents) (.leave functionFrame 3 .none) ∧
      Source.isSuspension (awaiting.source.text 2) = true ∧
      (∀ l ∈ (awaiting.run .start awaitingEvents).loops, l.context = 2 →
        awaiting.source.indentOf l.header < awaiting.source.indentOf 2) ∧
      Source.isReturn (awaiting.source.text 2) = true := by
  decide +kernel

/-- The loop is ended when the call is suspended, as if an iteration were complete. -/
theorem suspension_keeps_iff_awaiting :
    awaiting.IsRecorded (awaiting.run .start awaitingEvents) (.leave functionFrame 3 .none) ∧
      Source.isSuspension (awaiting.source.text 2) = true ∧
      (∀ l ∈ (awaiting.run .start awaitingEvents).loops, l.context = 2 →
        awaiting.source.indentOf l.header < awaiting.source.indentOf 2) ∧
      (awaiting.run .start (awaitingEvents ++ [.leave functionFrame 3 .none])).log.marksAt
          (.line 2) =
        (awaiting.run .start awaitingEvents).log.marksAt (.line 2) ++
          [.endLoop ⟨[1], [1]⟩] := by
  obtain ⟨hrecorded, hsuspends, hinside, hreturn⟩ := awaiting_leave
  obtain ⟨-, -, hended⟩ := awaiting.suspension_keeps_iff awaitingEvents functionFrame 3 .none
    hrecorded hsuspends hinside
  refine ⟨hrecorded, hsuspends, hinside, ((hended hreturn).2 (.line 2)).trans ?_⟩
  decide +kernel

/-- A call that is suspended can lose its loops. -/
theorem not_forall_suspension_keeps :
    ¬ ∀ (t : Tracer) (events : List (Event Frame)) (frame : Frame) (number : UInt64)
      (value : Value), t.IsRecorded (t.run .start events) (.leave frame number value) →
      Source.isSuspension (t.source.text (number.toNat - 1)) = true →
      (∀ l ∈ (t.run .start events).loops, l.context = frame.id →
        t.source.indentOf l.header < t.source.indentOf (number.toNat - 1)) →
      (t.run .start (events ++ [.leave frame number value])).loops =
          (t.run .start events).loops ∧
        ∀ key, (t.run .start (events ++ [.leave frame number value])).log.marksAt key =
          (t.run .start events).log.marksAt key := by
  intro h
  obtain ⟨hrecorded, hsuspends, hinside, -⟩ := awaiting_leave
  have hloops := (h awaiting awaitingEvents functionFrame 3 .none hrecorded hsuspends hinside).1
  revert hloops
  decide +kernel

end Tracer

end Stepwise.Trace
