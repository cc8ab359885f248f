import Mathlib.Data.List.Induction
import Stepwise.Proofs.StepLimit

/-!
# The discipline of the stack of loops

Several calls keep their loops on one stack, and most of what is on it belongs
to calls that are waiting. An event only ever touches what is on top. It takes
loops of its own call off, and then it counts the innermost loop, if that is one
of its call, or it puts a new one there. So whatever lies below, and whatever
belongs to another call, stays as it is.

Which loops a visit to a line takes off is decided by the event that was
recorded last. The state keeps only the call and the place of that event, so it
has to be seen that these are the ones the run knows (`origin?_run`).

## Main results

* `kept_ends`: the loops that an event ends are on top and of its own call.
* `mayEnd_line`: which loops a visit to a line can end.
* `stack_disciplined`: what an event does to the stack of a run.
-/

namespace Stepwise.Trace

open Stepwise.Run

/-- The call and the place of the latest step. -/
def State.origin? (s : State) : Option (UInt64 × Key) :=
  s.latest.map fun latest => (latest.context, latest.key)

namespace Tracer

variable (t : Tracer)

/-! ## Events that are recorded -/

instance (s : State) (event : Event Frame) : Decidable (t.IsRecorded s event) :=
  inferInstanceAs (Decidable (_ ∧ _))

/-- Those of several events that are recorded. -/
def recordedEvents : State → List (Event Frame) → List (Event Frame)
  | _, [] => []
  | s, event :: rest =>
      (if t.IsRecorded s event then [event] else []) ++ recordedEvents (t.step s event).1 rest

theorem recordedEvents_append (s : State) (events more : List (Event Frame)) :
    t.recordedEvents s (events ++ more) =
      t.recordedEvents s events ++ t.recordedEvents (t.run s events) more := by
  induction events generalizing s with
  | nil => rfl
  | cons event rest ih =>
      rw [List.cons_append, recordedEvents, recordedEvents, ih, List.append_assoc]
      rfl

variable {t} {s : State} {event : Event Frame}

theorem isRecorded_iff :
    t.IsRecorded s event ↔
      s.halted = false ∧ t.sees event = true ∧ s.time < t.settings.maxSteps := by
  have hsees : t.ignores event.frame = false ↔ t.sees event = true := by simp [sees]
  rw [IsRecorded, hsees]
  cases hhalted : s.halted with
  | true => simp [step_of_halted t hhalted]
  | false =>
      by_cases hseen : t.sees event = true
      · by_cases hlimit : s.time < t.settings.maxSteps
        · simp [step_below hhalted hseen hlimit, hseen, hlimit]
        · simp [step_beyond hhalted hseen (Nat.not_lt.mp hlimit), hlimit]
      · simp [hseen]

theorem step_of_isRecorded (h : t.IsRecorded s event) :
    (t.step s event).1 = t.carryOut event (t.approach event s) := by
  obtain ⟨hhalted, hsees, hlimit⟩ := isRecorded_iff.mp h
  rw [step_below hhalted hsees hlimit]

theorem place_lineNumber (event : Event Frame) : (place event).lineNumber = event.lineIndex := by
  cases event <;> rfl

theorem origin?_approach (event : Event Frame) (s : State) :
    (t.approach event s).origin? = s.origin? := by
  cases event with
  | line frame number =>
      rw [State.origin?, approach, endLeft_latest, notice_latest]
      rfl
  | leave frame number value => rfl

/-- What is recorded is the latest step from then on. -/
theorem origin?_carryOut (event : Event Frame) (s : State) :
    (t.carryOut event s).origin? = some (event.frame.id, place event) := by
  cases event with
  | line frame number =>
      obtain ⟨loops, log, heq⟩ := t.enter_frame frame.id (Event.lineIndex (.line frame number))
        (t.record frame (.line (Event.lineIndex (.line frame number))) none s)
      rw [State.origin?, carryOut, heq]
      rfl
  | leave frame number value =>
      rw [State.origin?, carryOut]
      split
      · rw [endLeft_latest]
        rfl
      · show (Option.map _ (t.endLeft _ _ _).latest) = _
        rw [endLeft_latest]
        rfl

/-- Only an event that is recorded changes what the latest step is. -/
theorem origin?_step (t : Tracer) (s : State) (event : Event Frame) :
    (t.step s event).1.origin? =
      if t.IsRecorded s event then some (event.frame.id, place event) else s.origin? := by
  by_cases hrecorded : t.IsRecorded s event
  · rw [if_pos hrecorded, step_of_isRecorded hrecorded, origin?_carryOut]
  · rw [if_neg hrecorded]
    cases hhalted : s.halted with
    | true => rw [step_of_halted t hhalted]
    | false =>
        by_cases hsees : t.sees event = true
        · have hlimit : ¬ s.time < t.settings.maxSteps :=
            fun hlimit => hrecorded (isRecorded_iff.mpr ⟨hhalted, hsees, hlimit⟩)
          rw [step_beyond hhalted hsees (Nat.not_lt.mp hlimit)]
          exact origin?_approach event s
        · rw [step_unseen hhalted (Bool.eq_false_iff.mpr hsees)]
          cases event with
          | line frame number =>
              show (notice frame s).origin? = _
              rw [State.origin?, notice_latest]
              rfl
          | leave frame number value => rfl

/-- The latest step of a run is that of the event that was recorded last. -/
theorem origin?_run (t : Tracer) (events : List (Event Frame)) :
    (t.run .start events).origin? =
      (t.recordedEvents .start events).getLast?.map fun event => (event.frame.id, place event) := by
  induction events using List.reverseRecOn with
  | nil => rfl
  | append_singleton events event ih =>
      rw [run_append_singleton, origin?_step, recordedEvents_append, recordedEvents]
      by_cases hrecorded : t.IsRecorded (t.run .start events) event
      · simp [hrecorded, recordedEvents]
      · simpa [hrecorded, recordedEvents] using ih

/-! ## Ending loops on the way to a line -/

/-- The loops of a call are looked at only if the innermost one belongs to it. -/
theorem endLeft_of_other {context : UInt64} (hother : ∀ top ∈ s.loops.head?, top.context ≠ context)
    (line : Nat) : t.endLeft context line s = s := by
  unfold endLeft
  split
  · next top outer latest hloops _ =>
      have htop : top.context ≠ context := hother top (by rw [hloops]; rfl)
      dsimp only
      rw [if_pos htop]
  · rfl

/-- What becomes of the loops of a call when the innermost one belongs to it. -/
theorem endLeft_of_own {context : UInt64} {top : Loop} {outer : List Loop} {latest : Latest}
    (hloops : s.loops = top :: outer) (hlatest : s.latest = some latest)
    (hcontext : top.context = context) (line : Nat) :
    t.endLeft context line s =
      if latest.context = context ∧
          Source.isReturn (t.source.text latest.key.lineNumber) = true then
        t.endAll true context s
      else if line ≠ top.header ∧ t.source.indentOf line ≤ t.source.indentOf top.header then
        { s with
          loops := outer
          log := t.markEnd (Source.isBreak (t.source.text latest.key.lineNumber)) top outer s.log }
      else s := by
  unfold endLeft
  rw [hloops, hlatest]
  dsimp only
  rw [if_neg (not_not_intro hcontext)]

theorem Ends.trans {context : UInt64} {loops loops' loops'' : List Loop}
    (h : Ends context loops loops') (h' : Ends context loops' loops'') :
    Ends context loops loops'' := by
  obtain ⟨ended, rfl, hended⟩ := h
  obtain ⟨ended', rfl, hended'⟩ := h'
  refine ⟨ended ++ ended', (List.append_assoc _ _ _).symm, ?_⟩
  intro l hl
  rcases List.mem_append.mp hl with hfirst | hsecond
  · exact hended l hfirst
  · exact hended' l hsecond

/-- Which loops a visit to a line may end, given the event that was recorded
last: any of the call on top, if that was a `return` of the same call, and else
the innermost one, if the line is outside of it. -/
def MayEnd (t : Tracer) (last : Option (Event Frame)) (event : Event Frame)
    (ended : List Loop) : Prop :=
  (∃ before ∈ last, before.frame.id = event.frame.id ∧
      Source.isReturn (t.source.text before.lineIndex) = true) ∨
    ended = [] ∨
    ∃ top, ended = [top] ∧ event.lineIndex ≠ top.header ∧
      t.source.indentOf event.lineIndex ≤ t.source.indentOf top.header

/-! ## What an event does to the stack -/

/-- The active loops that an event does not end. -/
def kept (t : Tracer) (s : State) (event : Event Frame) : List Loop :=
  match event with
  | .line _ _ =>
      if s.halted = false ∧ t.sees event = true then (t.approach event s).loops else s.loops
  | .leave _ _ _ => (t.step s event).1.loops

theorem approach_line_loops (frame : Frame) (number : UInt64) (s : State) :
    (t.approach (.line frame number) s).loops =
      (t.endLeft frame.id (number.toNat - 1) s).loops :=
  t.endLeft_loops_congr frame.id _ (notice_loops frame s) (notice_latest frame s)

theorem kept_line (t : Tracer) (frame : Frame) (number : UInt64) (s : State) :
    t.kept s (.line frame number) =
      if s.halted = false ∧ t.sees (.line frame number) = true then
        (t.endLeft frame.id (number.toNat - 1) s).loops
      else s.loops := by
  rw [kept, approach_line_loops]

/-- A return that is recorded may end loops twice: those that control has left,
and then all that the call still has on top. -/
theorem carryOut_leave_ends (frame : Frame) (number : UInt64) (value : Value) (s : State) :
    Ends frame.id s.loops (t.carryOut (.leave frame number value) s).loops := by
  have hleft := t.endLeft_ends frame.id (Event.lineIndex (.leave frame number value))
    (t.record frame (.leave (Event.lineIndex (.leave frame number value)))
      (t.format.show? value) s)
  unfold carryOut
  dsimp only
  split
  · exact hleft
  · exact hleft.trans (t.endAll_ends false frame.id _)

/-- A return that is not recorded ends nothing. -/
theorem kept_leave_of_not_isRecorded {frame : Frame} {number : UInt64} {value : Value}
    (h : ¬ t.IsRecorded s (.leave frame number value)) :
    t.kept s (.leave frame number value) = s.loops := by
  rw [kept]
  cases hhalted : s.halted with
  | true => rw [step_of_halted t hhalted]
  | false =>
      by_cases hsees : t.sees (.leave frame number value) = true
      · have hlimit : t.settings.maxSteps ≤ s.time :=
          Nat.not_lt.mp fun hlimit => h (isRecorded_iff.mpr ⟨hhalted, hsees, hlimit⟩)
        rw [step_beyond hhalted hsees hlimit]
        rfl
      · rw [step_unseen hhalted (Bool.eq_false_iff.mpr hsees)]
        rfl

/-- The loops that an event ends are on top of the stack, and of its own call. -/
theorem kept_ends (t : Tracer) (s : State) (event : Event Frame) :
    Ends event.frame.id s.loops (t.kept s event) := by
  cases event with
  | line frame number =>
      rw [kept_line]
      split
      · exact t.endLeft_ends frame.id _ s
      · exact .refl _ _
  | leave frame number value =>
      by_cases hrecorded : t.IsRecorded s (.leave frame number value)
      · rw [kept, step_of_isRecorded hrecorded]
        exact carryOut_leave_ends frame number value s
      · rw [kept_leave_of_not_isRecorded hrecorded]
        exact .refl _ _

/-- Whether a stack is another one with the innermost loop counted, if it is one
of a certain call, or with a new loop of that call, or with neither. -/
inductive Advances (context : UInt64) (kept : List Loop) : List Loop → Prop where
  | same : Advances context kept kept
  | count {top : Loop} {outer : List Loop} (hkept : kept = top :: outer)
      (hcontext : top.context = context) : Advances context kept (top.counted :: outer)
  | begin_ (header : Nat) : Advances context kept (⟨context, header, 0⟩ :: kept)

/-- An event that is not recorded counts and begins nothing. -/
theorem step_loops_of_not_isRecorded (h : ¬ t.IsRecorded s event) :
    (t.step s event).1.loops = t.kept s event := by
  cases event with
  | leave frame number value => rfl
  | line frame number =>
      cases hhalted : s.halted with
      | true => rw [step_of_halted t hhalted, kept, if_neg (by simp [hhalted])]
      | false =>
          by_cases hsees : t.sees (.line frame number) = true
          · have hlimit : t.settings.maxSteps ≤ s.time :=
              Nat.not_lt.mp fun hlimit => h (isRecorded_iff.mpr ⟨hhalted, hsees, hlimit⟩)
            rw [kept, if_pos ⟨hhalted, hsees⟩, step_beyond hhalted hsees hlimit]
          · rw [kept, if_neg (fun hboth => hsees hboth.2),
              step_unseen hhalted (Bool.eq_false_iff.mpr hsees)]
            exact notice_loops frame s

/-- A visit to a line that is recorded counts the innermost loop, if it has that
header and that call, and begins a loop at any other header. -/
theorem step_loops_of_line {frame : Frame} {number : UInt64}
    (h : t.IsRecorded s (.line frame number)) :
    (t.source.isHeader (number.toNat - 1) = false ∧
        (t.step s (.line frame number)).1.loops = t.kept s (.line frame number)) ∨
      (∃ top outer, t.kept s (.line frame number) = top :: outer ∧ top.context = frame.id ∧
        top.header = number.toNat - 1 ∧
        (t.step s (.line frame number)).1.loops = top.counted :: outer) ∨
      ((∀ top ∈ (t.kept s (.line frame number)).head?,
          ¬ (top.context = frame.id ∧ top.header = number.toNat - 1)) ∧
        (t.step s (.line frame number)).1.loops =
          ⟨frame.id, number.toNat - 1, 0⟩ :: t.kept s (.line frame number)) := by
  have hseen := isRecorded_iff.mp h
  rw [step_of_isRecorded h, kept, if_pos ⟨hseen.1, hseen.2.1⟩, carryOut]
  rcases t.enter_cases frame.id (number.toNat - 1)
    (t.record frame (.line (number.toNat - 1)) none (t.approach (.line frame number) s)) with
    ⟨hheader, heq⟩ | ⟨-, top, outer, hloops, hcontext, hline, heq⟩ | ⟨-, hnew, heq⟩
  · exact .inl ⟨hheader, (congrArg State.loops heq).trans rfl⟩
  · exact .inr (.inl ⟨top, outer, hloops, hcontext, hline, congrArg State.loops heq⟩)
  · exact .inr (.inr ⟨hnew, (congrArg State.loops heq).trans rfl⟩)

/-- Behind the loops that it ends, an event counts one or begins one, if that. -/
theorem kept_advances (t : Tracer) (s : State) (event : Event Frame) :
    Advances event.frame.id (t.kept s event) (t.step s event).1.loops := by
  by_cases hrecorded : t.IsRecorded s event
  · cases event with
    | leave frame number value => exact .same
    | line frame number =>
        rcases step_loops_of_line hrecorded with ⟨-, heq⟩ |
          ⟨top, outer, hkept, hcontext, -, heq⟩ | ⟨-, heq⟩
        · rw [heq]
          exact .same
        · rw [heq]
          exact .count hkept hcontext
        · rw [heq]
          exact .begin_ _
  · rw [step_loops_of_not_isRecorded hrecorded]
    exact .same

/-- What the latest step says is what the event that was recorded last says. -/
theorem exists_recorded {events : List (Event Frame)} {latest : Latest}
    (h : (t.run .start events).latest = some latest) :
    ∃ before ∈ (t.recordedEvents .start events).getLast?,
      before.frame.id = latest.context ∧ before.lineIndex = latest.key.lineNumber := by
  have horigin := t.origin?_run events
  rw [State.origin?, h, Option.map_some] at horigin
  obtain ⟨before, hbefore, hplace⟩ := Option.map_eq_some_iff.mp horigin.symm
  obtain ⟨hcontext, hkey⟩ := Prod.mk.inj hplace
  exact ⟨before, hbefore, hcontext, by rw [← hkey, place_lineNumber]⟩

/-- A visit to a line ends no loops but those that it may end. -/
theorem mayEnd_line (t : Tracer) (events : List (Event Frame)) (frame : Frame) (number : UInt64)
    {ended : List Loop}
    (h : (t.run .start events).loops =
      ended ++ t.kept (t.run .start events) (.line frame number)) :
    t.MayEnd (t.recordedEvents .start events).getLast? (.line frame number) ended := by
  have hlast : ∀ latest, (t.run .start events).latest = some latest → _ :=
    fun _ => exists_recorded
  generalize t.run .start events = s at h hlast
  have hnothing : s.loops = ended ++ s.loops → ended = [] := by
    intro hsame
    simpa using hsame
  rw [kept_line] at h
  split at h
  · by_cases hother : ∀ top ∈ s.loops.head?, top.context ≠ frame.id
    · rw [endLeft_of_other hother] at h
      exact .inr (.inl (hnothing h))
    · push Not at hother
      obtain ⟨top, htop, hcontext⟩ := hother
      obtain ⟨outer, hloops⟩ := List.head?_eq_some_iff.mp htop
      cases hlatest : s.latest with
      | none =>
          have hsame : t.endLeft frame.id (number.toNat - 1) s = s := by
            rw [endLeft, hloops, hlatest]
          rw [hsame] at h
          exact .inr (.inl (hnothing h))
      | some latest =>
          obtain ⟨before, hbefore, hid, hline⟩ := hlast latest hlatest
          rw [endLeft_of_own hloops hlatest hcontext] at h
          split at h
          · next hreturn =>
              refine .inl ⟨before, hbefore, hid.trans hreturn.1, ?_⟩
              rw [hline]
              exact hreturn.2
          · split at h
            · next hleft =>
                have hsame : [top] ++ outer = ended ++ outer := hloops.symm.trans h
                exact .inr (.inr ⟨top, (List.append_cancel_right hsame).symm, hleft⟩)
            · exact .inr (.inl (hnothing h))
  · exact .inr (.inl (hnothing h))

/-- An event takes loops off the stack of a run, all of them on top and of its
own call, and then it counts the innermost loop, if that is one of its call, or
puts a new one of its call there, or neither. So the loops of other calls stay as
they are. A visit to a line takes off no loops but the innermost one, and that
only if the line is another one than its header and not deeper, unless the event
that was recorded last is of the same call and on a line with a `return`. -/
theorem stack_disciplined (t : Tracer) (events : List (Event Frame)) (event : Event Frame) :
    ∃ ended kept, (t.run .start events).loops = ended ++ kept ∧
      (∀ l ∈ ended, l.context = event.frame.id) ∧
      Advances event.frame.id kept (t.run .start (events ++ [event])).loops ∧
      ((t.run .start (events ++ [event])).loops.filter fun l => l.context ≠ event.frame.id) =
        ((t.run .start events).loops.filter fun l => l.context ≠ event.frame.id) ∧
      ∀ frame number, event = .line frame number →
        t.MayEnd (t.recordedEvents .start events).getLast? event ended := by
  obtain ⟨ended, hloops, hended⟩ := t.kept_ends (t.run .start events) event
  have hadvances := t.kept_advances (t.run .start events) event
  rw [run_append_singleton]
  refine ⟨ended, t.kept (t.run .start events) event, hloops, hended, hadvances, ?_, ?_⟩
  · have hothers : (ended.filter fun l => l.context ≠ event.frame.id) = [] := by
      rw [List.filter_eq_nil_iff]
      intro l hl
      simpa using hended l hl
    rw [hloops, List.filter_append, hothers, List.nil_append]
    generalize t.kept (t.run .start events) event = kept at hadvances ⊢
    generalize (t.step (t.run .start events) event).1.loops = after at hadvances ⊢
    cases hadvances with
    | same => rfl
    | @count top outer hkept hcontext => simp [hkept, hcontext, Loop.counted]
    | begin_ header => simp
  · rintro frame number rfl
    exact t.mayEnd_line events frame number hloops

end Tracer

end Stepwise.Trace
