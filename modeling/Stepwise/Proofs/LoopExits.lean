import Stepwise.Proofs.IterationCounts

/-!
# Visits that leave loops

A visit to a line ends the innermost loop of its call, if that is on top of the
stack and the line is outside of it, and looks no further. An exception may lead
control out of several loops at once. All of them but one are then still active
behind the visit, which shows them, and so may the steps that follow.

The last iteration of the loop that is ended counts if it was cut short by a
`break`. That is looked for on the line of the event that was recorded last, which
is one of another call if the call has made one since its own last step. For a
`return` it is made sure that the event is of the same call; for a `break` it is
not.

So there is an exact condition for both: a visit closes what it has left if that is
one loop, and the last counter goes by what the call itself did if the two lines
say the same of a `break`.

## Main results

* `exited_kept`: which loops a visit leaves active although it is outside of them.
* `exists_latestOf`: a call with an active loop has been recorded.
* `left_closed_iff`: when a visit leaves no such loop.
* `exit_counted_iff`: when the last counter of a loop goes by its own call.
-/

namespace Stepwise.Trace

open Stepwise.Run

/-- The loops of a call that are on top of the stack, innermost first. -/
def ownOnTop (context : UInt64) (loops : List Loop) : List Loop :=
  loops.takeWhile fun l => l.context == context

theorem ownOnTop_cons {context : UInt64} {top : Loop} (h : top.context = context)
    (outer : List Loop) : ownOnTop context (top :: outer) = top :: ownOnTop context outer :=
  List.takeWhile_cons_of_pos (by simpa using h)

theorem ownOnTop_cons_of_ne {context : UInt64} {top : Loop} (h : top.context ≠ context)
    (outer : List Loop) : ownOnTop context (top :: outer) = [] :=
  List.takeWhile_cons_of_neg (by simpa using h)

/-- Below the loops of a call on top comes one of another call, if any. -/
theorem ownOnTop_dropWhile (context : UInt64) (loops : List Loop) :
    ownOnTop context (loops.dropWhile fun l => l.context == context) = [] := by
  induction loops with
  | nil => rfl
  | cons top outer ih =>
      by_cases htop : top.context = context
      · rw [List.dropWhile_cons_of_pos (by simpa using htop)]
        exact ih
      · rw [List.dropWhile_cons_of_neg (by simpa using htop)]
        exact ownOnTop_cons_of_ne htop outer

namespace Tracer

variable {t : Tracer} {s : State} {frame : Frame} {number : UInt64}

/-! ## Loops that are left and still active -/

/-- Those loops of the call of an event on top of the stack that the line of the
event is outside of. -/
def exited (t : Tracer) (event : Event Frame) (loops : List Loop) : List Loop :=
  (ownOnTop event.frame.id loops).filter fun l => t.Exits event l

theorem exited_cons {event : Event Frame} {top : Loop} (htop : top.context = event.frame.id)
    (hinside : ¬ t.Exits event top) (outer : List Loop) :
    t.exited event (top :: outer) = t.exited event outer := by
  rw [exited, ownOnTop_cons htop, List.filter_cons_of_neg (by simpa using hinside)]
  rfl

theorem exited_eq_nil_iff {loops : List Loop} :
    t.exited (.line frame number) loops = [] ↔
      ∀ l ∈ ownOnTop frame.id loops, l.header = number.toNat - 1 ∨
        t.source.indentOf l.header < t.source.indentOf (number.toNat - 1) := by
  rw [exited, List.filter_eq_nil_iff]
  refine forall₂_congr fun l _ => ?_
  rw [decide_eq_true_eq, Exits, not_and_or, Decidable.not_not, Nat.not_le, eq_comm]
  rfl

/-- A line is not outside of the loop that it is the header of. -/
theorem not_exits_header {event : Event Frame} {loop : Loop}
    (h : loop.header = event.lineIndex) : ¬ t.Exits event loop :=
  fun hexits => hexits.1 h.symm

/-- A visit counts and begins loops at its own line only. -/
theorem exited_step (hrecorded : t.IsRecorded s (.line frame number)) :
    t.exited (.line frame number) (t.step s (.line frame number)).1.loops =
      t.exited (.line frame number) (t.kept s (.line frame number)) := by
  rcases step_loops_of_line hrecorded with ⟨-, heq⟩ |
    ⟨top, outer, hkept, hcontext, hline, heq⟩ | ⟨-, heq⟩
  · rw [heq]
  · have htop : ¬ t.Exits (.line frame number) top := not_exits_header hline
    have hcounted : ¬ t.Exits (.line frame number) top.counted := not_exits_header hline
    rw [heq, hkept, exited_cons hcontext htop, exited_cons hcontext hcounted]
  · have hnew : ¬ t.Exits (.line frame number) ⟨frame.id, number.toNat - 1, 0⟩ :=
      not_exits_header rfl
    rw [heq, exited_cons rfl hnew]

/-- What a visit to a line does with the loops of a call that has the innermost one. -/
theorem endLeft_line {before : Event Frame} {top : Loop} {outer : List Loop}
    (hloops : s.loops = top :: outer)
    (hbefore : s.origin? = some (before.frame.id, place before))
    (htop : top.context = frame.id) :
    t.endLeft frame.id (number.toNat - 1) s =
      if t.Cascades before (.line frame number) then t.endAll true frame.id s
      else if t.Exits (.line frame number) top then
        { s with
          loops := outer
          log := t.markEnd (Source.isBreak (t.source.text before.lineIndex)) top outer s.log }
      else s := by
  have hleft : t.endLeft (Event.line frame number).frame.id (Event.line frame number).lineIndex s =
      _ := endLeft_of_before hloops hbefore htop
  exact hleft

/-- Without a `return` of the call, a visit ends the innermost loop at most. -/
theorem exited_kept {before : Event Frame} (hrecorded : t.IsRecorded s (.line frame number))
    (hbefore : s.origin? = some (before.frame.id, place before)) :
    t.exited (.line frame number) (t.kept s (.line frame number)) =
      if t.Cascades before (.line frame number) then []
      else (ownOnTop frame.id s.loops).tail.filter fun l => t.Exits (.line frame number) l := by
  obtain ⟨hhalted, hsees, -⟩ := isRecorded_iff.mp hrecorded
  rw [kept_line, if_pos ⟨hhalted, hsees⟩]
  cases hloops : s.loops with
  | nil =>
      have hother : ∀ top ∈ s.loops.head?, top.context ≠ frame.id := by simp [hloops]
      rw [endLeft_of_other hother, hloops]
      simp [exited, ownOnTop]
  | cons top outer =>
      by_cases htop : top.context = frame.id
      · rw [endLeft_line hloops hbefore htop, ownOnTop_cons htop, List.tail_cons]
        split
        · rw [endAll_loops, exited, Event.frame, ownOnTop_dropWhile]
          rfl
        · split
          · rfl
          · next hinside =>
              rw [hloops, exited_cons htop hinside]
              rfl
      · have hother : ∀ l ∈ s.loops.head?, l.context ≠ frame.id := by simpa [hloops] using htop
        rw [endLeft_of_other hother, hloops, exited, Event.frame, ownOnTop_cons_of_ne htop]
        simp

/-! ## The latest event of a call -/

/-- The event of a call that was recorded last. -/
def latestOf (t : Tracer) (events : List (Event Frame)) (context : UInt64) :
    Option (Event Frame) :=
  ((t.recordedEvents .start events).filter fun event => event.frame.id = context).getLast?

/-- If no other call has been recorded since, it is the latest event of all. -/
theorem latestOf_eq_some {events : List (Event Frame)} {last : Event Frame}
    (h : (t.recordedEvents .start events).getLast? = some last) :
    t.latestOf events last.frame.id = some last := by
  obtain ⟨earlier, heq⟩ := List.getLast?_eq_some_iff.mp h
  rw [latestOf, heq, List.filter_append]
  simp

/-- The event at which a loop begins is recorded, and it is of the same call. -/
theorem Lives.isRecorded {context : UInt64} {header : Nat} {below : List Loop}
    {earlier during : List (Event Frame)} {first : Event Frame}
    (h : t.Lives context header below earlier first during) :
    t.IsRecorded (t.run .start earlier) first ∧ first.frame.id = context := by
  have hadvances := t.kept_advances (t.run .start earlier) first
  have hbegins := h.begins
  rw [run_append_singleton] at hbegins
  constructor
  · by_contra hnot
    rw [step_loops_of_not_isRecorded hnot, h.kept_eq] at hbegins
    simpa using congrArg List.length hbegins
  · rw [hbegins, h.kept_eq] at hadvances
    generalize hafter : (⟨context, header, 0⟩ : Loop) :: below = after at hadvances
    cases hadvances with
    | same => simpa using congrArg List.length hafter
    | @count top outer hkept _ =>
        have hlength := congrArg List.length hafter
        simp [hkept] at hlength
    | begin_ line => exact (Loop.mk.inj (List.cons.inj hafter).1).1.symm

/-- A call with an active loop has been recorded. -/
theorem exists_latestOf (t : Tracer) {events : List (Event Frame)} {loop : Loop}
    (h : loop ∈ (t.run .start events).loops) : ∃ own, t.latestOf events loop.context = some own := by
  obtain ⟨above, below, hloops⟩ := List.append_of_mem h
  obtain ⟨earlier, first, during, rfl, hlives, -⟩ := t.exists_lives events hloops
  obtain ⟨hrecorded, hcontext⟩ := hlives.isRecorded
  have hmem : first ∈ (t.recordedEvents .start (earlier ++ first :: during)).filter
      fun event => event.frame.id = loop.context := by
    rw [recordedEvents_append, recordedEvents, if_pos hrecorded]
    simp [hcontext]
  exact ⟨_, List.getLast?_eq_some_getLast (List.ne_nil_of_mem hmem)⟩

/-! ## Loops that a visit closes -/

/-- Whether a visit ends all loops of its call on top of the stack, since the event
that was recorded last is of the same call and on a line with a `return`. -/
def FollowsReturn (t : Tracer) (events : List (Event Frame)) (event : Event Frame) : Prop :=
  ∃ last ∈ (t.recordedEvents .start events).getLast?, t.Cascades last event

instance (t : Tracer) (events : List (Event Frame)) (event : Event Frame) :
    Decidable (t.FollowsReturn events event) :=
  inferInstanceAs (Decidable (∃ last ∈ _, _))

theorem exited_run {events : List (Event Frame)}
    (hrecorded : t.IsRecorded (t.run .start events) (.line frame number)) :
    (t.FollowsReturn events (.line frame number) →
      t.exited (.line frame number) (t.run .start (events ++ [.line frame number])).loops = []) ∧
    (¬ t.FollowsReturn events (.line frame number) →
      t.exited (.line frame number) (t.run .start (events ++ [.line frame number])).loops =
        (ownOnTop frame.id (t.run .start events).loops).tail.filter
          fun l => t.Exits (.line frame number) l) := by
  have horigin := t.origin?_run events
  rw [run_append_singleton, exited_step hrecorded]
  cases hlast : (t.recordedEvents .start events).getLast? with
  | none =>
      have hloops : (t.run .start events).loops = [] := by
        rw [List.eq_nil_iff_forall_not_mem]
        intro loop hloop
        obtain ⟨own, hown⟩ := t.exists_latestOf hloop
        simp [latestOf, List.getLast?_eq_none_iff.mp hlast] at hown
      obtain ⟨ended, hended, -⟩ := t.kept_ends (t.run .start events) (.line frame number)
      rw [hloops] at hended ⊢
      rw [(List.append_eq_nil_iff.mp hended.symm).2]
      exact ⟨fun _ => rfl, fun _ => rfl⟩
  | some last =>
      rw [hlast] at horigin
      have hreturn : t.FollowsReturn events (.line frame number) ↔
          t.Cascades last (.line frame number) := by
        simp [FollowsReturn, hlast]
      rw [exited_kept hrecorded horigin, hreturn]
      exact ⟨fun h => if_pos h, fun h => if_neg h⟩

/-- A visit is inside of all loops of its call that it leaves on top of the stack
exactly if it was outside of none but the innermost one, or all of them have been
ended on account of a `return`. Else those that it was outside of, up to the
innermost one, are still active. -/
theorem left_closed_iff (t : Tracer) (events : List (Event Frame)) (frame : Frame)
    (number : UInt64)
    (hrecorded : t.IsRecorded (t.run .start events) (.line frame number)) :
    ((∀ l ∈ ownOnTop frame.id (t.run .start (events ++ [.line frame number])).loops,
        l.header = number.toNat - 1 ∨
          t.source.indentOf l.header < t.source.indentOf (number.toNat - 1)) ↔
      t.FollowsReturn events (.line frame number) ∨
        ∀ l ∈ (ownOnTop frame.id (t.run .start events).loops).tail,
          ¬ t.Exits (.line frame number) l) ∧
    (¬ t.FollowsReturn events (.line frame number) →
      t.exited (.line frame number) (t.run .start (events ++ [.line frame number])).loops =
        (ownOnTop frame.id (t.run .start events).loops).tail.filter
          fun l => t.Exits (.line frame number) l) := by
  obtain ⟨hreturn, hvisit⟩ := t.exited_run hrecorded
  refine ⟨?_, hvisit⟩
  rw [← exited_eq_nil_iff]
  by_cases hfollows : t.FollowsReturn events (.line frame number)
  · exact iff_of_true (hreturn hfollows) (.inl hfollows)
  · rw [hvisit hfollows, or_iff_right hfollows, List.filter_eq_nil_iff]
    simp only [decide_eq_true_eq]

/-- The program itself, as its events show it. -/
def programFrame : Frame := ⟨1, "<module>", "<string>", []⟩

/-- Two loops in one, with a handler for what goes wrong in the inner one. -/
def handled : Tracer :=
  ⟨.ofText "try:\n  for x in s:\n    for y in x:\n      f(y)\nexcept E:\n  x\n".toList,
    .standard, .standard⟩

/-- A run up to the line that raises the exception. -/
def handledEvents : List (Event Frame) := [2, 3, 4].map (.line programFrame)

private theorem handled_visit :
    handled.IsRecorded (handled.run .start handledEvents) (.line programFrame 5) ∧
      ¬ handled.FollowsReturn handledEvents (.line programFrame 5) := by
  decide +kernel

/-- The handler is outside of both loops, and the outer one is still active there. -/
theorem left_closed_iff_handled :
    handled.IsRecorded (handled.run .start handledEvents) (.line programFrame 5) ∧
      handled.exited (.line programFrame 5)
        (handled.run .start (handledEvents ++ [.line programFrame 5])).loops = [⟨1, 1, 0⟩] := by
  obtain ⟨hrecorded, hnot⟩ := handled_visit
  obtain ⟨-, hleft⟩ := handled.left_closed_iff handledEvents programFrame 5 hrecorded
  exact ⟨hrecorded, (hleft hnot).trans (by decide +kernel)⟩

/-- A loop can be active on top of the stack at a line outside of it. -/
theorem not_forall_left_closed :
    ¬ ∀ (t : Tracer) (events : List (Event Frame)) (frame : Frame) (number : UInt64),
      t.IsRecorded (t.run .start events) (.line frame number) →
      ∀ l ∈ ownOnTop frame.id (t.run .start (events ++ [.line frame number])).loops,
        l.header = number.toNat - 1 ∨
          t.source.indentOf l.header < t.source.indentOf (number.toNat - 1) := by
  intro h
  have houter := h handled handledEvents programFrame 5 handled_visit.1
  revert houter
  decide +kernel

/-! ## The last counter of a loop that is left -/

/-- The last counter of a loop, if its last iteration counts exactly when there is a
`break` on the line of an event. -/
def countBehind (t : Tracer) (before : Event Frame) (loop : Loop) : Nat :=
  if Source.isBreak (t.source.text before.lineIndex) then loop.iteration + 1 else loop.iteration

theorem countBehind_eq_iff {before before' : Event Frame} {loop : Loop} :
    t.countBehind before loop = t.countBehind before' loop ↔
      Source.isBreak (t.source.text before.lineIndex) =
        Source.isBreak (t.source.text before'.lineIndex) := by
  unfold countBehind
  cases Source.isBreak (t.source.text before.lineIndex) <;>
    cases Source.isBreak (t.source.text before'.lineIndex) <;> simp

/-- The marks of an end tell its counter, if there are any. -/
theorem MarksEnd.iff_eq {log log' : Log} {loop : Loop} {count : Nat} {below : List Loop}
    (h : t.MarksEnd log log' loop count below) (count' : Nat) :
    t.MarksEnd log log' loop count' below ↔
      t.source.loopBody loop.header = [] ∨ count' = count := by
  constructor
  · intro h'
    cases hbody : t.source.loopBody loop.header with
    | nil => exact .inl rfl
    | cons n rest =>
        have hmem : n ∈ t.source.loopBody loop.header := by simp [hbody]
        have hsame : t.endMark loop count' below n = t.endMark loop count below n :=
          List.append_cancel_left ((h' n).symm.trans (h n))
        rw [endMark, endMark, if_pos hmem, if_pos hmem] at hsame
        right
        simpa [loopsOf] using hsame
  · rintro (hbody | rfl)
    · intro n
      rw [h n, endMark, endMark, hbody]
      simp
    · exact h

/-- A visit that leaves the innermost loop ends it, and its last counter goes by the
event that was recorded last. -/
theorem exit_marksEnd {before : Event Frame} {top : Loop} {outer : List Loop}
    (hrecorded : t.IsRecorded s (.line frame number)) (hloops : s.loops = top :: outer)
    (hbefore : s.origin? = some (before.frame.id, place before)) (htop : top.context = frame.id)
    (hcascades : ¬ t.Cascades before (.line frame number))
    (hexits : t.Exits (.line frame number) top) :
    t.kept s (.line frame number) = outer ∧
      t.MarksEnd s.log (t.step s (.line frame number)).1.log top (t.countBehind before top)
        outer := by
  obtain ⟨hhalted, hsees, -⟩ := isRecorded_iff.mp hrecorded
  have hleft : t.endLeft frame.id (number.toNat - 1) s = _ := endLeft_line hloops hbefore htop
  rw [if_neg hcascades, if_pos hexits] at hleft
  constructor
  · rw [kept_line, if_pos ⟨hhalted, hsees⟩, hleft]
  · intro n
    rw [endsAt_step_line hhalted hsees, hleft, endsAt_markEnd, if_pos rfl]
    rfl

/-- A visit that leaves the innermost loop, which is one of its call, without a
`return` of the call ends it. Its last iteration counts if there is a `break` on the
line of the event that was recorded last. That is what the event of the same call
that was recorded last says exactly if both lines have a `break` or neither, or if
the loop has no lines for marks; so it is if no other call has been recorded since. -/
theorem exit_counted_iff (t : Tracer) (events : List (Event Frame)) (frame : Frame)
    (number : UInt64) {top : Loop} {outer : List Loop}
    (hrecorded : t.IsRecorded (t.run .start events) (.line frame number))
    (hloops : (t.run .start events).loops = top :: outer) (htop : top.context = frame.id)
    (hexits : t.Exits (.line frame number) top)
    (hreturn : ∀ own ∈ t.latestOf events frame.id,
      Source.isReturn (t.source.text own.lineIndex) = false) :
    t.kept (t.run .start events) (.line frame number) = outer ∧
      ∃ last own, (t.recordedEvents .start events).getLast? = some last ∧
        t.latestOf events frame.id = some own ∧
        t.MarksEnd (t.run .start events).log (t.run .start (events ++ [.line frame number])).log
          top (t.countBehind last top) outer ∧
        (t.MarksEnd (t.run .start events).log (t.run .start (events ++ [.line frame number])).log
            top (t.countBehind own top) outer ↔
          t.source.loopBody top.header = [] ∨
            Source.isBreak (t.source.text own.lineIndex) =
              Source.isBreak (t.source.text last.lineIndex)) ∧
        (last.frame.id = frame.id → last = own) := by
  have hactive : top ∈ (t.run .start events).loops := by simp [hloops]
  obtain ⟨own, hown⟩ := t.exists_latestOf hactive
  rw [htop] at hown
  have hsame : ∀ last, (t.recordedEvents .start events).getLast? = some last →
      last.frame.id = frame.id → last = own := by
    intro last hlast hid
    exact Option.some.inj ((latestOf_eq_some hlast).symm.trans (hid ▸ hown))
  have horigin := t.origin?_run events
  cases hlast : (t.recordedEvents .start events).getLast? with
  | none => simp [latestOf, List.getLast?_eq_none_iff.mp hlast] at hown
  | some last =>
      rw [hlast] at horigin
      have hcascades : ¬ t.Cascades last (.line frame number) := by
        rintro ⟨hid, hreturned⟩
        rw [hsame last hlast hid, hreturn own hown] at hreturned
        cases hreturned
      obtain ⟨hkept, hmarks⟩ := exit_marksEnd hrecorded hloops horigin htop hcascades hexits
      rw [run_append_singleton]
      refine ⟨hkept, last, own, rfl, hown, hmarks, ?_, hsame last hlast⟩
      rw [hmarks.iff_eq, countBehind_eq_iff]

/-- A loop that is left behind a call, on one line with the `break`. -/
def sifted : Tracer :=
  ⟨.ofText "def f(x):\n  return x\nfor x in s:\n  if f(x): break\nx\n".toList, .standard,
    .standard⟩

/-- The call of its function, as its events show it. -/
def functionFrame : Frame := ⟨2, "f", "<string>", []⟩

/-- One iteration, which the `break` cuts short once the call has returned. -/
def siftedEvents : List (Event Frame) :=
  [.line programFrame 3, .line programFrame 4, .line functionFrame 2,
    .leave functionFrame 2 .none]

private theorem sifted_visit :
    sifted.IsRecorded (sifted.run .start siftedEvents) (.line programFrame 5) ∧
      (sifted.run .start siftedEvents).loops = [⟨1, 2, 0⟩] ∧
      sifted.Exits (.line programFrame 5) ⟨1, 2, 0⟩ ∧
      Source.isReturn (sifted.source.text 3) = false := by
  decide +kernel

private theorem sifted_latestOf :
    sifted.latestOf siftedEvents 1 = some (.line programFrame 4) := rfl

/-- The iteration that is cut short is not counted. -/
theorem exit_counted_iff_sifted :
    sifted.IsRecorded (sifted.run .start siftedEvents) (.line programFrame 5) ∧
      (sifted.run .start siftedEvents).loops = [⟨1, 2, 0⟩] ∧
      sifted.Exits (.line programFrame 5) ⟨1, 2, 0⟩ ∧
      (∀ own ∈ sifted.latestOf siftedEvents 1,
        Source.isReturn (sifted.source.text own.lineIndex) = false) ∧
      sifted.MarksEnd (sifted.run .start siftedEvents).log
        (sifted.run .start (siftedEvents ++ [.line programFrame 5])).log ⟨1, 2, 0⟩ 0 [] := by
  obtain ⟨hrecorded, hloops, hexits, hline⟩ := sifted_visit
  have hreturn : ∀ own ∈ sifted.latestOf siftedEvents 1,
      Source.isReturn (sifted.source.text own.lineIndex) = false := by
    rw [sifted_latestOf]
    rintro own ⟨⟩
    exact hline
  obtain ⟨-, last, own, hlast, -, hmarks, -⟩ := sifted.exit_counted_iff siftedEvents programFrame 5
    hrecorded hloops rfl hexits hreturn
  obtain rfl : last = .leave functionFrame 2 .none := Option.some.inj hlast.symm
  exact ⟨hrecorded, hloops, hexits, hreturn, hmarks⟩

/-- The last counter of a loop need not go by its own call. -/
theorem not_forall_exit_counted :
    ¬ ∀ (t : Tracer) (events : List (Event Frame)) (frame : Frame) (number : UInt64) (top : Loop)
      (outer : List Loop) (own : Event Frame),
      t.IsRecorded (t.run .start events) (.line frame number) →
      (t.run .start events).loops = top :: outer → top.context = frame.id →
      t.Exits (.line frame number) top → t.latestOf events frame.id = some own →
      Source.isReturn (t.source.text own.lineIndex) = false →
      t.MarksEnd (t.run .start events).log (t.run .start (events ++ [.line frame number])).log
        top (t.countBehind own top) outer := by
  intro h
  obtain ⟨hrecorded, hloops, hexits, hline⟩ := sifted_visit
  have hmarks := h sifted siftedEvents programFrame 5 ⟨1, 2, 0⟩ [] (.line programFrame 4)
    hrecorded hloops rfl hexits sifted_latestOf hline 3
  revert hmarks
  decide +kernel

end Tracer

end Stepwise.Trace
