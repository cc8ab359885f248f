import Mathlib.Data.List.ModifyLast
import Stepwise.Proofs.ReturningCalls

/-!
# Marks that a return makes

A call that returns ends its loops on top of the stack, and there are two ways in
which it does. On a line with a `return` all of them are ended in the middle of an
iteration, which is counted for each. They are ended from the inside out, and the
mark of a loop shows what is around it as it was before. So the marks can be told
from the loops that the step of the return shows: the first one has all of them, and
every further one leaves the innermost out.

On any other line they are ended as they are. That is right for a loop whose header
has been visited again, but not behind a `break`: a visit to a line counts the
iteration that the `break` cuts short, and a return from the line of the `break`
does not. The same loop gets another last counter if the function ends there.

## Main results

* `return_cascades`: what a return from a line with a `return` does.
* `break_endings_iff`: when both ways to end a loop behind a `break` leave the same
  marks.
-/

namespace Stepwise.Trace

open Stepwise.Run

/-- The loops that are left when the `inside` innermost ones are taken away, the
innermost of them with one more iteration. -/
def Loops.cutCounted (loops : Loops) (inside : Nat) : Loops :=
  let depth := loops.headers.length - inside
  ⟨(loops.iterations.take depth).modifyLast (· + 1), loops.headers.take depth⟩

theorem loopsOf_cutCounted (inner : List Loop) (l : Loop) (rest : List Loop) :
    (loopsOf (inner ++ l :: rest)).cutCounted inner.length = loopsOf (l.counted :: rest) := by
  have hdepth : (loopsOf (inner ++ l :: rest)).headers.length - inner.length =
      rest.length + 1 := by
    simp only [loopsOf, List.length_map, List.length_reverse, List.length_append, List.length_cons]
    omega
  have hreverse : (inner ++ l :: rest).reverse = (l :: rest).reverse ++ inner.reverse :=
    List.reverse_append
  have hlength : ∀ f : Loop → Nat, ((l :: rest).reverse.map f).length = rest.length + 1 := by simp
  have htake : ∀ f : Loop → Nat, ((inner ++ l :: rest).reverse.map f).take (rest.length + 1) =
      rest.reverse.map f ++ [f l] := by
    intro f
    rw [hreverse, List.map_append, List.take_left' (hlength f), List.reverse_cons,
      List.map_append, List.map_singleton]
  rw [Loops.cutCounted, hdepth]
  simp only [loopsOf, htake, List.modifyLast_concat, List.reverse_cons, List.map_append]
  rfl

/-- A stack taken apart into the loops of a call on top and the rest. -/
theorem split_own {context : UInt64} {own outer : List Loop} (hown : ∀ l ∈ own, l.context = context)
    (houter : ∀ l ∈ outer.head?, l.context ≠ context) :
    ownOnTop context (own ++ outer) = own ∧
      ((own ++ outer).dropWhile fun l => l.context == context) = outer := by
  have hall : ∀ l ∈ own, (l.context == context) = true := by simpa using hown
  have hsplit : ownOnTop context outer = [] ∧
      (outer.dropWhile fun l => l.context == context) = outer := by
    cases outer with
    | nil => exact ⟨rfl, rfl⟩
    | cons l rest =>
        have hl : l.context ≠ context := houter l rfl
        exact ⟨ownOnTop_cons_of_ne hl rest, List.dropWhile_cons_of_neg (by simpa using hl)⟩
  constructor
  · have hown' : ownOnTop context (own ++ outer) = own ++ ownOnTop context outer :=
      List.takeWhile_append_of_pos hall
    rw [hown', hsplit.1, List.append_nil]
  · rw [List.dropWhile_append_of_pos hall, hsplit.2]

namespace Tracer

variable {t : Tracer} {s : State} {frame : Frame} {number : UInt64} {value : Value}
  {context : UInt64}

/-! ## Returns from a line with a `return` -/

/-- A call that has just returned from a line with a `return` ends all its loops on
top of the stack. -/
theorem endLeft_of_return {line index : Nat}
    (hlatest : s.latest = some ⟨context, .leave line, index⟩)
    (hreturn : Source.isReturn (t.source.text line) = true) :
    t.endLeft context line s = t.endAll true context s := by
  by_cases hother : ∀ top ∈ s.loops.head?, top.context ≠ context
  · rw [endLeft_of_other hother, endAll_of_other true hother]
  · push Not at hother
    obtain ⟨top, htop, hown⟩ := hother
    obtain ⟨outer, hloops⟩ := List.head?_eq_some_iff.mp htop
    rw [endLeft_of_own hloops hlatest hown, if_pos ⟨rfl, hreturn⟩]

/-- Once its loops on top of the stack are ended, a call has no more to end. -/
theorem endAll_endAll (counted : Bool) (s : State) :
    t.endAll counted context (t.endAll true context s) = t.endAll true context s := by
  refine endAll_of_other counted fun top htop => ?_
  have hnot := List.head?_dropWhile_not (fun l : Loop => l.context == context) s.loops
  rw [endAll_loops, Option.mem_def] at htop
  rw [htop] at hnot
  simpa using hnot

/-- A return from a line with a `return` records its step and then ends all loops of
its call on top of the stack. -/
theorem step_return (hrecorded : t.IsRecorded s (.leave frame number value))
    (hreturn : Source.isReturn (t.source.text (number.toNat - 1)) = true) :
    (t.step s (.leave frame number value)).1 = t.endAll true frame.id
      (t.record frame (.leave (number.toNat - 1)) (t.format.show? value) s) := by
  rw [step_leave hrecorded, endLeft_of_return rfl hreturn, endAll_endAll, ite_self]

/-- The marks of loops that are ended one after the other, told from what the whole
stack shows. -/
theorem endMarks_eq (key : Key) (inner own outer : List Loop) :
    (t.endMarks true key own outer).map Record.entry =
      (own.zipIdx inner.length).filterMap fun entry =>
        if key ∈ (t.source.loopBody entry.1.header).map Key.line then
          some (.endLoop ((loopsOf (inner ++ own ++ outer)).cutCounted entry.2))
        else none := by
  induction own generalizing inner with
  | nil => rfl
  | cons l own ih =>
      have hstack : inner ++ (l :: own) ++ outer = inner ++ [l] ++ own ++ outer := by simp
      have hlength : (inner ++ [l]).length = inner.length + 1 := by simp
      have hcut : (loopsOf (inner ++ [l] ++ own ++ outer)).cutCounted inner.length =
          loopsOf (l.counted :: (own ++ outer)) := by
        rw [← loopsOf_cutCounted inner]
        simp
      rw [endMarks, List.map_append, ih (inner ++ [l]), hlength, hstack, List.zipIdx_cons,
        List.filterMap_cons, hcut]
      by_cases hbody : key ∈ (t.source.loopBody l.header).map Key.line
      · simp only [if_pos hbody]
        rfl
      · simp only [if_neg hbody]
        rfl

/-- A return from a line with a `return` ends the loops of its call on top of the
stack. The step that it records shows all loops as they were. The mark of an ended loop
is on the lines of its body, behind the marks of those inside of it; it shows the loops
up to that one as they were, and only that one counted. -/
theorem return_cascades (t : Tracer) (events : List (Event Frame)) (frame : Frame)
    (number : UInt64) (value : Value) {own outer : List Loop}
    (hrecorded : t.IsRecorded (t.run .start events) (.leave frame number value))
    (hreturn : Source.isReturn (t.source.text (number.toNat - 1)) = true)
    (hloops : (t.run .start events).loops = own ++ outer)
    (hown : ∀ l ∈ own, l.context = frame.id) (houter : ∀ l ∈ outer.head?, l.context ≠ frame.id) :
    (t.run .start (events ++ [.leave frame number value])).loops = outer ∧
      ∀ key, (t.run .start (events ++ [.leave frame number value])).log.trail key =
        (t.run .start events).log.trail key ++
          (if key = .leave (number.toNat - 1) then
            [.step (t.run .start events).time (loopsOf (own ++ outer))] else []) ++
          own.zipIdx.filterMap fun entry =>
            if key ∈ (t.source.loopBody entry.1.header).map Key.line then
              some (.endLoop ((loopsOf (own ++ outer)).cutCounted entry.2))
            else none := by
  obtain ⟨htake, hdrop⟩ := split_own hown houter
  rw [run_append_singleton, step_return hrecorded hreturn]
  generalize t.run .start events = s at hloops ⊢
  have hrecord : (t.record frame (.leave (number.toNat - 1)) (t.format.show? value) s).loops =
      own ++ outer := hloops
  constructor
  · rw [endAll_loops, hrecord, hdrop]
  · intro key
    have hmarks := endMarks_eq (t := t) key [] own outer
    rw [trail_endAll, hrecord, htake, hdrop, hmarks, trail_record, hloops]
    rfl

/-- A function that returns from inside of two loops, called in a loop. -/
def finder : Tracer :=
  ⟨.ofText ("def f(s):\n  for x in s:\n    for y in x:\n      return y\n" ++
    "for i in s:\n  f(i)\n").toList, .standard, .standard⟩

/-- A run up to the line that returns. -/
def finderEvents : List (Event Frame) :=
  [.line programFrame 5, .line programFrame 6] ++ [2, 3, 4].map (.line functionFrame)

private theorem finder_leave :
    finder.IsRecorded (finder.run .start finderEvents) (.leave functionFrame 4 .none) ∧
      Source.isReturn (finder.source.text 3) = true ∧
      (finder.run .start finderEvents).loops = [⟨2, 2, 0⟩, ⟨2, 1, 0⟩] ++ [⟨1, 4, 0⟩] := by
  decide +kernel

/-- Both loops of the function are ended, the inner one first, and the loop around the
call goes on. -/
theorem return_cascades_finder :
    finder.IsRecorded (finder.run .start finderEvents) (.leave functionFrame 4 .none) ∧
      Source.isReturn (finder.source.text 3) = true ∧
      (finder.run .start finderEvents).loops = [⟨2, 2, 0⟩, ⟨2, 1, 0⟩] ++ [⟨1, 4, 0⟩] ∧
      (∀ l ∈ ([⟨2, 2, 0⟩, ⟨2, 1, 0⟩] : List Loop), l.context = functionFrame.id) ∧
      (∀ l ∈ ([⟨1, 4, 0⟩] : List Loop).head?, l.context ≠ functionFrame.id) ∧
      (finder.run .start (finderEvents ++ [.leave functionFrame 4 .none])).loops = [⟨1, 4, 0⟩] ∧
      (finder.run .start (finderEvents ++ [.leave functionFrame 4 .none])).log.trail (.line 3) =
        (finder.run .start finderEvents).log.trail (.line 3) ++
          [.endLoop ⟨[0, 0, 1], [4, 1, 2]⟩, .endLoop ⟨[0, 1], [4, 1]⟩] := by
  obtain ⟨hrecorded, hreturn, hloops⟩ := finder_leave
  have hown : ∀ l ∈ ([⟨2, 2, 0⟩, ⟨2, 1, 0⟩] : List Loop), l.context = functionFrame.id := by
    decide
  have houter : ∀ l ∈ ([⟨1, 4, 0⟩] : List Loop).head?, l.context ≠ functionFrame.id := by
    decide
  obtain ⟨hafter, htrail⟩ := finder.return_cascades finderEvents functionFrame 4 .none hrecorded
    hreturn hloops hown houter
  refine ⟨hrecorded, hreturn, hloops, hown, houter, hafter, (htrail (.line 3)).trans ?_⟩
  rw [if_neg (by decide), List.append_nil]
  exact congrArg _ (by decide +kernel)

/-! ## Returns behind a `break` -/

/-- A return from a line without a `return` that is inside of the innermost loop ends
that loop as it is. -/
theorem finish_marksEnd {top : Loop} {outer : List Loop}
    (hrecorded : t.IsRecorded s (.leave frame number value)) (hloops : s.loops = top :: outer)
    (htop : top.context = frame.id)
    (hfinal : Source.isSuspension (t.source.text (number.toNat - 1)) = false)
    (hreturn : Source.isReturn (t.source.text (number.toNat - 1)) = false)
    (hinside : t.source.indentOf top.header < t.source.indentOf (number.toNat - 1)) :
    t.MarksEnd s.log (t.step s (.leave frame number value)).1.log top top.iteration outer := by
  have hrecord : (t.record frame (.leave (number.toNat - 1)) (t.format.show? value) s).loops =
      top :: outer := hloops
  have hreturned : ¬ (frame.id = frame.id ∧
      Source.isReturn (t.source.text (number.toNat - 1)) = true) := by simp [hreturn]
  have hexits : ¬ (number.toNat - 1 ≠ top.header ∧
      t.source.indentOf (number.toNat - 1) ≤ t.source.indentOf top.header) :=
    fun h => Nat.not_le.mpr hinside h.2
  have hleft := endLeft_of_own (t := t) hrecord rfl htop (number.toNat - 1)
  rw [Key.lineNumber, if_neg hreturned, if_neg hexits] at hleft
  intro n
  rw [step_leave hrecorded, if_neg (by simp [hfinal]), hleft, endAll, hrecord]
  have habove : ∀ l ∈ ([] : List Loop), l.context = frame.id := by simp
  have hends := t.endsAt_endOwn false outer
    (t.record frame (.leave (number.toNat - 1)) (t.format.show? value) s).log n habove htop
  rw [List.nil_append, endsAt_record] at hends
  exact hends

/-- Behind a `break`, a visit that leaves the innermost loop counts the iteration that
the `break` cuts short. A return from the line of the `break` does not, so that the two
leave the same marks only if the loop has no lines for marks. -/
theorem break_endings_iff (t : Tracer) (events : List (Event Frame))
    {before visiting returning : Frame} {line number number' : UInt64} {value : Value} {top : Loop}
    {outer : List Loop}
    (hlast : (t.recordedEvents .start events).getLast? = some (.line before line))
    (hloops : (t.run .start events).loops = top :: outer) (htop : top.context = before.id)
    (hbreak : Source.isBreak (t.source.text (line.toNat - 1)) = true)
    (hreturn : Source.isReturn (t.source.text (line.toNat - 1)) = false)
    (hfinal : Source.isSuspension (t.source.text (line.toNat - 1)) = false)
    (hinside : t.source.indentOf top.header < t.source.indentOf (line.toNat - 1))
    (hvisit : t.IsRecorded (t.run .start events) (.line visiting number))
    (hvisiting : visiting.id = before.id) (hexits : t.Exits (.line visiting number) top)
    (hleave : t.IsRecorded (t.run .start events) (.leave returning number' value))
    (hreturning : returning.id = before.id) (hsame : number'.toNat - 1 = line.toNat - 1) :
    t.MarksEnd (t.run .start events).log (t.run .start (events ++ [.line visiting number])).log
        top (top.iteration + 1) outer ∧
      t.MarksEnd (t.run .start events).log
        (t.run .start (events ++ [.leave returning number' value])).log top top.iteration outer ∧
      ((∀ n, (t.run .start (events ++ [.line visiting number])).log.endsAt n outer.length =
          (t.run .start (events ++ [.leave returning number' value])).log.endsAt n outer.length) ↔
        t.source.loopBody top.header = []) := by
  have horigin := t.origin?_run events
  rw [hlast] at horigin
  simp only [run_append_singleton]
  generalize t.run .start events = s at *
  have hvisited : t.MarksEnd s.log (t.step s (.line visiting number)).1.log top
      (top.iteration + 1) outer := by
    have hcascades : ¬ t.Cascades (.line before line) (.line visiting number) := by
      rintro ⟨-, hreturned⟩
      exact absurd (hreturned.symm.trans hreturn) (by decide)
    have hmarks := (exit_marksEnd hvisit hloops horigin (htop.trans hvisiting.symm) hcascades
      hexits).2
    rwa [countBehind, Event.lineIndex, if_pos hbreak] at hmarks
  have hreturned : t.MarksEnd s.log (t.step s (.leave returning number' value)).1.log top
      top.iteration outer :=
    finish_marksEnd hleave hloops (htop.trans hreturning.symm) (hsame ▸ hfinal) (hsame ▸ hreturn)
      (hsame ▸ hinside)
  refine ⟨hvisited, hreturned, fun halike => ?_, fun hbody n => ?_⟩
  · have hcounted : t.MarksEnd s.log (t.step s (.leave returning number' value)).1.log top
        (top.iteration + 1) outer := fun n => (halike n).symm.trans (hvisited n)
    rcases (hreturned.iff_eq _).mp hcounted with hbody | hcount
    · exact hbody
    · omega
  · have hcounted := (hreturned.iff_eq (top.iteration + 1)).mpr (.inl hbody)
    exact (hvisited n).trans (hcounted n).symm

/-- A function whose last statement is a loop that is left by a `break`. -/
def picker : Tracer :=
  ⟨.ofText "def f(s):\n  for x in s:\n    break\nf([1, 2])\n".toList, .standard, .standard⟩

/-- A run up to the `break`. -/
def pickerEvents : List (Event Frame) := [2, 3].map (.line functionFrame)

private theorem picker_break :
    (picker.run .start pickerEvents).loops = [⟨2, 1, 0⟩] ∧
      Source.isBreak (picker.source.text 2) = true ∧
      Source.isReturn (picker.source.text 2) = false ∧
      Source.isSuspension (picker.source.text 2) = false ∧
      picker.source.indentOf 1 < picker.source.indentOf 2 ∧
      picker.IsRecorded (picker.run .start pickerEvents) (.line functionFrame 4) ∧
      picker.Exits (.line functionFrame 4) ⟨2, 1, 0⟩ ∧
      picker.IsRecorded (picker.run .start pickerEvents) (.leave functionFrame 3 .none) := by
  decide +kernel

/-- The iteration that is cut short is counted by a visit and not by the return. -/
theorem break_endings_iff_picker :
    (picker.recordedEvents .start pickerEvents).getLast? = some (.line functionFrame 3) ∧
      (picker.run .start pickerEvents).loops = [⟨2, 1, 0⟩] ∧
      Source.isBreak (picker.source.text 2) = true ∧
      Source.isReturn (picker.source.text 2) = false ∧
      Source.isSuspension (picker.source.text 2) = false ∧
      picker.source.indentOf 1 < picker.source.indentOf 2 ∧
      picker.IsRecorded (picker.run .start pickerEvents) (.line functionFrame 4) ∧
      picker.Exits (.line functionFrame 4) ⟨2, 1, 0⟩ ∧
      picker.IsRecorded (picker.run .start pickerEvents) (.leave functionFrame 3 .none) ∧
      picker.MarksEnd (picker.run .start pickerEvents).log
        (picker.run .start (pickerEvents ++ [.line functionFrame 4])).log ⟨2, 1, 0⟩ 1 [] ∧
      picker.MarksEnd (picker.run .start pickerEvents).log
        (picker.run .start (pickerEvents ++ [.leave functionFrame 3 .none])).log ⟨2, 1, 0⟩ 0 [] := by
  obtain ⟨hloops, hbreak, hreturn, hfinal, hinside, hvisit, hexits, hleave⟩ := picker_break
  have hlast : (picker.recordedEvents .start pickerEvents).getLast? =
      some (.line functionFrame 3) := rfl
  obtain ⟨hvisited, hreturned, -⟩ := picker.break_endings_iff pickerEvents hlast hloops rfl hbreak
    hreturn hfinal hinside hvisit rfl hexits hleave rfl rfl
  exact ⟨hlast, hloops, hbreak, hreturn, hfinal, hinside, hvisit, hexits, hleave, hvisited,
    hreturned⟩

/-- The marks of a loop that is left by a `break` need not be the same when its call
returns from the line of the `break`. -/
theorem not_forall_break_endings :
    ¬ ∀ (t : Tracer) (events : List (Event Frame)) (before visiting returning : Frame)
      (line number number' : UInt64) (value : Value) (top : Loop) (outer : List Loop),
      (t.recordedEvents .start events).getLast? = some (.line before line) →
      (t.run .start events).loops = top :: outer → top.context = before.id →
      Source.isBreak (t.source.text (line.toNat - 1)) = true →
      Source.isReturn (t.source.text (line.toNat - 1)) = false →
      Source.isSuspension (t.source.text (line.toNat - 1)) = false →
      t.source.indentOf top.header < t.source.indentOf (line.toNat - 1) →
      t.IsRecorded (t.run .start events) (.line visiting number) → visiting.id = before.id →
      t.Exits (.line visiting number) top →
      t.IsRecorded (t.run .start events) (.leave returning number' value) →
      returning.id = before.id → number'.toNat - 1 = line.toNat - 1 →
      ∀ n, (t.run .start (events ++ [.line visiting number])).log.endsAt n outer.length =
        (t.run .start (events ++ [.leave returning number' value])).log.endsAt n outer.length := by
  intro h
  obtain ⟨hloops, hbreak, hreturn, hfinal, hinside, hvisit, hexits, hleave⟩ := picker_break
  have hsame := h picker pickerEvents functionFrame functionFrame functionFrame 3 4 3 .none
    ⟨2, 1, 0⟩ [] rfl hloops rfl hbreak hreturn hfinal hinside hvisit rfl hexits hleave rfl rfl 2
  revert hsame
  decide +kernel

end Tracer

end Stepwise.Trace
