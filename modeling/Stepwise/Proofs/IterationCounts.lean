import Stepwise.Proofs.Nesting
import Stepwise.Proofs.StackDiscipline

/-!
# Counters of iterations

A loop is counted in one place and its end may count once more in three, while
other calls and inner loops come and go on the same stack. Its own number is
seen from outside in the steps that its header gets. A visit to the header that
finds the loop on top is recorded first and counted then, so these steps show
zero, one and so on, and the counter is the number of them.

A loop is told apart from the others by its depth, which stays as it is for as
long as the loop is active. So what is followed through a run is a stack of the
form `above ++ loop :: below`, where an event may change anything in front of
the loop, may count it if nothing is, and leaves what is below alone
(`step_counts`).

## Main results

* `addedAt_eq`: which step an event adds to a place.
* `step_counts`: how the counter of a loop goes with the steps at its header.
* `step_endsAt`: the mark of the end of a loop.
* `iterations_counted`: the counter of a loop from its beginning to its end.
-/

namespace Stepwise.Trace

open Stepwise.Run

/-- The loops of an entry that marks the end of a loop with `depth` loops around
it. -/
def Entry.end? (depth : Nat) : Entry → Option Loops
  | endLoop loops => if loops.headers.length = depth + 1 then some loops else none
  | _ => none

/-- The marks that a line has for the ends of loops with `depth` loops around
them. -/
def Log.endsAt (log : Log) (n depth : Nat) : List Loops :=
  (log.trail (.line n)).filterMap (Entry.end? depth)

namespace Tracer

variable (t : Tracer)

/-! ## The step that an event adds -/

/-- The steps that an event adds to a place. -/
def addedAt (s : State) (event : Event Frame) (key : Key) : List Step :=
  ((t.step s event).1.log.stepsAt key).drop (s.log.stepsAt key).length

/-- Linking the latest step changes nothing but its link. -/
theorem map_stepsAt_linked {β : Type} (view : Step → β)
    (hview : ∀ step next, view { step with next := next } = view step) (key other : Key)
    (s : State) :
    ((linked key s).stepsAt other).map view = (s.log.stepsAt other).map view := by
  unfold linked
  split
  · next latest hlatest =>
      have hrecords := s.log.map_at_modifyStep (fun record => record.step?.map view) latest.key
        other latest.index (f := fun before => { before with next := some key }) fun record => by
          cases record with
          | step step => exact congrArg some (hview step (some key))
          | beginLoop loops => rfl
          | endLoop loops => rfl
      simp only [Log.stepsAt, List.map_filterMap]
      have hmap (records : List Record) :
          records.filterMap (fun record => record.step?.map view) =
            (records.map fun record => record.step?.map view).filterMap id := by
        rw [List.filterMap_map]
        rfl
      rw [hmap, hmap, hrecords]
  · rfl

/-- Linking the latest step leaves all steps at their places. -/
theorem length_stepsAt_linked (key other : Key) (s : State) :
    ((linked key s).stepsAt other).length = (s.log.stepsAt other).length := by
  have hsteps := map_stepsAt_linked (fun _ => ()) (fun _ _ => rfl) key other s
  simpa using congrArg List.length hsteps

theorem approach_marks (event : Event Frame) (s : State) :
    s.log.AddsMarks (t.approach event s).log := by
  cases event with
  | line frame number =>
      have hleft := (t.endLeft_grows frame.id (Event.lineIndex (.line frame number))
        (notice frame s)).marks
      rw [notice_log] at hleft
      exact hleft
  | leave frame number value => exact .refl s.log

/-- Behind its step an event adds nothing but marks. -/
theorem carryOut_marks (event : Event Frame) (s : State) :
    (t.record event.frame (place event) (t.returnedBy event) s).log.AddsMarks
      (t.carryOut event s).log := by
  cases event with
  | line frame number => exact (t.enter_grows frame.id _ _).marks
  | leave frame number value =>
      have hleft := (t.endLeft_grows frame.id (Event.lineIndex (.leave frame number value))
        (t.record frame (.leave (Event.lineIndex (.leave frame number value)))
          (t.format.show? value) s)).marks
      unfold carryOut
      dsimp only
      split
      · exact hleft
      · exact hleft.trans (t.endAll_grows false frame.id _).marks

variable {t} {s : State} {event : Event Frame}

/-- An event that is not recorded adds nothing but marks. -/
theorem step_marks_of_not_isRecorded (h : ¬ t.IsRecorded s event) :
    s.log.AddsMarks (t.step s event).1.log := by
  cases hhalted : s.halted with
  | true =>
      rw [step_of_halted t hhalted]
      exact .refl s.log
  | false =>
      by_cases hsees : t.sees event = true
      · have hlimit : t.settings.maxSteps ≤ s.time :=
          Nat.not_lt.mp fun hlimit => h (isRecorded_iff.mpr ⟨hhalted, hsees, hlimit⟩)
        rw [step_beyond hhalted hsees hlimit]
        exact t.approach_marks event s
      · rw [step_unseen hhalted (Bool.eq_false_iff.mpr hsees)]
        cases event with
        | line frame number =>
            show s.log.AddsMarks (notice frame s).log
            rw [notice_log]
            exact .refl s.log
        | leave frame number value => exact .refl s.log

/-- An event that is recorded adds one step behind those of its place, where the latest
step has been linked to it. -/
theorem stepsAt_step (h : t.IsRecorded s event) (key : Key) :
    (t.step s event).1.log.stepsAt key =
      (linked (place event) (t.approach event s)).stepsAt key ++
        if key = place event then
          [t.recorded event.frame (place event) (t.returnedBy event) (t.approach event s)]
        else [] := by
  rw [step_of_isRecorded h, (t.carryOut_marks event _).stepsAt_eq, record_eq]
  exact Log.stepsAt_push _ _ _ _

/-- An event that is recorded adds one step to its own place, which shows the
loops that it has not ended by then. -/
theorem addedAt_eq (t : Tracer) (s : State) (event : Event Frame) (key : Key) :
    t.addedAt s event key =
      if t.IsRecorded s event ∧ key = place event then
        [t.recorded event.frame (place event) (t.returnedBy event) (t.approach event s)]
      else [] := by
  rw [addedAt]
  by_cases hrecorded : t.IsRecorded s event
  · have happroach := (t.approach_marks event s).stepsAt_eq key
    rw [stepsAt_step hrecorded, ← happroach, ← length_stepsAt_linked (place event) key,
      List.drop_left]
    simp [hrecorded]
  · rw [(step_marks_of_not_isRecorded hrecorded).stepsAt_eq, List.drop_length,
      if_neg fun hboth => hrecorded hboth.1]

/-! ## Counting -/

/-- The loops that a step shows are those that its event has not ended by then. -/
theorem approach_loops_of_line {frame : Frame} {number : UInt64}
    (h : t.IsRecorded s (.line frame number)) :
    (t.approach (.line frame number) s).loops = t.kept s (.line frame number) := by
  obtain ⟨hhalted, hsees, -⟩ := isRecorded_iff.mp h
  rw [kept, if_pos ⟨hhalted, hsees⟩]

/-- The steps that an event adds at the header of a loop of a call while the loop
is on top of the stack, with `depth` loops around it. -/
def addedAtHeader (t : Tracer) (context : UInt64) (header depth : Nat) (s : State)
    (event : Event Frame) : List Step :=
  if event.frame.id = context ∧ (t.kept s event).length = depth + 1 then
    t.addedAt s event (.line header)
  else []

theorem addedAtHeader_of_ne {context : UInt64} {header depth : Nat}
    (h : ¬ (t.IsRecorded s event ∧ event.frame.id = context ∧
      (t.kept s event).length = depth + 1 ∧ place event = .line header)) :
    t.addedAtHeader context header depth s event = [] := by
  rw [addedAtHeader, addedAt_eq]
  split
  · next hvisits =>
      rw [if_neg]
      rintro ⟨hrecorded, hplace⟩
      exact h ⟨hrecorded, hvisits.1, hvisits.2, hplace.symm⟩
  · rfl

/-- While a loop is not ended it stays where it is, and what is below stays as it
is. Its counter goes on by one if the loop gets a step at its header while it is
on top, which then shows the counter so far, and else its counter stays as it is. -/
theorem step_counts {above below : List Loop} {loop : Loop}
    (hkept : t.kept s event = above ++ loop :: below)
    (hheader : t.source.isHeader loop.header = true) :
    ∃ above', ((t.step s event).1.loops = above' ++ loop :: below ∧
        t.addedAtHeader loop.context loop.header below.length s event = []) ∨
      ((t.step s event).1.loops = above' ++ loop.counted :: below ∧
        (t.addedAtHeader loop.context loop.header below.length s event).map Step.loops =
          [loopsOf (loop :: below)]) := by
  by_cases hrecorded : t.IsRecorded s event
  · cases event with
    | leave frame number value =>
        refine ⟨above, .inl ⟨hkept, addedAtHeader_of_ne ?_⟩⟩
        rintro ⟨-, -, -, hplace⟩
        cases hplace
    | line frame number =>
        have hshown := approach_loops_of_line hrecorded
        rcases step_loops_of_line hrecorded with ⟨hplain, heq⟩ |
          ⟨top, outer, hcons, hcontext, hline, heq⟩ | ⟨hnew, heq⟩
        · refine ⟨above, .inl ⟨heq.trans hkept, addedAtHeader_of_ne ?_⟩⟩
          rintro ⟨-, -, -, hplace⟩
          have hsame : number.toNat - 1 = loop.header := Key.line.inj hplace
          rw [hsame, hheader] at hplain
          cases hplain
        · cases above with
          | nil =>
              obtain ⟨rfl, rfl⟩ := List.cons.inj (hcons.symm.trans hkept)
              refine ⟨[], .inr ⟨heq, ?_⟩⟩
              have hvisits : frame.id = top.context ∧
                  (t.kept s (.line frame number)).length = outer.length + 1 :=
                ⟨hcontext.symm, by rw [hcons, List.length_cons]⟩
              have hplace : Key.line top.header = place (.line frame number) :=
                congrArg Key.line hline
              rw [addedAtHeader, Event.frame, if_pos hvisits, addedAt_eq,
                if_pos ⟨hrecorded, hplace⟩, List.map_singleton, recorded, hshown, hcons]
          | cons first above =>
              obtain ⟨rfl, rfl⟩ := List.cons.inj (hcons.symm.trans hkept)
              refine ⟨top.counted :: above, .inl ⟨heq, addedAtHeader_of_ne ?_⟩⟩
              rintro ⟨-, -, hlength, -⟩
              rw [hkept, List.length_append, List.length_cons, List.length_cons] at hlength
              omega
        · refine ⟨⟨frame.id, number.toNat - 1, 0⟩ :: above, .inl ⟨?_, addedAtHeader_of_ne ?_⟩⟩
          · rw [heq, hkept]
            rfl
          · rintro ⟨-, hcontext, hlength, hplace⟩
            rw [hkept, List.length_append, List.length_cons] at hlength
            obtain rfl : above = [] := List.eq_nil_of_length_eq_zero (by omega)
            exact hnew loop (by rw [hkept]; rfl) ⟨hcontext.symm, (Key.line.inj hplace).symm⟩
  · refine ⟨above, .inl ⟨(step_loops_of_not_isRecorded hrecorded).trans hkept, ?_⟩⟩
    exact addedAtHeader_of_ne fun hvisits => hrecorded hvisits.1

/-- An active loop has the line of a header. -/
theorem isHeader_run (t : Tracer) (events : List (Event Frame)) :
    ∀ l ∈ (t.run .start events).loops, t.source.isHeader l.header = true := by
  refine t.run_induction (P := fun s => ∀ l ∈ s.loops, t.source.isHeader l.header = true)
    (by simp [State.start]) ?_ events
  intro s s' hmove h
  cases hmove with
  | notice names => exact h
  | halt => exact h
  | record frame key returned _ _ => exact h
  | count hloops =>
      rw [hloops] at h
      exact List.forall_mem_cons.mpr (List.forall_mem_cons.mp h)
  | begin_ context line hheader _ => exact List.forall_mem_cons.mpr ⟨hheader, h⟩
  | end_ hloops =>
      rw [hloops] at h
      exact (List.forall_mem_cons.mp h).2

/-! ## Marks of ends -/

/-- The mark that a line gets for the end of a loop with a certain counter. -/
def endMark (t : Tracer) (loop : Loop) (count : Nat) (below : List Loop) (n : Nat) : List Loops :=
  if n ∈ t.source.loopBody loop.header then
    [loopsOf ({ loop with iteration := count } :: below)]
  else []

theorem endsAt_markEnd (t : Tracer) (counted : Bool) (top : Loop) (outer : List Loop) (log : Log)
    (n depth : Nat) :
    (t.markEnd counted top outer log).endsAt n depth = log.endsAt n depth ++
      if outer.length = depth then
        t.endMark top (if counted then top.iteration + 1 else top.iteration) outer n
      else [] := by
  have hdepth : ∀ last : Loop, (loopsOf (last :: outer)).headers.length = depth + 1 ↔
      outer.length = depth := by simp [loopsOf]
  rw [Log.endsAt, trail_markEnd, List.filterMap_append, endMark]
  refine congrArg _ ?_
  by_cases hbody : n ∈ t.source.loopBody top.header
  · by_cases hlength : outer.length = depth
    · simp [hbody, hlength, Entry.end?, hdepth]
    · simp [hbody, hlength, Entry.end?, hdepth]
  · simp [hbody]

/-- A stack that is too low has no loop at a depth. -/
theorem endsAt_endOwn_of_le (t : Tracer) (counted : Bool) (context : UInt64) {loops : List Loop}
    (log : Log) (n : Nat) {depth : Nat} (h : loops.length ≤ depth) :
    (t.endOwn counted context loops log).2.endsAt n depth = log.endsAt n depth := by
  induction loops generalizing log with
  | nil => rfl
  | cons top outer ih =>
      rw [List.length_cons] at h
      by_cases hcontext : top.context = context
      · rw [endOwn, if_pos hcontext, ih _ (by omega), endsAt_markEnd, if_neg (by omega),
          List.append_nil]
      · rw [endOwn, if_neg hcontext]

/-- Ending all loops of a call marks the end of each of them once. -/
theorem endsAt_endOwn (t : Tracer) (counted : Bool) {context : UInt64} {above : List Loop}
    {loop : Loop} (below : List Loop) (log : Log) (n : Nat)
    (habove : ∀ l ∈ above, l.context = context) (hloop : loop.context = context) :
    (t.endOwn counted context (above ++ loop :: below) log).2.endsAt n below.length =
      log.endsAt n below.length ++
        t.endMark loop (if counted then loop.iteration + 1 else loop.iteration) below n := by
  induction above generalizing log with
  | nil =>
      rw [List.nil_append, endOwn, if_pos hloop, endsAt_endOwn_of_le _ _ _ _ _ (Nat.le_refl _),
        endsAt_markEnd, if_pos rfl]
  | cons top above ih =>
      obtain ⟨htop, hrest⟩ := List.forall_mem_cons.mp habove
      have hdeeper : ¬ (above ++ loop :: below).length = below.length := by
        rw [List.length_append, List.length_cons]
        omega
      rw [List.cons_append, endOwn, if_pos htop, ih _ hrest, endsAt_markEnd, if_neg hdeeper,
        List.append_nil]

theorem endsAt_record (frame : Frame) (key : Key) (returned : Option (List Char)) (s : State)
    (n depth : Nat) :
    (t.record frame key returned s).log.endsAt n depth = s.log.endsAt n depth := by
  rw [Log.endsAt, trail_record, List.filterMap_append, Log.endsAt]
  split <;> simp [Entry.end?]

theorem endsAt_enter (context : UInt64) (line : Nat) (s : State) (n depth : Nat) :
    (t.enter context line s).log.endsAt n depth = s.log.endsAt n depth := by
  rcases t.enter_cases context line s with ⟨-, heq⟩ | ⟨-, top, outer, -, -, -, heq⟩ | ⟨-, -, heq⟩
  · rw [heq]
  · rw [heq]
  · rw [heq, Log.endsAt, trail_beginLoop, List.filterMap_append, Log.endsAt]
    split <;> simp [Entry.end?]

/-! ## The end of a loop -/

/-- Whether an event ends all loops of its call on top of the stack, given the
event that was recorded last. -/
def Cascades (t : Tracer) (before event : Event Frame) : Prop :=
  before.frame.id = event.frame.id ∧
    Source.isReturn (t.source.text before.lineIndex) = true

/-- Whether the line of an event is outside of a loop. -/
def Exits (t : Tracer) (event : Event Frame) (loop : Loop) : Prop :=
  event.lineIndex ≠ loop.header ∧
    t.source.indentOf event.lineIndex ≤ t.source.indentOf loop.header

instance (before event : Event Frame) : Decidable (t.Cascades before event) :=
  inferInstanceAs (Decidable (_ ∧ _))

instance (event : Event Frame) (loop : Loop) : Decidable (t.Exits event loop) :=
  inferInstanceAs (Decidable (_ ∧ _))

/-- What becomes of the loops of a call that has the innermost one. -/
theorem endLeft_of_before {s : State} {before event : Event Frame} {top : Loop}
    {outer : List Loop} (hloops : s.loops = top :: outer)
    (hbefore : s.origin? = some (before.frame.id, place before))
    (htop : top.context = event.frame.id) :
    t.endLeft event.frame.id event.lineIndex s =
      if t.Cascades before event then t.endAll true event.frame.id s
      else if t.Exits event top then
        { s with
          loops := outer
          log := t.markEnd (Source.isBreak (t.source.text before.lineIndex)) top outer s.log }
      else s := by
  obtain ⟨latest, hlatest, horigin⟩ := Option.map_eq_some_iff.mp hbefore
  obtain ⟨hid, hkey⟩ := Prod.mk.inj horigin
  have hline : latest.key.lineNumber = before.lineIndex := by rw [hkey, place_lineNumber]
  rw [endLeft_of_own hloops hlatest htop, hid, hline]
  rfl

/-- Whether all that a log has more at the depth of a loop are the marks of its
end. -/
def MarksEnd (t : Tracer) (log log' : Log) (loop : Loop) (count : Nat) (below : List Loop) :
    Prop :=
  ∀ n, log'.endsAt n below.length = log.endsAt n below.length ++ t.endMark loop count below n

/-- What becomes of a loop, with others of the same call above it, when an event
looks for loops that control has left: it is ended with the others, or it is the
innermost one and ended alone, or it is not ended. -/
inductive Left (t : Tracer) (before event : Event Frame) (above : List Loop) (loop : Loop)
    (below : List Loop) (s s' : State) : Prop where
  | cascade (hcascades : t.Cascades before event) (hlength : s'.loops.length ≤ below.length)
      (hmarks : t.MarksEnd s.log s'.log loop (loop.iteration + 1) below)
  | exit (hcascades : ¬ t.Cascades before event) (habove : above = [])
      (hexits : t.Exits event loop) (hloops : s'.loops = below)
      (hmarks : t.MarksEnd s.log s'.log loop
        (if Source.isBreak (t.source.text before.lineIndex) then loop.iteration + 1
          else loop.iteration) below)
  | stay (hcascades : ¬ t.Cascades before event)
      (hexits : ¬ (above = [] ∧ t.Exits event loop)) (above' : List Loop)
      (habove : above' <:+ above) (hloops : s'.loops = above' ++ loop :: below)
      (hends : ∀ n, s'.log.endsAt n below.length = s.log.endsAt n below.length)

theorem endLeft_left {s : State} {before event : Event Frame} {above below : List Loop}
    {loop : Loop} (hloops : s.loops = above ++ loop :: below)
    (hbefore : s.origin? = some (before.frame.id, place before))
    (habove : ∀ l ∈ above, l.context = event.frame.id) (hloop : loop.context = event.frame.id) :
    t.Left before event above loop below s (t.endLeft event.frame.id event.lineIndex s) := by
  by_cases hcascades : t.Cascades before event
  · have heq : t.endLeft event.frame.id event.lineIndex s = t.endAll true event.frame.id s := by
      cases above with
      | nil => rw [endLeft_of_before hloops hbefore hloop, if_pos hcascades]
      | cons top above =>
          rw [endLeft_of_before hloops hbefore (habove top (by simp)), if_pos hcascades]
    rw [heq]
    refine .cascade hcascades ?_ fun n => ?_
    · rw [endAll_loops, hloops, List.dropWhile_append_of_pos (by simpa using habove),
        List.dropWhile_cons_of_pos (by simpa using hloop)]
      exact (List.dropWhile_suffix _).length_le
    · rw [endAll, hloops]
      exact t.endsAt_endOwn true below s.log n habove hloop
  · cases above with
    | nil =>
        rw [endLeft_of_before hloops hbefore hloop, if_neg hcascades]
        by_cases hexits : t.Exits event loop
        · rw [if_pos hexits]
          refine .exit hcascades rfl hexits rfl fun n => ?_
          exact (t.endsAt_markEnd _ loop below s.log n below.length).trans (by rw [if_pos rfl])
        · rw [if_neg hexits]
          exact .stay hcascades (fun hboth => hexits hboth.2) [] (List.suffix_refl _) hloops
            fun _ => rfl
    | cons top above =>
        rw [endLeft_of_before hloops hbefore (habove top (by simp)), if_neg hcascades]
        by_cases hexits : t.Exits event top
        · rw [if_pos hexits]
          refine .stay hcascades (fun hboth => by cases hboth.1) above (List.suffix_cons top above)
            rfl fun n => ?_
          have hdeeper : ¬ (above ++ loop :: below).length = below.length := by
            rw [List.length_append, List.length_cons]
            omega
          have hother := t.endsAt_markEnd (Source.isBreak (t.source.text before.lineIndex)) top
            (above ++ loop :: below) s.log n below.length
          rw [if_neg hdeeper, List.append_nil] at hother
          exact hother
        · rw [if_neg hexits]
          exact .stay hcascades (fun hboth => by cases hboth.1) _ (List.suffix_refl _) hloops
            fun _ => rfl

/-- The event that was recorded last when an event looks for loops that control
has left. A return is recorded before that and a visit to a line behind it. -/
def latestAt (t : Tracer) (events : List (Event Frame)) : Event Frame → Option (Event Frame)
  | .line _ _ => (t.recordedEvents .start events).getLast?
  | .leave frame number value => some (.leave frame number value)

/-- Whether the last iteration of a loop, with others above it, is counted when
an event ends the loop: on account of a `return` it is for all loops of the call,
and on account of a `break` for the innermost one. -/
def EndsCounted (t : Tracer) (before : Option (Event Frame)) (event : Event Frame)
    (above : List Loop) (loop : Loop) : Prop :=
  ∃ last ∈ before, t.Cascades last event ∨
    (above = [] ∧ t.Exits event loop ∧
      Source.isBreak (t.source.text last.lineIndex) = true)

theorem endsCounted_some {before event : Event Frame} {above : List Loop} {loop : Loop} :
    t.EndsCounted (some before) event above loop ↔ t.Cascades before event ∨
      (above = [] ∧ t.Exits event loop ∧
        Source.isBreak (t.source.text before.lineIndex) = true) := by
  simp [EndsCounted]

/-- The last counter of a loop that is ended. -/
def EndCount (t : Tracer) (before : Option (Event Frame)) (event : Event Frame)
    (above : List Loop) (loop : Loop) (count : Nat) : Prop :=
  (count = loop.iteration + 1 ∧ t.EndsCounted before event above loop) ∨
    (count = loop.iteration ∧ ¬ t.EndsCounted before event above loop)

/-- A loop that is ended on the way to a line has one mark of its end. -/
theorem Left.exists_count {before event : Event Frame} {above below : List Loop} {loop : Loop}
    {s s' : State} (h : t.Left before event above loop below s s')
    (hlength : s'.loops.length ≤ below.length) :
    ∃ count, t.EndCount (some before) event above loop count ∧
      t.MarksEnd s.log s'.log loop count below := by
  cases h with
  | cascade hcascades _ hmarks =>
      exact ⟨_, .inl ⟨rfl, endsCounted_some.mpr (.inl hcascades)⟩, hmarks⟩
  | exit hcascades habove hexits _ hmarks =>
      refine ⟨_, ?_, hmarks⟩
      by_cases hbreak : Source.isBreak (t.source.text before.lineIndex) = true
      · exact .inl ⟨if_pos hbreak, endsCounted_some.mpr (.inr ⟨habove, hexits, hbreak⟩)⟩
      · refine .inr ⟨if_neg hbreak, fun hcounted => ?_⟩
        rcases endsCounted_some.mp hcounted with hcascades' | hboth
        · exact hcascades hcascades'
        · exact hbreak hboth.2.2
  | stay _ _ above' _ hloops _ =>
      rw [hloops, List.length_append, List.length_cons] at hlength
      omega

theorem Ends.own {context : UInt64} {above below kept : List Loop} {loop : Loop}
    (h : Ends context (above ++ loop :: below) kept) (hlength : kept.length ≤ below.length) :
    (∀ l ∈ above, l.context = context) ∧ loop.context = context := by
  obtain ⟨ended, hloops, hended⟩ := h
  have hlengths := congrArg List.length hloops
  rw [List.length_append, List.length_append, List.length_cons] at hlengths
  have hwhole : above ++ [loop] <+: ended ++ kept := by
    rw [← hloops]
    exact ⟨below, by simp⟩
  have hstarts : above ++ [loop] <+: ended := by
    refine List.prefix_of_prefix_length_le hwhole (List.prefix_append _ _) ?_
    rw [List.length_append, List.length_singleton]
    omega
  exact ⟨fun l hl => hended l (hstarts.subset (by simp [hl])),
    hended loop (hstarts.subset (by simp))⟩

theorem approach_line_log (frame : Frame) (number : UInt64) (s : State) :
    (t.approach (.line frame number) s).log = (t.endLeft frame.id (number.toNat - 1) s).log := by
  rw [approach, notice]
  split
  · rw [endLeft_preexisting]
    rfl
  · rfl

/-- A visit to a line ends loops before it looks at the limit. -/
theorem endsAt_step_line {frame : Frame} {number : UInt64} (hhalted : s.halted = false)
    (hsees : t.sees (.line frame number) = true) (n depth : Nat) :
    (t.step s (.line frame number)).1.log.endsAt n depth =
      (t.endLeft frame.id (number.toNat - 1) s).log.endsAt n depth := by
  rw [← approach_line_log]
  by_cases hlimit : s.time < t.settings.maxSteps
  · rw [step_below hhalted hsees hlimit]
    exact (endsAt_enter frame.id _ _ n depth).trans (endsAt_record frame _ none _ n depth)
  · rw [step_beyond hhalted hsees (Nat.not_lt.mp hlimit)]

theorem line_marksEnd {events : List (Event Frame)} {frame : Frame} {number : UInt64}
    {above below : List Loop} {loop : Loop}
    (hloops : (t.run .start events).loops = above ++ loop :: below)
    (hends : (t.kept (t.run .start events) (.line frame number)).length ≤ below.length) :
    ∃ count, t.EndCount (t.latestAt events (.line frame number)) (.line frame number) above loop
        count ∧
      t.MarksEnd (t.run .start events).log
        (t.step (t.run .start events) (.line frame number)).1.log loop count below := by
  have hall := t.kept_ends (t.run .start events) (.line frame number)
  rw [hloops] at hall
  obtain ⟨habove, hloop⟩ := hall.own hends
  have horigin := t.origin?_run events
  rw [latestAt]
  generalize t.run .start events = s at hloops hends horigin ⊢
  have hdeeper : ¬ s.loops.length ≤ below.length := by
    rw [hloops, List.length_append, List.length_cons]
    omega
  rw [kept_line] at hends
  split at hends
  · next hseen =>
      cases hlast : (t.recordedEvents .start events).getLast? with
      | none =>
          rw [hlast] at horigin
          have hlatest : s.latest = none := Option.map_eq_none_iff.mp horigin
          have hsame : t.endLeft frame.id (number.toNat - 1) s = s := by
            unfold endLeft
            rw [hlatest]
            split
            · next heq => cases heq
            · rfl
          rw [hsame] at hends
          exact absurd hends hdeeper
      | some before =>
          rw [hlast] at horigin
          have hleft : t.Left before (.line frame number) above loop below s _ :=
            endLeft_left hloops horigin habove hloop
          obtain ⟨count, hcount, hmarks⟩ := hleft.exists_count hends
          exact ⟨count, hcount, fun n =>
            (endsAt_step_line hseen.1 hseen.2 n below.length).trans (hmarks n)⟩
  · exact absurd hends hdeeper

/-- A return ends loops in two ways behind its step. Those that control has left
are ended as for a visit, and what the call still has on top is not counted. -/
theorem leave_marksEnd {s : State} {frame : Frame} {number : UInt64} {value : Value}
    {above below : List Loop} {loop : Loop} (hloops : s.loops = above ++ loop :: below)
    (hends : (t.kept s (.leave frame number value)).length ≤ below.length) :
    ∃ count, t.EndCount (some (.leave frame number value)) (.leave frame number value) above loop
        count ∧
      t.MarksEnd s.log (t.step s (.leave frame number value)).1.log loop count below := by
  have hall := t.kept_ends s (.leave frame number value)
  rw [hloops] at hall
  obtain ⟨habove, hloop⟩ := hall.own hends
  have hrecorded : t.IsRecorded s (.leave frame number value) := by
    by_contra hnot
    rw [kept_leave_of_not_isRecorded hnot, hloops, List.length_append, List.length_cons] at hends
    omega
  have hleft : t.Left (.leave frame number value) (.leave frame number value) above loop below
      (t.record frame (.leave (number.toNat - 1)) (t.format.show? value) s) _ :=
    endLeft_left hloops rfl habove hloop
  have hstep : (t.step s (.leave frame number value)).1 =
      if Source.isSuspension (t.source.text (number.toNat - 1)) then
        t.endLeft frame.id (number.toNat - 1)
          (t.record frame (.leave (number.toNat - 1)) (t.format.show? value) s)
      else t.endAll false frame.id (t.endLeft frame.id (number.toNat - 1)
        (t.record frame (.leave (number.toNat - 1)) (t.format.show? value) s)) :=
    step_of_isRecorded hrecorded
  have hrecord : ∀ n depth, (t.record frame (.leave (number.toNat - 1)) (t.format.show? value)
      s).log.endsAt n depth = s.log.endsAt n depth := endsAt_record frame _ _ s
  rw [kept, hstep] at hends
  rw [hstep]
  change t.Left _ _ above loop below _ (t.endLeft frame.id (number.toNat - 1) _) at hleft
  generalize t.record frame (.leave (number.toNat - 1)) (t.format.show? value) s = recorded
    at hleft hends hrecord ⊢
  generalize t.endLeft frame.id (number.toNat - 1) recorded = left at hleft hends ⊢
  by_cases hlength : left.loops.length ≤ below.length
  · obtain ⟨count, hcount, hmarks⟩ := hleft.exists_count hlength
    refine ⟨count, hcount, fun n => ?_⟩
    rw [← hrecord, ← hmarks n]
    split
    · rfl
    · exact t.endsAt_endOwn_of_le false frame.id left.log n hlength
  · cases hleft with
    | cascade _ hshort _ => exact absurd hshort hlength
    | exit _ _ _ hbelow _ => exact absurd (Nat.le_of_eq (congrArg List.length hbelow)) hlength
    | stay hcascades hexits above' hsuffix hstay hsame =>
        refine ⟨loop.iteration, .inr ⟨rfl, fun hcounted => ?_⟩, fun n => ?_⟩
        · rcases endsCounted_some.mp hcounted with hcascades' | hboth
          · exact hcascades hcascades'
          · exact hexits ⟨hboth.1, hboth.2.1⟩
        · split at hends
          · exact absurd hends hlength
          · next hgone =>
              rw [if_neg hgone, ← hrecord, ← hsame n, endAll, hstay]
              exact t.endsAt_endOwn false below left.log n
                (fun l hl => habove l (hsuffix.subset hl)) hloop

/-- A loop that is ended has one mark of its end on every line of its body. -/
theorem step_marksEnd (t : Tracer) (events : List (Event Frame)) (event : Event Frame)
    {above below : List Loop} {loop : Loop}
    (hloops : (t.run .start events).loops = above ++ loop :: below)
    (hends : (t.kept (t.run .start events) event).length ≤ below.length) :
    ∃ count, t.EndCount (t.latestAt events event) event above loop count ∧
      t.MarksEnd (t.run .start events).log (t.step (t.run .start events) event).1.log loop count
        below := by
  cases event with
  | line frame number => exact line_marksEnd hloops hends
  | leave frame number value => exact leave_marksEnd hloops hends

/-! ## The life of a loop -/

/-- Whether a loop begins at an event, on top of certain others, and is not
ended by the events behind it. -/
structure Lives (t : Tracer) (context : UInt64) (header : Nat) (below : List Loop)
    (earlier : List (Event Frame)) (first : Event Frame) (during : List (Event Frame)) :
    Prop where
  kept_eq : t.kept (t.run .start earlier) first = below
  begins : (t.run .start (earlier ++ [first])).loops = ⟨context, header, 0⟩ :: below
  goesOn : ∀ before event, before ++ [event] <+: during →
    below.length < (t.kept (t.run .start (earlier ++ first :: before)) event).length

/-- The steps that several events add at the header of a loop of a call, each
while the loop is on top of the stack, with `depth` loops around it. -/
def headerSteps (t : Tracer) (context : UInt64) (header depth : Nat) :
    State → List (Event Frame) → List Step
  | _, [] => []
  | s, event :: rest =>
      t.addedAtHeader context header depth s event ++
        headerSteps t context header depth (t.step s event).1 rest

theorem headerSteps_append (t : Tracer) (context : UInt64) (header depth : Nat) (s : State)
    (events more : List (Event Frame)) :
    t.headerSteps context header depth s (events ++ more) =
      t.headerSteps context header depth s events ++
        t.headerSteps context header depth (t.run s events) more := by
  induction events generalizing s with
  | nil => rfl
  | cons event rest ih =>
      rw [List.cons_append, headerSteps, headerSteps, ih, List.append_assoc]
      rfl

theorem Lives.snoc {context : UInt64} {header : Nat} {below : List Loop}
    {earlier during : List (Event Frame)} {first event : Event Frame}
    (h : t.Lives context header below earlier first during)
    (hgoes : below.length < (t.kept (t.run .start (earlier ++ first :: during)) event).length) :
    t.Lives context header below earlier first (during ++ [event]) := by
  refine ⟨h.kept_eq, h.begins, fun before last hstarts => ?_⟩
  rcases List.prefix_concat_iff.mp hstarts with heq | hearlier
  · obtain ⟨rfl, rfl⟩ := List.append_singleton_inj.mp heq
    exact hgoes
  · exact h.goesOn before last hearlier

/-- A list has an element with a certain number of others behind it. -/
private theorem exists_at_depth {loops : List Loop} {depth : Nat} (h : depth < loops.length) :
    ∃ above loop below, loops = above ++ loop :: below ∧ below.length = depth := by
  have hindex : loops.length - 1 - depth < loops.length := by omega
  refine ⟨loops.take (loops.length - 1 - depth), loops[loops.length - 1 - depth],
    loops.drop (loops.length - 1 - depth + 1), ?_, ?_⟩
  · rw [← List.drop_eq_getElem_cons hindex, List.take_append_drop]
  · rw [List.length_drop]
    omega

/-- A loop that is not ended lives on. -/
theorem lives_step {events : List (Event Frame)} {event : Event Frame} {below : List Loop}
    {header count : Nat} {context : UInt64} {more : List Loops}
    (hgoes : below.length < (t.kept (t.run .start events) event).length)
    (hmore : (t.addedAtHeader context header below.length (t.run .start events) event).map
      Step.loops = more)
    (h : ∃ earlier first during, events = earlier ++ first :: during ∧
      t.Lives context header below earlier first during ∧
      (t.headerSteps context header below.length (t.run .start (earlier ++ [first]))
        during).map Step.loops = (List.range count).map ((loopsOf below).inside header)) :
    ∃ earlier first during, events ++ [event] = earlier ++ first :: during ∧
      t.Lives context header below earlier first during ∧
      (t.headerSteps context header below.length (t.run .start (earlier ++ [first]))
        during).map Step.loops =
          (List.range count).map ((loopsOf below).inside header) ++ more := by
  obtain ⟨earlier, first, during, rfl, hlives, hsteps⟩ := h
  refine ⟨earlier, first, during ++ [event], by simp, hlives.snoc hgoes, ?_⟩
  have hrun : t.run (t.run .start (earlier ++ [first])) during =
      t.run .start (earlier ++ first :: during) := by
    rw [← run_append, List.append_assoc, List.singleton_append]
  rw [headerSteps_append, hrun, headerSteps, headerSteps, List.append_nil, List.map_append, hsteps,
    hmore]

/-- An active loop has begun at some event and lives on since then. The steps at
its header count up from zero to its counter. -/
theorem exists_lives (t : Tracer) (events : List (Event Frame)) {above below : List Loop}
    {loop : Loop} (h : (t.run .start events).loops = above ++ loop :: below) :
    ∃ earlier first during, events = earlier ++ first :: during ∧
      t.Lives loop.context loop.header below earlier first during ∧
      (t.headerSteps loop.context loop.header below.length (t.run .start (earlier ++ [first]))
        during).map Step.loops =
          (List.range loop.iteration).map ((loopsOf below).inside loop.header) := by
  induction events using List.reverseRecOn generalizing above loop with
  | nil => simp [run, State.start] at h
  | append_singleton events event ih =>
      obtain ⟨ended, hloops, -⟩ := t.kept_ends (t.run .start events) event
      have hafter := h
      rw [run_append_singleton] at hafter
      by_cases hlength : below.length < (t.kept (t.run .start events) event).length
      · obtain ⟨before, loop', below', hkept, hdepth⟩ := exists_at_depth hlength
        have hheader : t.source.isHeader loop'.header = true :=
          t.isHeader_run events loop' (by simp [hloops, hkept])
        rw [hkept, ← List.append_assoc] at hloops
        obtain ⟨above', ⟨hsame, hnone⟩ | ⟨hcounted, hone⟩⟩ := step_counts hkept hheader
        · obtain ⟨-, hcons⟩ := List.append_inj' (hsame.symm.trans hafter) (by simp [hdepth])
          obtain ⟨rfl, rfl⟩ := List.cons.inj hcons
          have hlives := lives_step hlength (congrArg (List.map Step.loops) hnone) (ih hloops)
          rwa [List.map_nil, List.append_nil] at hlives
        · obtain ⟨-, hcons⟩ := List.append_inj' (hcounted.symm.trans hafter) (by simp [hdepth])
          obtain ⟨rfl, rfl⟩ := List.cons.inj hcons
          have hlives := lives_step hlength hone (ih hloops)
          rw [loopsOf_cons] at hlives
          rw [Loop.counted, List.range_succ, List.map_append]
          exact hlives
      · have hadvances := t.kept_advances (t.run .start events) event
        have hlengths := congrArg List.length hafter
        rw [List.length_append, List.length_cons] at hlengths
        generalize hkept : t.kept (t.run .start events) event = kept at hlength hadvances
        generalize (t.step (t.run .start events) event).1.loops = after at hafter hlengths hadvances
        cases hadvances with
        | same => omega
        | count htop _ =>
            rw [htop, List.length_cons] at hlength
            rw [List.length_cons] at hlengths
            omega
        | begin_ header =>
            rw [List.length_cons] at hlengths
            obtain rfl : above = [] := List.eq_nil_of_length_eq_zero (by omega)
            obtain ⟨rfl, rfl⟩ := List.cons.inj hafter
            exact ⟨events, event, [], rfl, ⟨hkept, h, by simp⟩, rfl⟩

/-- An active loop has begun at some event. From there on the visits to its
header that find it on top are recorded with the counters zero, one and so on,
each once, and its own counter is the number of these steps. The event that ends
it adds one mark of its end to every line of its body, with the same counter, or
with one more exactly if the loops of the call are ended on account of a `return`,
or the loop is the innermost one and has been left by a `break`. -/
theorem iterations_counted (t : Tracer) (events : List (Event Frame)) {above below : List Loop}
    {loop : Loop} (h : (t.run .start events).loops = above ++ loop :: below) :
    (∃ earlier first during, events = earlier ++ first :: during ∧
      t.Lives loop.context loop.header below earlier first during ∧
      (t.headerSteps loop.context loop.header below.length (t.run .start (earlier ++ [first]))
        during).map Step.loops =
          (List.range loop.iteration).map ((loopsOf below).inside loop.header)) ∧
      ∀ last, (t.kept (t.run .start events) last).length ≤ below.length →
        ∃ count, t.EndCount (t.latestAt events last) last above loop count ∧
          t.MarksEnd (t.run .start events).log (t.run .start (events ++ [last])).log loop count
            below := by
  refine ⟨t.exists_lives events h, fun last hends => ?_⟩
  rw [run_append_singleton]
  exact t.step_marksEnd events last h hends

/-- A loop that is left by a `break`. -/
def search : Tracer :=
  ⟨.ofText "for x in xs:\n    if x:\n        break\nprint(x)\n".toList, .standard, .standard⟩

/-- A visit to a line of the program. -/
def searchVisit (number : UInt64) : Event Frame := .line ⟨1, "<module>", "<string>", []⟩ number

/-- One iteration that is complete and one that is cut short. -/
def searchEvents : List (Event Frame) := [1, 2, 1, 2, 3].map searchVisit

/-- The iteration that is cut short is counted at the end. -/
theorem iterations_counted_search :
    (search.run .start searchEvents).loops = [⟨1, 0, 1⟩] ∧
      (search.kept (search.run .start searchEvents) (searchVisit 4)).length ≤ 0 ∧
      search.MarksEnd (search.run .start searchEvents).log
        (search.run .start (searchEvents ++ [searchVisit 4])).log ⟨1, 0, 1⟩ 2 [] := by
  have hloops : (search.run .start searchEvents).loops = [] ++ ⟨1, 0, 1⟩ :: [] := by
    decide +kernel
  have hends : (search.kept (search.run .start searchEvents) (searchVisit 4)).length ≤ 0 := by
    decide +kernel
  obtain ⟨-, hlast⟩ := search.iterations_counted searchEvents hloops
  obtain ⟨count, hcount, hmarks⟩ := hlast (searchVisit 4) hends
  have hbreak : search.EndsCounted (search.latestAt searchEvents (searchVisit 4)) (searchVisit 4)
      [] ⟨1, 0, 1⟩ :=
    ⟨searchVisit 3, rfl, .inr ⟨rfl, by decide +kernel, by decide +kernel⟩⟩
  rcases hcount with ⟨rfl, -⟩ | ⟨-, hnot⟩
  · exact ⟨hloops, hends, hmarks⟩
  · exact absurd hbreak hnot

end Tracer

end Stepwise.Trace
