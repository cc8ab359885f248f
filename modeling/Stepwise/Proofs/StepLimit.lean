import Stepwise.Proofs.AppendOnly
import Stepwise.Proofs.Calls
import Stepwise.Recording.Basic

/-!
# The limit of steps

Every event that is seen becomes a step, until there are as many steps as the
settings allow. The next event that is seen halts the tracer. A return looks at
the limit before it does anything. A visit to a line first ends the loops that
control has left, so the marks of their ends are still made, and the steps are
the same.

Then nothing changes any more. This is why it does not matter whether a host
stops at the first halt, as a replay does, or goes on to the end of its events.

## Main results

* `endLeft_endsLoops`: what ending loops adds to the log, place by place.
* `observe_eq_run`: an observed run comes to the same state as a whole one.
* `keepsLimit_run`: what the limit does to a run and to a replay.
-/

namespace Stepwise.Trace

open Stepwise.Run

/-! ## Marks of ends -/

theorem Log.at_pushAll (log : Log) {lines : List Nat} (record : Record) (key : Key)
    (hlines : lines.Nodup) :
    (log.pushAll lines record).at_ key =
      log.at_ key ++ if key ∈ lines.map Key.line then [record] else [] := by
  induction lines generalizing log with
  | nil => simp [pushAll]
  | cons n rest ih =>
      obtain ⟨hn, hrest⟩ := List.nodup_cons.mp hlines
      have hpush := ih (log.push (.line n) record) hrest
      simp only [pushAll, List.foldl_cons] at hpush ⊢
      rw [hpush]
      by_cases hkey : key = .line n
      · subst hkey
        simp [at_push, hn]
      · simp [at_push_ne _ _ hkey, hkey]

namespace Tracer

variable (t : Tracer)

/-- The marks that a place gets when loops end, innermost first, inside of
others that go on. -/
def endMarks (counted : Bool) (key : Key) : (ended outer : List Loop) → List Record
  | [], _ => []
  | top :: ended, outer =>
      let last := if counted then top.counted else top
      (if key ∈ (t.source.loopBody top.header).map Key.line then
        [.endLoop (loopsOf (last :: (ended ++ outer)))] else []) ++
      endMarks counted key ended outer

theorem endMarks_cons (counted : Bool) (key : Key) (top : Loop) (ended outer : List Loop) :
    t.endMarks counted key (top :: ended) outer =
      t.endMarks counted key [top] (ended ++ outer) ++ t.endMarks counted key ended outer := by
  simp [endMarks]

theorem at_markEnd (counted : Bool) (top : Loop) (outer : List Loop) (log : Log) (key : Key) :
    (t.markEnd counted top outer log).at_ key =
      log.at_ key ++ t.endMarks counted key [top] outer := by
  rw [endMarks, endMarks, List.append_nil, List.nil_append]
  exact log.at_pushAll _ key (t.source.nodup_loopBody top.header)

/-- Whether all that a state has lost are loops of one call on top of the stack,
and all that it has gained are the marks of their ends. -/
def EndsLoops (context : UInt64) (s s' : State) : Prop :=
  ∃ counted ended, s.loops = ended ++ s'.loops ∧ (∀ l ∈ ended, l.context = context) ∧
    s.log.buckets.keys <+: s'.log.buckets.keys ∧
    ∀ key, s'.log.at_ key = s.log.at_ key ++ t.endMarks counted key ended s'.loops

theorem EndsLoops.refl (context : UInt64) (s : State) : t.EndsLoops context s s :=
  ⟨false, [], rfl, by simp, List.prefix_refl _, fun _ => by simp [endMarks]⟩

theorem at_endOwn (counted : Bool) (context : UInt64) (loops : List Loop) (log : Log) :
    ∃ ended, loops = ended ++ (t.endOwn counted context loops log).1 ∧
      (∀ l ∈ ended, l.context = context) ∧
      ∀ key, (t.endOwn counted context loops log).2.at_ key =
        log.at_ key ++ t.endMarks counted key ended (t.endOwn counted context loops log).1 := by
  induction loops generalizing log with
  | nil => exact ⟨[], rfl, by simp, fun _ => by simp [endOwn, endMarks]⟩
  | cons top outer ih =>
      by_cases hcontext : top.context = context
      · obtain ⟨ended, houter, hended, hat⟩ := ih (t.markEnd counted top outer log)
        rw [endOwn, if_pos hcontext]
        refine ⟨top :: ended, congrArg _ houter,
          List.forall_mem_cons.mpr ⟨hcontext, hended⟩, fun key => ?_⟩
        rw [hat, at_markEnd, t.endMarks_cons counted key top ended, ← houter, List.append_assoc]
      · rw [endOwn, if_neg hcontext]
        exact ⟨[], rfl, by simp, fun _ => by simp [endMarks]⟩

theorem endAll_endsLoops (counted : Bool) (context : UInt64) (s : State) :
    t.EndsLoops context s (t.endAll counted context s) := by
  obtain ⟨ended, hloops, hended, hat⟩ := t.at_endOwn counted context s.loops s.log
  exact ⟨counted, ended, hloops, hended, (t.endAll_grows counted context s).places, hat⟩

theorem endLeft_endsLoops (context : UInt64) (line : Nat) (s : State) :
    t.EndsLoops context s (t.endLeft context line s) := by
  unfold endLeft
  split
  · next top outer latest hloops _ =>
      dsimp only
      split
      · exact .refl t context s
      · next hcontext =>
          rw [Decidable.not_not] at hcontext
          split
          · exact t.endAll_endsLoops true context s
          · split
            · exact ⟨_, [top], hloops, by simpa using hcontext,
                (t.markEnd_grows _ top outer s.log).places, t.at_markEnd _ top outer s.log⟩
            · exact .refl t context s
  · exact .refl t context s

/-! ## One event -/

/-- Whether an event is of a call that is not ignored. -/
def sees (event : Event Frame) : Bool := !t.ignores event.frame

/-- What an event does even if it is not seen. -/
def noticeEvent (event : Event Frame) (s : State) : State :=
  match event with
  | .line frame _ => notice frame s
  | .leave _ _ _ => s

/-- What an event that is seen does before it looks at the limit. -/
def approach (event : Event Frame) (s : State) : State :=
  match event with
  | .line frame _ => t.endLeft frame.id event.lineIndex (notice frame s)
  | .leave _ _ _ => s

/-- What an event that is seen does below the limit. -/
def carryOut (event : Event Frame) (s : State) : State :=
  match event with
  | .line frame _ =>
      t.enter frame.id event.lineIndex (t.record frame (.line event.lineIndex) none s)
  | .leave frame _ value =>
      let s := t.endLeft frame.id event.lineIndex
        (t.record frame (.leave event.lineIndex) (t.format.show? value) s)
      if Source.isSuspension (t.source.text event.lineIndex) then s
      else t.endAll false frame.id s

theorem notice_halted (frame : Frame) (s : State) : (notice frame s).halted = s.halted := by
  unfold notice
  split <;> rfl

theorem noticeEvent_time (event : Event Frame) (s : State) :
    (noticeEvent event s).time = s.time := by
  cases event with
  | line frame number => exact notice_time frame s
  | leave frame number value => rfl

theorem noticeEvent_halted (event : Event Frame) (s : State) :
    (noticeEvent event s).halted = s.halted := by
  cases event with
  | line frame number => exact notice_halted frame s
  | leave frame number value => rfl

theorem approach_time (event : Event Frame) (s : State) : (t.approach event s).time = s.time := by
  cases event with
  | line frame number => exact (t.endLeft_time _ _ _).trans (notice_time frame s)
  | leave frame number value => rfl

theorem approach_halted (event : Event Frame) (s : State) :
    (t.approach event s).halted = s.halted := by
  cases event with
  | line frame number => exact (t.endLeft_halted _ _ _).trans (notice_halted frame s)
  | leave frame number value => rfl

/-- Ending loops changes the active loops and the log, and nothing else. -/
theorem endLeft_frame (context : UInt64) (line : Nat) (s : State) :
    ∃ loops log, t.endLeft context line s = { s with loops, log } := by
  unfold endLeft endAll
  split
  · dsimp only
    repeat' split
    all_goals exact ⟨_, _, rfl⟩
  · exact ⟨_, _, rfl⟩

theorem enter_frame (context : UInt64) (line : Nat) (s : State) :
    ∃ loops log, t.enter context line s = { s with loops, log } := by
  rcases t.enter_cases context line s with ⟨-, heq⟩ | ⟨-, _, _, -, -, -, heq⟩ | ⟨-, -, heq⟩
  all_goals rw [heq]
  all_goals exact ⟨_, _, rfl⟩

/-- An event below the limit is counted once, and it neither halts the tracer nor
changes what was there before the program. -/
theorem carryOut_frame (event : Event Frame) (s : State) : ∃ loops log latest,
    t.carryOut event s = { s with time := s.time + 1, loops, log, latest } := by
  cases event with
  | line frame number =>
      obtain ⟨loops, log, heq⟩ := t.enter_frame frame.id (Event.lineIndex (.line frame number))
        (t.record frame (.line (Event.lineIndex (.line frame number))) none s)
      exact ⟨loops, log, _, heq⟩
  | leave frame number value =>
      obtain ⟨loops, log, heq⟩ := t.endLeft_frame frame.id
        (Event.lineIndex (.leave frame number value))
        (t.record frame (.leave (Event.lineIndex (.leave frame number value)))
          (t.format.show? value) s)
      unfold carryOut
      dsimp only
      rw [heq]
      split
      · exact ⟨_, _, _, rfl⟩
      · exact ⟨_, _, _, rfl⟩

theorem carryOut_time (event : Event Frame) (s : State) :
    (t.carryOut event s).time = s.time + 1 := by
  obtain ⟨loops, log, latest, heq⟩ := t.carryOut_frame event s
  rw [heq]

theorem carryOut_halted (event : Event Frame) (s : State) :
    (t.carryOut event s).halted = s.halted := by
  obtain ⟨loops, log, latest, heq⟩ := t.carryOut_frame event s
  rw [heq]

variable {t} {s : State} {event : Event Frame}

theorem step_of_sees (hhalted : s.halted = false) (hsees : t.sees event = true) :
    t.step s event = t.withinLimit (t.approach event s) (t.carryOut event) := by
  have hignores : t.ignores event.frame = false := by simpa [sees] using hsees
  cases event with
  | line frame number =>
      rw [Event.frame] at hignores
      simp only [step, hhalted, hignores, visit, approach]
      rfl
  | leave frame number value =>
      rw [Event.frame] at hignores
      simp only [step, hhalted, hignores, leave, approach]
      rfl

/-- An event that is not seen is answered by going on. -/
theorem step_unseen (hhalted : s.halted = false) (hsees : t.sees event = false) :
    t.step s event = (noticeEvent event s, .goOn) := by
  have hignores : t.ignores event.frame = true := by simpa [sees] using hsees
  cases event with
  | line frame number =>
      rw [Event.frame] at hignores
      simp [step, hhalted, hignores, noticeEvent]
  | leave frame number value =>
      rw [Event.frame] at hignores
      simp [step, hhalted, hignores, noticeEvent]

/-- An event that is seen below the limit is a step. -/
theorem step_below (hhalted : s.halted = false) (hsees : t.sees event = true)
    (hlimit : s.time < t.settings.maxSteps) :
    t.step s event = (t.carryOut event (t.approach event s), .goOn) := by
  rw [step_of_sees hhalted hsees, withinLimit, if_pos (t.approach_time event s ▸ hlimit)]

/-- An event that is seen at the limit halts the tracer. -/
theorem step_beyond (hhalted : s.halted = false) (hsees : t.sees event = true)
    (hlimit : t.settings.maxSteps ≤ s.time) :
    t.step s event = ({ t.approach event s with halted := true }, .halt) := by
  have hbeyond : ¬ (t.approach event s).time < t.settings.maxSteps := by
    rw [approach_time]
    exact Nat.not_lt.mpr hlimit
  rw [step_of_sees hhalted hsees, withinLimit, if_neg hbeyond]

/-- A tracer answers an event by a halt exactly if it has halted behind it. -/
theorem step_halt_iff (t : Tracer) (s : State) (event : Event Frame) :
    (t.step s event).2 = .halt ↔ (t.step s event).1.halted = true := by
  cases hhalted : s.halted with
  | true => simp [step_of_halted t hhalted, hhalted]
  | false =>
      cases hsees : t.sees event with
      | false =>
          simp [step_unseen hhalted hsees, noticeEvent_halted, hhalted]
      | true =>
          by_cases hlimit : s.time < t.settings.maxSteps
          · simp [step_below hhalted hsees hlimit, carryOut_halted, approach_halted, hhalted]
          · simp [step_beyond hhalted hsees (Nat.not_lt.mp hlimit)]

/-! ## Runs -/

/-- The number of steps is that of the events that are seen, up to the limit,
and the tracer has halted if there are more of them. -/
theorem run_counts (t : Tracer) (events : List (Event Frame)) :
    (t.run .start events).time = min t.settings.maxSteps (events.countP t.sees) ∧
      ((t.run .start events).halted = true ↔ t.settings.maxSteps < events.countP t.sees) := by
  induction events using List.reverseRecOn with
  | nil => simp [run, State.start]
  | append_singleton events event ih =>
      obtain ⟨htime, hhalts⟩ := ih
      rw [run_append_singleton, List.countP_append, List.countP_singleton]
      generalize t.run .start events = s at htime hhalts ⊢
      cases hhalted : s.halted with
      | true =>
          have hmore := hhalts.mp hhalted
          rw [step_of_halted t hhalted]
          dsimp only
          refine ⟨?_, iff_of_true hhalted ?_⟩
          all_goals omega
      | false =>
          have hfewer : ¬ t.settings.maxSteps < events.countP t.sees := by
            rw [← hhalts, hhalted]
            decide
          cases hsees : t.sees event with
          | false =>
              simp [step_unseen hhalted hsees, noticeEvent_time, noticeEvent_halted, hhalted, htime,
                Nat.not_lt.mp hfewer]
          | true =>
              by_cases hlimit : s.time < t.settings.maxSteps
              · have hgoes : (t.carryOut event (t.approach event s)).halted ≠ true := by
                  simp [carryOut_halted, approach_halted, hhalted]
                rw [step_below hhalted hsees hlimit, carryOut_time, approach_time, if_pos rfl]
                refine ⟨?_, iff_of_false hgoes ?_⟩
                all_goals omega
              · rw [step_beyond hhalted hsees (Nat.not_lt.mp hlimit), if_pos rfl]
                refine ⟨(t.approach_time event s).trans ?_, iff_of_true rfl ?_⟩
                all_goals omega

theorem stepCount_run (t : Tracer) (events : List (Event Frame)) :
    (t.run .start events).log.stepCount = (t.run .start events).time := by
  obtain ⟨steps, h⟩ := t.run_chained events
  rw [Log.stepCount_eq, h.perm.length_eq, List.length_reverse, h.time_eq]

/-- A tracer that has halted did so at an event that it saw at the limit. -/
theorem exists_firstHalt {events : List (Event Frame)}
    (hhalted : (t.run .start events).halted = true) :
    ∃ earlier event later, events = earlier ++ event :: later ∧
      (t.run .start earlier).halted = false ∧ t.sees event = true ∧
      t.settings.maxSteps ≤ (t.run .start earlier).time := by
  induction events using List.reverseRecOn with
  | nil => cases hhalted
  | append_singleton events event ih =>
      cases hbefore : (t.run .start events).halted with
      | true =>
          obtain ⟨earlier, first, later, hevents, hfirst⟩ := ih hbefore
          exact ⟨earlier, first, later ++ [event], by simp [hevents], hfirst⟩
      | false =>
          rw [run_append_singleton] at hhalted
          cases hsees : t.sees event with
          | false => simp [step_unseen hbefore hsees, noticeEvent_halted, hbefore] at hhalted
          | true =>
              refine ⟨events, event, [], rfl, hbefore, hsees, Nat.not_lt.mp fun hbelow => ?_⟩
              rw [step_below hbefore hsees hbelow, carryOut_halted, approach_halted,
                hbefore] at hhalted
              cases hhalted

/-- A run is over at the first event that is seen at the limit. -/
theorem run_beyond {earlier : List (Event Frame)} {event : Event Frame}
    (hgoesOn : (t.run .start earlier).halted = false) (hsees : t.sees event = true)
    (hlimit : t.settings.maxSteps ≤ (t.run .start earlier).time) (later : List (Event Frame)) :
    t.run .start (earlier ++ event :: later) =
      { t.approach event (t.run .start earlier) with halted := true } := by
  rw [run_append, run, List.foldl_cons, step_beyond hgoesOn hsees hlimit]
  exact run_of_halted rfl later

/-- A tracer has halted exactly if there was an event to see when the steps were
as many as they can be. -/
theorem halted_run_iff (t : Tracer) (events : List (Event Frame)) :
    (t.run .start events).halted = true ↔
      ∃ earlier event later, events = earlier ++ event :: later ∧ t.sees event = true ∧
        (t.run .start earlier).log.stepCount = t.settings.maxSteps := by
  constructor
  · intro hhalted
    obtain ⟨earlier, event, later, hevents, -, hsees, hlimit⟩ := exists_firstHalt hhalted
    have hcount := (t.run_counts earlier).1
    refine ⟨earlier, event, later, hevents, hsees, ?_⟩
    rw [stepCount_run]
    omega
  · rintro ⟨earlier, event, later, rfl, hsees, hcount⟩
    have hearlier := (t.run_counts earlier).1
    rw [stepCount_run] at hcount
    rw [(t.run_counts _).2, List.countP_append, List.countP_cons, if_pos hsees]
    omega

/-- The answers to events, also those behind a halt. -/
def answers (t : Tracer) : State → List (Event Frame) → List Flow
  | _, [] => []
  | s, event :: rest => (t.step s event).2 :: t.answers (t.step s event).1 rest

theorem answers_of_halted (h : s.halted = true) (events : List (Event Frame)) :
    t.answers s events = events.map fun _ => .halt := by
  induction events with
  | nil => rfl
  | cons event rest ih =>
      rw [answers, step_of_halted t h, ih]
      rfl

/-- A host that stops at the first halt sees the tracer come to the same state as
one that goes on. -/
theorem observe_eq_run (t : Tracer) (s : State) (events : List (Event Frame)) :
    observe t.step s events = t.run s events := by
  induction events generalizing s with
  | nil => rfl
  | cons event rest ih =>
      rw [observe, run, List.foldl_cons]
      have hanswer := t.step_halt_iff s event
      generalize t.step s event = answered at hanswer ⊢
      obtain ⟨s', flow⟩ := answered
      cases flow with
      | goOn => exact ih s'
      | halt => exact (run_of_halted (hanswer.mp rfl) rest).symm

/-! ## The limit -/

/-- What the event at which a tracer halts makes of a state: a return does
nothing, and a visit to a line ends the loops that control has left, if any. -/
inductive HaltsAt (t : Tracer) (s : State) : Event Frame → State → Prop where
  | line (frame : Frame) (number : UInt64)
      (hends : t.EndsLoops frame.id s
        (t.endLeft frame.id (number.toNat - 1) (notice frame s))) :
      HaltsAt t s (.line frame number)
        { t.endLeft frame.id (number.toNat - 1) (notice frame s) with halted := true }
  | leave (frame : Frame) (number : UInt64) (value : Value) :
      HaltsAt t s (.leave frame number value) { s with halted := true }

/-- What the limit of steps does to a run. -/
structure KeepsLimit (t : Tracer) (events : List (Event Frame)) : Prop where
  /-- The events that are seen are steps, up to the limit. -/
  stepCount_eq : (t.run .start events).log.stepCount =
    min t.settings.maxSteps (events.countP t.sees)
  /-- The tracer has halted if there was an event to see at the limit. -/
  halted_iff : (t.run .start events).halted = true ↔
    ∃ earlier event later, events = earlier ++ event :: later ∧ t.sees event = true ∧
      (t.run .start earlier).log.stepCount = t.settings.maxSteps
  /-- The answer tells whether the tracer has halted. -/
  halt_iff : ∀ event, (t.step (t.run .start events) event).2 = .halt ↔
    (t.step (t.run .start events) event).1.halted = true
  /-- The event at which the tracer halts is no step, and at most ends loops. -/
  firstHalt : ∀ event, (t.run .start events).halted = false →
    (t.step (t.run .start events) event).2 = .halt →
    t.HaltsAt (t.run .start events) event (t.step (t.run .start events) event).1 ∧
      (t.step (t.run .start events) event).1.log.stepCount =
        (t.run .start events).log.stepCount
  /-- Behind a halt nothing changes, and every answer is a halt. -/
  stays : (t.run .start events).halted = true → ∀ later,
    t.run .start (events ++ later) = t.run .start events ∧
      t.answers (t.run .start events) later = later.map fun _ => .halt

theorem firstHalt_of_halt {events : List (Event Frame)}
    (hhalted : (t.run .start events).halted = false)
    (hhalt : (t.step (t.run .start events) event).2 = .halt) :
    t.HaltsAt (t.run .start events) event (t.step (t.run .start events) event).1 ∧
      (t.step (t.run .start events) event).1.log.stepCount =
        (t.run .start events).log.stepCount := by
  rw [← run_append_singleton, stepCount_run, stepCount_run, run_append_singleton]
  cases hsees : t.sees event with
  | false => simp [step_unseen hhalted hsees] at hhalt
  | true =>
      have hlimit : ¬ (t.run .start events).time < t.settings.maxSteps := by
        intro hbelow
        rw [step_below hhalted hsees hbelow] at hhalt
        cases hhalt
      rw [step_beyond hhalted hsees (Nat.not_lt.mp hlimit)]
      refine ⟨?_, t.approach_time event _⟩
      cases event with
      | line frame number =>
          refine .line frame number ?_
          have hends := t.endLeft_endsLoops frame.id (number.toNat - 1)
            (notice frame (t.run .start events))
          rwa [EndsLoops, notice_loops, notice_log] at hends
      | leave frame number value => exact .leave frame number value

/-- The limit of steps: which events are steps, which event halts the tracer and
what that event still does, and that nothing changes behind it. So a replay of
recorded events, which stops at the halt, comes to the same log as a tracer that
is shown all of them. -/
theorem keepsLimit_run (t : Tracer) :
    (∀ events, t.KeepsLimit events) ∧
      ∀ recording : Recording, recording.check t.source.toText = .ok () →
        recording.replay t.source.toText t.step .start = .ok (t.run .start recording.views) := by
  refine ⟨fun events => ⟨?_, t.halted_run_iff events, fun event => t.step_halt_iff _ event,
    fun event => firstHalt_of_halt, fun hhalted later => ⟨?_, answers_of_halted hhalted later⟩⟩,
    ?_⟩
  · rw [stepCount_run]
    exact (t.run_counts events).1
  · rw [run_append, run_of_halted hhalted]
  · intro recording hcheck
    rw [Recording.replay_of_match hcheck, observe_eq_run]

/-- A loop with room for two steps. -/
def twoSteps : Tracer :=
  ⟨.ofText "while n:\n    n -= 1\nprint(n)\n".toList, ⟨2, "<string>", reservedName⟩, .standard⟩

/-- One iteration of the loop and the line behind it. -/
def twoStepsRecording : Recording :=
  let program : Recording.Frame := .start 1 "<module>"
  .forProgram twoSteps.source.toText
    [.line program 1, .line program 2, .line program 1, .line program 3]

theorem keepsLimit_twoSteps :
    (twoSteps.run .start twoStepsRecording.views).halted = true ∧
      twoStepsRecording.check twoSteps.source.toText = .ok () ∧
      twoStepsRecording.replay twoSteps.source.toText twoSteps.step .start =
        .ok (twoSteps.run .start twoStepsRecording.views) := by
  have hcheck : twoStepsRecording.check twoSteps.source.toText = .ok () := by
    simp [twoStepsRecording, Recording.check, Recording.forProgram]
  exact ⟨by decide +kernel, hcheck, (keepsLimit_run twoSteps).2 twoStepsRecording hcheck⟩

end Tracer

end Stepwise.Trace
