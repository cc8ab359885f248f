import Stepwise.Proofs.StepLimit

/-!
# Traces with fewer steps

A tracer with a smaller limit does the same as one with a larger limit, up to
the event at which it halts. At that event the larger one records a step, in
front of which both have ended the same loops. So the trace with fewer steps is
a part of the other one, place by place, and only its last step may have been
linked to that next step.

What is behind the next step does not matter. An event changes no record but
that of the latest step (`Log.Grows`), and the last step of the shorter trace is
not the latest one any more.

## Main results

* `starts_run`: records in front of which there are later steps stay as they are.
* `run_continues`: a trace with more steps goes on from one with fewer steps.
-/

namespace Stepwise.Trace

open Stepwise.Run

namespace Log

/-- Whether a log goes on from an earlier one. Only the last step of the earlier
one may have changed, and only by a link to the step behind it. -/
structure Continues (last : Option Step) (earlier log : Log) : Prop where
  /-- The places stay in order, and new ones come last. -/
  places : earlier.buckets.keys <+: log.buckets.keys
  /-- At every place the old records are kept, and new ones come last. -/
  records : ∃ next, ∀ key, ∃ kept, kept <+: log.at_ key ∧
    List.Forall₂ (Keeps last next) (earlier.at_ key) kept

variable {latest new : Option Step} {log log' : Log}

theorem Continues.refl (last : Option Step) (log : Log) : Continues last log log :=
  ⟨List.prefix_refl _, none, fun key => ⟨log.at_ key, List.prefix_refl _, keeps_refl none _⟩⟩

/-- Records other than the latest step are kept as they are. -/
theorem eq_of_keeps {next : Option Key} {records kept : List Record}
    (h : List.Forall₂ (Keeps latest next) records kept)
    (hold : ∀ step, .step step ∈ records → latest ≠ some step) : kept = records := by
  induction h with
  | nil => rfl
  | cons hhead _ ih =>
      rw [ih fun step hstep => hold step (List.mem_cons_of_mem _ hstep)]
      cases hhead with
      | same _ => rfl
      | linked step key hlatest _ _ => exact absurd hlatest (hold step List.mem_cons_self)

/-- Whatever an event adds, what is in front of the latest step stays. -/
theorem Grows.starts (h : Grows latest log log' new) {key : Key} {front : List Record}
    (hfront : front <+: log.at_ key)
    (hold : ∀ step, .step step ∈ front → latest ≠ some step) : front <+: log'.at_ key := by
  obtain ⟨back, hback⟩ := hfront
  obtain ⟨kept, added, hat, hkept, -⟩ := h.records key
  rw [← hback] at hkept
  have hstart := List.forall₂_take front.length hkept
  rw [List.take_left] at hstart
  rw [hat, ← eq_of_keeps hstart hold]
  exact (List.take_prefix _ _).trans (List.prefix_append _ _)

/-- Keeping a record does not change the time of a step. -/
theorem exists_time_eq {next : Option Key} {records kept : List Record}
    (h : List.Forall₂ (Keeps latest next) records kept) {step : Step}
    (hstep : .step step ∈ kept) : ∃ old, .step old ∈ records ∧ old.time = step.time := by
  induction h with
  | nil => simp at hstep
  | cons hhead _ ih =>
      rcases List.mem_cons.mp hstep with rfl | hrest
      · cases hhead with
        | same _ => exact ⟨step, List.mem_cons_self, rfl⟩
        | linked old key _ _ _ => exact ⟨old, List.mem_cons_self, rfl⟩
      · obtain ⟨old, hold, htime⟩ := ih hrest
        exact ⟨old, List.mem_cons_of_mem _ hold, htime⟩

end Log

namespace Tracer

variable {t : Tracer} {steps : List Step} {s : State}

/-! ## Old records -/

theorem step_time_le (t : Tracer) (s : State) (event : Event Frame) :
    s.time ≤ (t.step s event).1.time := by
  cases hhalted : s.halted with
  | true => rw [step_of_halted t hhalted]
  | false =>
      cases hsees : t.sees event with
      | false =>
          rw [step_unseen hhalted hsees]
          exact (noticeEvent_time event s).ge
      | true =>
          by_cases hlimit : s.time < t.settings.maxSteps
          · rw [step_below hhalted hsees hlimit, carryOut_time, approach_time]
            exact Nat.le_succ _
          · rw [step_beyond hhalted hsees (Nat.not_lt.mp hlimit)]
            exact (t.approach_time event s).ge

/-- More events leave the places where they are, and the records of old steps. -/
theorem starts_run (t : Tracer) (events later : List (Event Frame)) :
    (t.run .start events).time ≤ (t.run .start (events ++ later)).time ∧
      (t.run .start events).log.buckets.keys <+:
        (t.run .start (events ++ later)).log.buckets.keys ∧
      ∀ key front, front <+: (t.run .start events).log.at_ key →
        (∀ step, .step step ∈ front → step.time + 1 < (t.run .start events).time) →
        front <+: (t.run .start (events ++ later)).log.at_ key := by
  induction later using List.reverseRecOn with
  | nil =>
      rw [List.append_nil]
      exact ⟨Nat.le_refl _, List.prefix_refl _, fun _ _ hfront _ => hfront⟩
  | append_singleton later event ih =>
      obtain ⟨htime, hplaces, hfronts⟩ := ih
      obtain ⟨steps, h⟩ := t.run_chained (events ++ later)
      obtain ⟨new, hgrows, -, -⟩ := h.step_grows (t := t) event
      rw [← List.append_assoc, run_append_singleton]
      refine ⟨htime.trans (t.step_time_le _ event), hplaces.trans hgrows.places, ?_⟩
      intro key front hfront hold
      refine hgrows.starts (hfronts key front hfront hold) fun step hstep hlatest => ?_
      -- The latest step has the last number, which is too large for a step in front.
      cases steps with
      | nil => simp at hlatest
      | cons last earlier =>
          obtain rfl : last = step := by simpa using hlatest
          have hlast := h.chain.1.1
          have hcount := h.time_eq
          have hbefore := hold last hstep
          simp only [List.length_cons] at hcount
          omega

/-- A run goes on from a log that it had just before its latest step. -/
theorem continues_run (t : Tracer) {events : List (Event Frame)} {log : Log}
    {last : Option Step} {new : Step}
    (hgrows : Log.Grows last log (t.run .start events).log (some new))
    (hold : ∀ key step, .step step ∈ log.at_ key → step.time + 1 < (t.run .start events).time)
    (later : List (Event Frame)) :
    Log.Continues last log (t.run .start (events ++ later)).log := by
  obtain ⟨-, hplaces, hfronts⟩ := t.starts_run events later
  refine ⟨hgrows.places.trans hplaces, some new.key, fun key => ?_⟩
  obtain ⟨kept, added, hat, hkept, -⟩ := hgrows.records key
  refine ⟨kept, hfronts key kept (hat ▸ List.prefix_append _ _) fun step hstep => ?_, hkept⟩
  obtain ⟨old, hmem, htime⟩ := Log.exists_time_eq hkept hstep
  rw [← htime]
  exact hold key old hmem

/-- The steps of a log have come before the next one. -/
theorem Chained.time_lt_of_mem (h : Chained steps s) {key : Key} {step : Step}
    (hstep : .step step ∈ s.log.at_ key) : step.time < s.time := by
  have hmem : step ∈ s.log.stepsAt key := List.mem_filterMap.mpr ⟨_, hstep, rfl⟩
  rw [h.time_eq]
  exact h.chain.time_lt step (h.mem_stepsAt.mp hmem).1

/-! ## One event -/

theorem Chained.approach (h : Chained steps s) (event : Event Frame) :
    Chained steps (t.approach event s) := by
  cases event with
  | line frame number =>
      have hleft := t.endLeft_grows frame.id (Event.lineIndex (.line frame number))
        (notice frame s)
      rw [notice_log] at hleft
      exact h.addMarks hleft.marks (t.approach_time _ s)
        ((t.endLeft_latest _ _ _).trans (notice_latest frame s))
  | leave frame number value => exact h

/-- Below the limit an event that is seen records a step. -/
theorem Chained.carryOut_grows (h : Chained steps s) (event : Event Frame) :
    ∃ new, Log.Grows steps.head? s.log (t.carryOut event s).log (some new) := by
  cases event with
  | line frame number =>
      exact ⟨_, (h.record_grows frame _ none).trans_marks (t.enter_grows _ _ _)⟩
  | leave frame number value =>
      have hrecord := h.record_grows (t := t) frame
        (.leave (Event.lineIndex (.leave frame number value))) (t.format.show? value)
      unfold carryOut
      dsimp only
      split
      · exact ⟨_, hrecord.trans_marks (t.endLeft_grows _ _ _)⟩
      · exact ⟨_, (hrecord.trans_marks (t.endLeft_grows _ _ _)).trans_marks
          (t.endAll_grows _ _ _)⟩

/-! ## Two limits -/

/-- A tracer with another limit. -/
def withLimit (t : Tracer) (limit : Nat) : Tracer :=
  { t with settings := { t.settings with maxSteps := limit } }

theorem endOwn_withLimit (t : Tracer) (limit : Nat) (counted : Bool) (context : UInt64)
    (loops : List Loop) (log : Log) :
    (t.withLimit limit).endOwn counted context loops log = t.endOwn counted context loops log := by
  induction loops generalizing log with
  | nil => rfl
  | cons top outer ih =>
      rw [endOwn, endOwn, ih]
      rfl

theorem endAll_withLimit (t : Tracer) (limit : Nat) :
    (t.withLimit limit).endAll = t.endAll := by
  funext counted context s
  rw [endAll, endAll, endOwn_withLimit]

theorem endLeft_withLimit (t : Tracer) (limit : Nat) :
    (t.withLimit limit).endLeft = t.endLeft := by
  funext context line s
  simp only [endLeft, endAll_withLimit]
  rfl

theorem approach_withLimit (t : Tracer) (limit : Nat) :
    (t.withLimit limit).approach = t.approach := by
  funext event s
  simp only [approach, endLeft_withLimit]

theorem carryOut_withLimit (t : Tracer) (limit : Nat) :
    (t.withLimit limit).carryOut = t.carryOut := by
  funext event s
  simp only [carryOut, endLeft_withLimit, endAll_withLimit]
  rfl

/-- As long as the smaller limit lets a tracer go on, a larger one makes no
difference. -/
theorem step_withLimit (t : Tracer) {m n : Nat} (hle : m ≤ n) {s : State} {event : Event Frame}
    (hgoesOn : ((t.withLimit m).step s event).1.halted = false) :
    (t.withLimit n).step s event = (t.withLimit m).step s event := by
  cases hhalted : s.halted with
  | true => rw [step_of_halted _ hhalted, step_of_halted _ hhalted]
  | false =>
      cases hsees : t.sees event with
      | false =>
          have hunseen : ∀ limit, (t.withLimit limit).sees event = false := fun _ => hsees
          rw [step_unseen hhalted (hunseen n), step_unseen hhalted (hunseen m)]
      | true =>
          have hseen : ∀ limit, (t.withLimit limit).sees event = true := fun _ => hsees
          have hbelow : s.time < m := by
            by_contra hbeyond
            rw [step_beyond hhalted (hseen m) (Nat.not_lt.mp hbeyond)] at hgoesOn
            cases hgoesOn
          rw [step_below hhalted (hseen n) (Nat.lt_of_lt_of_le hbelow hle),
            step_below hhalted (hseen m) hbelow, carryOut_withLimit, approach_withLimit,
            carryOut_withLimit, approach_withLimit]

theorem run_withLimit (t : Tracer) {m n : Nat} (hle : m ≤ n) {events : List (Event Frame)}
    (hgoesOn : ((t.withLimit m).run .start events).halted = false) :
    (t.withLimit n).run .start events = (t.withLimit m).run .start events := by
  induction events using List.reverseRecOn with
  | nil => rfl
  | append_singleton events event ih =>
      have hbefore : ((t.withLimit m).run .start events).halted = false := by
        rw [run_append] at hgoesOn
        exact goesOn_of_run hgoesOn
      rw [run_append_singleton] at hgoesOn
      rw [run_append_singleton, run_append_singleton, ih hbefore]
      rw [t.step_withLimit hle hgoesOn]

/-- The trace with a larger limit goes on from the one with a smaller limit. -/
theorem run_continues (t : Tracer) {m n : Nat} (hle : m ≤ n) (events : List (Event Frame)) :
    Log.Continues ((t.withLimit m).run .start events).log.steps.getLast?
      ((t.withLimit m).run .start events).log ((t.withLimit n).run .start events).log := by
  cases hhalted : ((t.withLimit m).run .start events).halted with
  | false =>
      rw [t.run_withLimit hle hhalted]
      exact .refl _ _
  | true =>
      obtain ⟨earlier, event, later, rfl, hbefore, hsees, hlimit⟩ := exists_firstHalt hhalted
      have hlong := t.run_withLimit hle hbefore
      have hshort := run_beyond hbefore hsees hlimit later
      have hseen : (t.withLimit n).sees event = true := hsees
      obtain ⟨steps, h⟩ := (t.withLimit m).run_chained earlier
      -- Up to here both runs are one. The shorter one ends loops and stops.
      generalize (t.withLimit m).run .start earlier = s at h hbefore hlong hshort
      rw [approach_withLimit] at hshort
      have hchain : Chained steps (t.approach event s) := h.approach event
      have hlast : ((t.withLimit m).run .start (earlier ++ event :: later)).log.steps.getLast? =
          steps.head? := by
        rw [hshort]
        exact hchain.steps_eq ▸ List.getLast?_reverse
      by_cases hfurther : s.time < n
      · -- The longer one records a step behind the same ends of loops.
        have hnext : (t.withLimit n).run .start (earlier ++ [event]) =
            t.carryOut event (t.approach event s) := by
          rw [run_append_singleton, hlong, step_below hbefore hseen hfurther, carryOut_withLimit,
            approach_withLimit]
        obtain ⟨new, hgrows⟩ := hchain.carryOut_grows (t := t) event
        rw [hlast, hshort, List.append_cons]
        refine continues_run _ (hnext ▸ hgrows) (fun key step hstep => ?_) later
        rw [hnext, carryOut_time]
        exact Nat.succ_lt_succ (hchain.time_lt_of_mem hstep)
      · have hsame := run_beyond (hlong ▸ hbefore) hseen (hlong ▸ Nat.not_lt.mp hfurther) later
        rw [hlong, approach_withLimit, ← hshort] at hsame
        rw [hsame]
        exact .refl _ _

/-- A loop inside of a loop. -/
def grid : Tracer :=
  ⟨.ofText ("for row in rows:\n    for cell in row:\n        use(cell)\n" ++
    "    print(row)\n").toList, .standard, .standard⟩

/-- One iteration of the outer loop. -/
def gridEvents : List (Event Frame) :=
  [1, 2, 3, 2, 4, 1].map fun number => .line ⟨1, "<module>", "<string>", []⟩ number

/-- The shorter run stops where the inner loop has just ended. -/
theorem run_continues_grid :
    4 ≤ 6 ∧ ((grid.withLimit 4).run .start gridEvents).log.stepCount = 4 ∧
      ((grid.withLimit 6).run .start gridEvents).log.stepCount = 6 ∧
      Log.Continues ((grid.withLimit 4).run .start gridEvents).log.steps.getLast?
        ((grid.withLimit 4).run .start gridEvents).log
        ((grid.withLimit 6).run .start gridEvents).log :=
  ⟨by decide, by decide +kernel, by decide +kernel, grid.run_continues (by decide) gridEvents⟩

end Tracer

end Stepwise.Trace
