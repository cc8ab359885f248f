import Mathlib.Data.List.Forall2
import Stepwise.Proofs.Chain

/-!
# What an event adds to the log

A log only grows. An event can end many loops, begin one and record a step, and
all of that comes in at the ends of places, and new places come in behind the
old ones. The one thing that happens to an old record is that the latest step
is linked to the next one. It is found by its number among the records of its
place, so what has to be seen is that this number leads to the latest step,
which had no link so far. The chain of steps knows that.

## Main results

* `Chained.record_grows`: what recording a step does to the log.
* `step_appends`: what any event does to the log.
-/

namespace Stepwise

namespace Ordered

variable {κ α : Type} [DecidableEq κ]

theorem keys_starts_update (m : Ordered κ α) (key : κ) (f : Option α → α) :
    m.keys <+: (m.update key f).keys := by
  rw [keys_update]
  split
  · exact List.prefix_refl _
  · exact List.prefix_append _ _

theorem keys_modify (m : Ordered κ α) (key : κ) (f : α → α) : (m.modify key f).keys = m.keys := by
  unfold modify
  cases hlookup : m.lookup key with
  | none => rfl
  | some a =>
      have hmem : key ∈ m.keys := m.mem_keys_of_lookup (by rw [hlookup]; rfl)
      show (m.update key fun _ => f a).keys = m.keys
      rw [keys_update, if_pos hmem]

end Ordered

namespace Trace

open Stepwise.Run

namespace Log

/-! ## Growth by marks -/

/-- Whether a log is an earlier one with marks of loops behind the records of
some places. -/
structure GrowsByMarks (earlier log : Log) : Prop where
  places : earlier.buckets.keys <+: log.buckets.keys
  marks : AddsMarks earlier log

namespace GrowsByMarks

theorem refl (log : Log) : GrowsByMarks log log := ⟨List.prefix_refl _, .refl log⟩

theorem trans {log log' log'' : Log} (h : GrowsByMarks log log') (h' : GrowsByMarks log' log'') :
    GrowsByMarks log log'' :=
  ⟨h.places.trans h'.places, h.marks.trans h'.marks⟩

theorem pushAll (log : Log) (lines : List Nat) {mark : Record} (hmark : mark.step? = none) :
    GrowsByMarks log (log.pushAll lines mark) := by
  refine ⟨?_, .pushAll log lines hmark⟩
  induction lines generalizing log with
  | nil => exact List.prefix_refl _
  | cons n rest ih =>
      have hpush : log.buckets.keys <+: (log.push (.line n) mark).buckets.keys :=
        log.buckets.keys_starts_update _ _
      exact hpush.trans (ih (log.push (.line n) mark))

end GrowsByMarks

/-! ## Growth in general -/

/-- Whether a record is an earlier one. Only the latest step may have changed,
and only by a link to the place of the next step where it had none. -/
inductive Keeps (latest : Option Step) (next : Option Key) : Record → Record → Prop where
  | same (record : Record) : Keeps latest next record record
  | linked (step : Step) (key : Key) (hlatest : latest = some step) (hopen : step.next = none)
      (hnext : next = some key) :
      Keeps latest next (.step step) (.step { step with next := some key })

/-- Whether a log is an earlier one, whose latest step is known, with new
records behind the old ones. There is at most one step among the new ones. -/
structure Grows (latest : Option Step) (earlier log : Log) (new : Option Step) : Prop where
  /-- The places stay in order, and new ones come last. -/
  places : earlier.buckets.keys <+: log.buckets.keys
  /-- At every place the old records are kept, and what comes behind them are
  marks of loops and the new step. -/
  records : ∀ key, ∃ kept added, log.at_ key = kept ++ added ∧
    List.Forall₂ (Keeps latest (new.map Step.key)) (earlier.at_ key) kept ∧
    added.filterMap Record.step? = (new.filter fun step => step.key = key).toList

variable {latest new : Option Step} {log log' log'' : Log}

theorem keeps_refl (next : Option Key) (records : List Record) :
    List.Forall₂ (Keeps latest next) records records :=
  List.forall₂_same.mpr fun record _ => .same record

theorem GrowsByMarks.grows (h : GrowsByMarks log log') : Grows latest log log' none := by
  refine ⟨h.places, fun key => ?_⟩
  obtain ⟨marks, hat, hmarks⟩ := h.marks key
  exact ⟨log.at_ key, marks, hat, keeps_refl _ _, hmarks⟩

/-- A mark is kept as it is. -/
theorem filterMap_of_keeps {next : Option Key} {records kept : List Record}
    (h : List.Forall₂ (Keeps latest next) records kept)
    (hmarks : records.filterMap Record.step? = []) : kept.filterMap Record.step? = [] := by
  induction h with
  | nil => rfl
  | @cons record kept records rest hhead _ ih =>
      cases hstep : record.step? with
      | some step => simp [hstep] at hmarks
      | none =>
          rw [List.filterMap_cons_none hstep] at hmarks
          cases hhead with
          | same _ =>
              rw [List.filterMap_cons_none hstep]
              exact ih hmarks
          | linked step key _ _ _ => cases hstep

/-- Marks may come in front of what else comes in. -/
theorem GrowsByMarks.trans_grows (h : GrowsByMarks log log') (h' : Grows latest log' log'' new) :
    Grows latest log log'' new := by
  refine ⟨h.places.trans h'.places, fun key => ?_⟩
  obtain ⟨marks, hat, hmarks⟩ := h.marks key
  obtain ⟨kept, added, hat', hkept, hadded⟩ := h'.records key
  rw [hat] at hkept
  have hold := List.forall₂_take (log.at_ key).length hkept
  have hmark := List.forall₂_drop (log.at_ key).length hkept
  rw [List.take_left] at hold
  rw [List.drop_left] at hmark
  refine ⟨kept.take (log.at_ key).length, kept.drop (log.at_ key).length ++ added, ?_, hold, ?_⟩
  · rw [← List.append_assoc, List.take_append_drop, hat']
  · rw [List.filterMap_append, filterMap_of_keeps hmark hmarks, hadded]
    rfl

/-- Marks may come in behind everything else. -/
theorem Grows.trans_marks (h : Grows latest log log' new) (h' : GrowsByMarks log' log'') :
    Grows latest log log'' new := by
  refine ⟨h.places.trans h'.places, fun key => ?_⟩
  obtain ⟨kept, added, hat, hkept, hadded⟩ := h.records key
  obtain ⟨marks, hat', hmarks⟩ := h'.marks key
  refine ⟨kept, added ++ marks, ?_, hkept, ?_⟩
  · rw [hat', hat, List.append_assoc]
  · rw [List.filterMap_append, hmarks, hadded, List.append_nil]

/-- A step comes in behind everything else, after a change that keeps the old
records. -/
theorem Grows.push {linked : Log} (step : Step)
    (hplaces : log.buckets.keys <+: linked.buckets.keys)
    (hkept : ∀ key, List.Forall₂ (Keeps latest (some step.key)) (log.at_ key) (linked.at_ key)) :
    Grows latest log (linked.push step.key (.step step)) (some step) := by
  refine ⟨hplaces.trans (linked.buckets.keys_starts_update _ _), fun key => ?_⟩
  by_cases hkey : key = step.key
  · subst hkey
    refine ⟨linked.at_ step.key, [.step step], linked.at_push _ _, hkept step.key, ?_⟩
    rw [Option.filter_some, if_pos (decide_eq_true rfl)]
    rfl
  · refine ⟨linked.at_ key, [], ?_, hkept key, ?_⟩
    · rw [linked.at_push_ne _ hkey, List.append_nil]
    · simp [Ne.symm hkey]

end Log

namespace Tracer

variable {t : Tracer} {steps : List Step} {s : State}

/-! ## What ends and begins loops -/

theorem markEnd_grows (t : Tracer) (counted : Bool) (top : Loop) (outer : List Loop) (log : Log) :
    log.GrowsByMarks (t.markEnd counted top outer log) :=
  .pushAll log _ rfl

theorem endOwn_grows (t : Tracer) (counted : Bool) (context : UInt64) (loops : List Loop)
    (log : Log) : log.GrowsByMarks (t.endOwn counted context loops log).2 := by
  induction loops generalizing log with
  | nil => exact .refl log
  | cons top outer ih =>
      by_cases hcontext : top.context = context
      · rw [endOwn, if_pos hcontext]
        exact (t.markEnd_grows counted top outer log).trans (ih _)
      · rw [endOwn, if_neg hcontext]
        exact .refl log

theorem endAll_grows (t : Tracer) (counted : Bool) (context : UInt64) (s : State) :
    s.log.GrowsByMarks (t.endAll counted context s).log :=
  t.endOwn_grows counted context s.loops s.log

theorem endLeft_grows (t : Tracer) (context : UInt64) (line : Nat) (s : State) :
    s.log.GrowsByMarks (t.endLeft context line s).log := by
  unfold endLeft
  split
  · next top outer latest _ _ =>
      dsimp only
      split
      · exact .refl s.log
      · split
        · exact t.endAll_grows true context s
        · split
          · exact t.markEnd_grows _ top outer s.log
          · exact .refl s.log
  · exact .refl s.log

theorem enter_grows (t : Tracer) (context : UInt64) (line : Nat) (s : State) :
    s.log.GrowsByMarks (t.enter context line s).log := by
  rcases t.enter_cases context line s with ⟨-, heq⟩ | ⟨-, top, outer, -, -, -, heq⟩ |
    ⟨-, -, heq⟩
  · rw [heq]
    exact .refl s.log
  · rw [heq]
    exact .refl s.log
  · rw [heq]
    exact .pushAll s.log _ rfl

/-! ## What records a step -/

theorem linked_places (key : Key) (s : State) :
    (linked key s).buckets.keys = s.log.buckets.keys := by
  unfold linked
  cases s.latest with
  | none => rfl
  | some latest => exact s.log.buckets.keys_modify _ _

/-- Linking changes the latest step, and that step had no link. -/
theorem Chained.linked_keeps (h : Chained steps s) (key other : Key) :
    List.Forall₂ (Log.Keeps steps.head? (some key)) (s.log.at_ other)
      ((linked key s).at_ other) := by
  cases hlatest : s.latest with
  | none =>
      have hsame : linked key s = s.log := by rw [linked, hlatest]
      rw [hsame]
      exact Log.keeps_refl _ _
  | some latest =>
      have hlinked : linked key s = s.log.modifyStep latest.key latest.index
          fun before => { before with next := some key } := by
        rw [linked, hlatest]
      have hkeys := h.latest_eq
      rw [hlatest] at hkeys
      cases steps with
      | nil => simp at hkeys
      | cons last earlier =>
          obtain ⟨front, marks, hat, hindex, -⟩ := h.latest_at last rfl latest hlatest
          obtain ⟨⟨-, -, hopen⟩, -⟩ := h.chain
          rw [hlinked, ← hindex]
          by_cases hother : other = latest.key
          · rw [hother, Log.at_modifyStep hat, hat]
            have hlinks : Log.Keeps (some last) (some key) (.step last)
                (.step { last with next := some key }) := .linked last key rfl hopen rfl
            have hbehind := List.Forall₂.cons hlinks (Log.keeps_refl (some key) marks)
            exact List.rel_append (Log.keeps_refl (some key) front) hbehind
          · rw [s.log.at_modifyStep_ne _ _ hother]
            exact Log.keeps_refl _ _

/-- A step comes in behind everything else, and the latest step is linked to
its place. -/
theorem Chained.record_grows (h : Chained steps s) (frame : Frame) (key : Key)
    (returned : Option (List Char)) :
    Log.Grows steps.head? s.log (t.record frame key returned s).log
      (some (t.recorded frame key returned s)) := by
  have hplaces : s.log.buckets.keys <+: (linked key s).buckets.keys := by
    simp only [linked_places, List.prefix_refl]
  exact .push (t.recorded frame key returned s) hplaces (h.linked_keeps key)

/-! ## What an event does -/

/-- The place at which an event is recorded. -/
def place : Event Frame → Key
  | .line frame number => .line (Event.lineIndex (.line frame number))
  | .leave frame number value => .leave (Event.lineIndex (.leave frame number value))

/-- The text of the value that an event returns. -/
def returnedBy (t : Tracer) : Event Frame → Option (List Char)
  | .line _ _ => none
  | .leave _ _ value => t.format.show? value

/-- Whether an event is recorded: it is not ignored, and the run goes on. -/
def IsRecorded (t : Tracer) (s : State) (event : Event Frame) : Prop :=
  t.ignores event.frame = false ∧ (t.step s event).2 = .goOn

/-- Whether a step is the one that an event adds to a trace. -/
structure IsStepOf (t : Tracer) (s : State) (event : Event Frame) (step : Step) : Prop where
  time_eq : step.time = s.time
  key_eq : step.key = place event
  next_eq : step.next = none
  returned_eq : step.returned = t.returnedBy event

/-- An event adds records behind those of a log with a known chain of steps,
and a step exactly if it is recorded. -/
theorem Chained.step_grows (h : Chained steps s) (event : Event Frame) :
    ∃ new, Log.Grows steps.head? s.log (t.step s event).1.log new ∧
      (new.isSome = true ↔ t.IsRecorded s event) ∧ ∀ step ∈ new, t.IsStepOf s event step := by
  have houtcome := t.step_outcome s event
  generalize hafter : (t.step s event).1 = s' at houtcome ⊢
  cases houtcome with
  | halted event hhalted =>
      refine ⟨none, (Log.GrowsByMarks.refl s.log).grows, ?_, by simp⟩
      simp [IsRecorded, step_of_halted t hhalted]
  | unseenLine frame number hhalted hignores =>
      refine ⟨none, ?_, ?_, by simp⟩
      · rw [notice_log]
        exact (Log.GrowsByMarks.refl s.log).grows
      · simp [IsRecorded, Event.frame, hignores]
  | unseenLeave frame number value hhalted hignores =>
      refine ⟨none, (Log.GrowsByMarks.refl s.log).grows, ?_, by simp⟩
      simp [IsRecorded, Event.frame, hignores]
  | lastLine frame number hhalted hignores hlimit =>
      have hleft := t.endLeft_grows frame.id (number.toNat - 1) (notice frame s)
      rw [notice_log] at hleft
      refine ⟨none, hleft.grows, ?_, by simp⟩
      simp [IsRecorded, step, visit, withinLimit, Event.lineIndex, hhalted, hignores, hlimit]
  | lastLeave frame number value hhalted hignores hlimit =>
      refine ⟨none, (Log.GrowsByMarks.refl s.log).grows, ?_, by simp⟩
      simp [IsRecorded, step, leave, withinLimit, hhalted, hignores, hlimit]
  | line frame number hhalted hignores hlimit =>
      have hleft := t.endLeft_grows frame.id (number.toNat - 1) (notice frame s)
      have htime := (t.endLeft_time frame.id (number.toNat - 1) (notice frame s)).trans
        (notice_time frame s)
      have hlatest := (t.endLeft_latest frame.id (number.toNat - 1) (notice frame s)).trans
        (notice_latest frame s)
      rw [notice_log] at hleft
      have hrecord := (h.addMarks hleft.marks htime hlatest).record_grows (t := t) frame
        (.line (number.toNat - 1)) none
      refine ⟨_, (hleft.trans_grows hrecord).trans_marks (t.enter_grows frame.id _ _), ?_, ?_⟩
      · simp [IsRecorded, step, visit, withinLimit, Event.lineIndex, Event.frame, hhalted,
          hignores, hlimit]
      · intro step hstep
        obtain rfl := Option.some.inj hstep
        exact ⟨htime, rfl, rfl, rfl⟩
  | suspend frame number value hhalted hignores hlimit hsuspends =>
      have hrecord := h.record_grows (t := t) frame (.leave (number.toNat - 1))
        (t.format.show? value)
      refine ⟨_, hrecord.trans_marks (t.endLeft_grows frame.id _ _), ?_, ?_⟩
      · simp [IsRecorded, step, leave, withinLimit, Event.frame, hhalted, hignores, hlimit]
      · intro step hstep
        obtain rfl := Option.some.inj hstep
        exact ⟨rfl, rfl, rfl, rfl⟩
  | leave frame number value hhalted hignores hlimit hsuspends =>
      have hrecord := h.record_grows (t := t) frame (.leave (number.toNat - 1))
        (t.format.show? value)
      refine ⟨_, (hrecord.trans_marks (t.endLeft_grows frame.id _ _)).trans_marks
        (t.endAll_grows false frame.id _), ?_, ?_⟩
      · simp [IsRecorded, step, leave, withinLimit, Event.frame, hhalted, hignores, hlimit]
      · intro step hstep
        obtain rfl := Option.some.inj hstep
        exact ⟨rfl, rfl, rfl, rfl⟩

/-- After any events there is a chain of steps. -/
theorem run_chained (t : Tracer) (events : List (Event Frame)) :
    ∃ steps, Chained steps (t.run .start events) :=
  t.run_induction (P := fun s => ∃ steps, Chained steps s) ⟨[], chained_start⟩
    (fun _ _ hmove ⟨_, hs⟩ => hs.move hmove) events

/-- After any events, one more event leaves the old records of every place
where they are, in front of the new ones, and the old places in front of the new
ones. It adds a step exactly if it is recorded, and then just one. No old record
changes, except that the latest step may be linked to the new one. -/
theorem step_appends (t : Tracer) (events : List (Event Frame)) (event : Event Frame) :
    ∃ new, Log.Grows (t.run .start events).log.steps.getLast? (t.run .start events).log
        (t.step (t.run .start events) event).1.log new ∧
      (new.isSome = true ↔ t.IsRecorded (t.run .start events) event) ∧
      ∀ step ∈ new, t.IsStepOf (t.run .start events) event step := by
  obtain ⟨steps, h⟩ := t.run_chained events
  have hlatest : (t.run .start events).log.steps.getLast? = steps.head? := by
    rw [h.steps_eq, List.getLast?_reverse]
  rw [hlatest]
  exact h.step_grows event

end Tracer

end Trace

end Stepwise
