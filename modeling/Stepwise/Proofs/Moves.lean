import Mathlib.Logic.Relation
import Stepwise.Trace.Tracer

/-!
# Moves of the tracer

Four code paths end loops, two record steps, and one begins loops. All of them
are sequences of six moves, and a move touches the stack of loops at its top
only. An invariant of the tracer is therefore checked on the six moves
(`run_induction`), whatever the order in which an event makes them.

Ending a loop in the middle of an iteration is two moves: the iteration is
counted, and then the loop is ended.

## Main results

* `step_moves`: what an event makes of the state is a sequence of moves.
* `run_induction`: what holds at the start and is kept by every move holds
  after every run.
-/

namespace Stepwise.Trace

open Stepwise.Run

/-- A loop with one more iteration. -/
def Loop.counted (l : Loop) : Loop := { l with iteration := l.iteration + 1 }

/-- One thing that a tracer does to its state. -/
inductive Move (t : Tracer) : State → State → Prop where
  | notice (s : State) (names : Option (List String)) :
      Move t s { s with preexisting := names }
  | halt (s : State) : Move t s { s with halted := true }
  | record (s : State) (frame : Frame) (key : Key) (returned : Option (List Char))
      (hlimit : s.time < t.settings.maxSteps)
      (hreturned : returned.isSome = true → key.isLeave = true) :
      Move t s (t.record frame key returned s)
  | count {s : State} {top : Loop} {outer : List Loop} (hloops : s.loops = top :: outer) :
      Move t s { s with loops := top.counted :: outer }
  | begin_ (s : State) (context : UInt64) (line : Nat) (hheader : t.source.isHeader line = true)
      (hnew : ∀ top ∈ s.loops.head?, ¬ (top.context = context ∧ top.header = line)) :
      Move t s (t.beginLoop context line s)
  | end_ {s : State} {top : Loop} {outer : List Loop} (hloops : s.loops = top :: outer) :
      Move t s { s with loops := outer, log := t.markEnd false top outer s.log }

/-- Any number of moves, one after the other. -/
abbrev Moves (t : Tracer) : State → State → Prop := Relation.ReflTransGen (Move t)

namespace Tracer

variable (t : Tracer)

/-! ## What an event comes to -/

/-- The state behind an event, by what the event is and whether it is seen.
An event that goes beyond the limit is the last one that changes anything. -/
inductive Outcome (s : State) : Event Frame → State → Prop where
  | halted (event : Event Frame) (hhalted : s.halted = true) : Outcome s event s
  | unseenLine (frame : Frame) (number : UInt64) (hhalted : s.halted = false)
      (hignores : t.ignores frame = true) : Outcome s (.line frame number) (notice frame s)
  | unseenLeave (frame : Frame) (number : UInt64) (value : Value) (hhalted : s.halted = false)
      (hignores : t.ignores frame = true) : Outcome s (.leave frame number value) s
  | lastLine (frame : Frame) (number : UInt64) (hhalted : s.halted = false)
      (hignores : t.ignores frame = false)
      (hlimit : ¬ (t.endLeft frame.id (number.toNat - 1) (notice frame s)).time <
        t.settings.maxSteps) :
      Outcome s (.line frame number)
        { t.endLeft frame.id (number.toNat - 1) (notice frame s) with halted := true }
  | lastLeave (frame : Frame) (number : UInt64) (value : Value) (hhalted : s.halted = false)
      (hignores : t.ignores frame = false) (hlimit : ¬ s.time < t.settings.maxSteps) :
      Outcome s (.leave frame number value) { s with halted := true }
  | line (frame : Frame) (number : UInt64) (hhalted : s.halted = false)
      (hignores : t.ignores frame = false)
      (hlimit : (t.endLeft frame.id (number.toNat - 1) (notice frame s)).time <
        t.settings.maxSteps) :
      Outcome s (.line frame number)
        (t.enter frame.id (number.toNat - 1)
          (t.record frame (.line (number.toNat - 1)) none
            (t.endLeft frame.id (number.toNat - 1) (notice frame s))))
  | suspend (frame : Frame) (number : UInt64) (value : Value) (hhalted : s.halted = false)
      (hignores : t.ignores frame = false) (hlimit : s.time < t.settings.maxSteps)
      (hsuspends : Source.isSuspension (t.source.text (number.toNat - 1)) = true) :
      Outcome s (.leave frame number value)
        (t.endLeft frame.id (number.toNat - 1)
          (t.record frame (.leave (number.toNat - 1)) (t.format.show? value) s))
  | leave (frame : Frame) (number : UInt64) (value : Value) (hhalted : s.halted = false)
      (hignores : t.ignores frame = false) (hlimit : s.time < t.settings.maxSteps)
      (hsuspends : Source.isSuspension (t.source.text (number.toNat - 1)) = false) :
      Outcome s (.leave frame number value)
        (t.endAll false frame.id (t.endLeft frame.id (number.toNat - 1)
          (t.record frame (.leave (number.toNat - 1)) (t.format.show? value) s)))

theorem step_outcome (s : State) (event : Event Frame) :
    t.Outcome s event (t.step s event).1 := by
  cases hhalted : s.halted with
  | true =>
      rw [t.step_of_halted hhalted]
      exact .halted event hhalted
  | false =>
      cases event with
      | line frame number =>
          cases hignores : t.ignores frame with
          | true =>
              simp only [step, hhalted, hignores]
              exact .unseenLine frame number hhalted hignores
          | false =>
              simp only [step, hhalted, hignores, visit, withinLimit, Event.lineIndex]
              by_cases hlimit : (t.endLeft frame.id (number.toNat - 1) (notice frame s)).time <
                  t.settings.maxSteps
              · simp only [hlimit]
                exact .line frame number hhalted hignores hlimit
              · simp only [hlimit]
                exact .lastLine frame number hhalted hignores hlimit
      | leave frame number value =>
          cases hignores : t.ignores frame with
          | true =>
              simp only [step, hhalted, hignores]
              exact .unseenLeave frame number value hhalted hignores
          | false =>
              simp only [step, hhalted, hignores, leave, withinLimit, Event.lineIndex]
              by_cases hlimit : s.time < t.settings.maxSteps
              · by_cases hsuspends :
                    Source.isSuspension (t.source.text (number.toNat - 1)) = true
                · simp only [hlimit, hsuspends]
                  exact .suspend frame number value hhalted hignores hlimit hsuspends
                · rw [Bool.not_eq_true] at hsuspends
                  simp only [hlimit, hsuspends]
                  exact .leave frame number value hhalted hignores hlimit hsuspends
              · simp only [hlimit]
                exact .lastLeave frame number value hhalted hignores hlimit

/-- Entering a line does nothing, counts an iteration or begins a loop. -/
theorem enter_cases (context : UInt64) (line : Nat) (s : State) :
    (t.source.isHeader line = false ∧ t.enter context line s = s) ∨
      (t.source.isHeader line = true ∧ ∃ top outer, s.loops = top :: outer ∧
        top.context = context ∧ top.header = line ∧
        t.enter context line s = { s with loops := top.counted :: outer }) ∨
      (t.source.isHeader line = true ∧
        (∀ top ∈ s.loops.head?, ¬ (top.context = context ∧ top.header = line)) ∧
        t.enter context line s = t.beginLoop context line s) := by
  unfold enter
  cases hheader : t.source.isHeader line with
  | false => exact .inl ⟨rfl, rfl⟩
  | true =>
      cases hloops : s.loops with
      | nil => exact .inr (.inr ⟨rfl, by simp, by simp⟩)
      | cons top outer =>
          by_cases htop : top.context = context ∧ top.header = line
          · refine .inr (.inl ⟨rfl, top, outer, rfl, htop.1, htop.2, ?_⟩)
            simp [htop, Loop.counted]
          · refine .inr (.inr ⟨rfl, ?_, by simp [htop]⟩)
            simpa using htop

/-! ## What ending loops leaves alone -/

theorem endOwn_fst (counted : Bool) (context : UInt64) (loops : List Loop) (log : Log) :
    (t.endOwn counted context loops log).1 = loops.dropWhile fun l => l.context == context := by
  induction loops generalizing log with
  | nil => rfl
  | cons top outer ih =>
      by_cases hcontext : top.context = context
      · rw [endOwn, if_pos hcontext, ih]
        simp [hcontext]
      · rw [endOwn, if_neg hcontext]
        simp [hcontext]

theorem endAll_loops (counted : Bool) (context : UInt64) (s : State) :
    (t.endAll counted context s).loops = s.loops.dropWhile fun l => l.context == context :=
  t.endOwn_fst counted context s.loops s.log

/-- Which loops are ended is decided by the active loops and the latest step. -/
theorem endLeft_loops_congr (context : UInt64) (line : Nat) {s s' : State}
    (hloops : s.loops = s'.loops) (hlatest : s.latest = s'.latest) :
    (t.endLeft context line s).loops = (t.endLeft context line s').loops := by
  unfold endLeft
  rw [hloops, hlatest]
  split
  · dsimp only
    split
    · exact hloops
    · split
      · rw [endAll_loops, endAll_loops, hloops]
      · split
        · rfl
        · exact hloops
  · exact hloops

/-- Loops are ended on top of the stack. -/
theorem endLeft_suffix (context : UInt64) (line : Nat) (s : State) :
    (t.endLeft context line s).loops <:+ s.loops := by
  unfold endLeft
  split
  · next top outer latest hloops _ =>
      dsimp only
      split
      · exact List.suffix_refl _
      · split
        · rw [endAll_loops]
          exact List.dropWhile_suffix _
        · split
          · rw [hloops]
            exact List.suffix_cons top outer
          · exact List.suffix_refl _
  · exact List.suffix_refl _

theorem endLeft_time (context : UInt64) (line : Nat) (s : State) :
    (t.endLeft context line s).time = s.time := by
  unfold endLeft endAll
  split
  · dsimp only
    repeat' split
    all_goals rfl
  · rfl

theorem endLeft_latest (context : UInt64) (line : Nat) (s : State) :
    (t.endLeft context line s).latest = s.latest := by
  unfold endLeft endAll
  split
  · dsimp only
    repeat' split
    all_goals rfl
  · rfl

theorem endLeft_preexisting (context : UInt64) (line : Nat) (s : State)
    (names : Option (List String)) :
    t.endLeft context line { s with preexisting := names } =
      { t.endLeft context line s with preexisting := names } := by
  unfold endLeft endAll
  dsimp only
  split
  · split
    · rfl
    · split
      · rfl
      · split <;> rfl
  · rfl

theorem endLeft_halted (context : UInt64) (line : Nat) (s : State) :
    (t.endLeft context line s).halted = s.halted := by
  unfold endLeft endAll
  split
  · dsimp only
    repeat' split
    all_goals rfl
  · rfl

theorem notice_loops (frame : Frame) (s : State) : (notice frame s).loops = s.loops := by
  unfold notice
  split <;> rfl

theorem notice_log (frame : Frame) (s : State) : (notice frame s).log = s.log := by
  unfold notice
  split <;> rfl

theorem notice_latest (frame : Frame) (s : State) : (notice frame s).latest = s.latest := by
  unfold notice
  split <;> rfl

theorem notice_time (frame : Frame) (s : State) : (notice frame s).time = s.time := by
  unfold notice
  split <;> rfl

/-! ## Moves -/

/-- Ending the innermost loop, whether or not its last iteration counts. -/
theorem markEnd_moves (counted : Bool) {top : Loop} {outer : List Loop} {s : State}
    (hloops : s.loops = top :: outer) :
    Moves t s { s with loops := outer, log := t.markEnd counted top outer s.log } := by
  cases counted with
  | false => exact .single (.end_ hloops)
  | true =>
      have hcount : Move t s { s with loops := top.counted :: outer } := .count hloops
      exact .tail (.single hcount) (.end_ rfl)

theorem endOwn_moves (counted : Bool) (context : UInt64) (loops : List Loop) :
    ∀ s : State, s.loops = loops →
      Moves t s { s with
        loops := (t.endOwn counted context loops s.log).1
        log := (t.endOwn counted context loops s.log).2 } := by
  induction loops with
  | nil =>
      intro s hs
      have hsame : { s with loops := [], log := s.log } = s := by rw [← hs]
      rw [endOwn, hsame]
  | cons top outer ih =>
      intro s hs
      by_cases hcontext : top.context = context
      · have hrest := ih { s with
          loops := outer, log := t.markEnd counted top outer s.log } rfl
        simp only [endOwn, hcontext, if_true]
        exact (t.markEnd_moves counted hs).trans hrest
      · have hsame : { s with loops := top :: outer, log := s.log } = s := by rw [← hs]
        simp only [endOwn, hcontext, if_false]
        rw [hsame]

theorem endAll_moves (counted : Bool) (context : UInt64) (s : State) :
    Moves t s (t.endAll counted context s) :=
  t.endOwn_moves counted context s.loops s rfl

theorem endLeft_moves (context : UInt64) (line : Nat) (s : State) :
    Moves t s (t.endLeft context line s) := by
  unfold endLeft
  split
  · next top outer latest hloops hlatest =>
      dsimp only
      split
      · exact .refl
      · split
        · exact t.endAll_moves true context s
        · split
          · exact t.markEnd_moves _ hloops
          · exact .refl
  · exact .refl

theorem enter_moves (context : UInt64) (line : Nat) (s : State) :
    Moves t s (t.enter context line s) := by
  rcases t.enter_cases context line s with ⟨-, heq⟩ | ⟨-, top, outer, hloops, -, -, heq⟩ |
    ⟨hheader, hnew, heq⟩
  · rw [heq]
  · rw [heq]
    exact .single (.count hloops)
  · rw [heq]
    exact .single (.begin_ s context line hheader hnew)

theorem notice_moves (frame : Frame) (s : State) : Moves t s (notice frame s) := by
  unfold notice
  split
  · exact .single (.notice s _)
  · exact .refl

/-- An event is a sequence of moves. -/
theorem step_moves (s : State) (event : Event Frame) : Moves t s (t.step s event).1 := by
  have houtcome := t.step_outcome s event
  generalize (t.step s event).1 = s' at houtcome ⊢
  cases houtcome with
  | halted event _ => exact .refl
  | unseenLine frame number _ _ => exact t.notice_moves frame s
  | unseenLeave frame number value _ _ => exact .refl
  | lastLine frame number _ _ _ =>
      have hleft := (t.notice_moves frame s).trans
        (t.endLeft_moves frame.id (number.toNat - 1) (notice frame s))
      exact hleft.tail (.halt _)
  | lastLeave frame number value _ _ _ => exact .single (.halt s)
  | line frame number _ _ hlimit =>
      have hleft := (t.notice_moves frame s).trans
        (t.endLeft_moves frame.id (number.toNat - 1) (notice frame s))
      have hrecord := Move.record _ frame (.line (number.toNat - 1)) none hlimit (by simp)
      exact (hleft.tail hrecord).trans (t.enter_moves frame.id _ _)
  | suspend frame number value _ _ hlimit _ =>
      exact .head (.record s frame _ _ hlimit fun _ => rfl) (t.endLeft_moves frame.id _ _)
  | leave frame number value _ _ hlimit _ =>
      refine Relation.ReflTransGen.trans ?_ (t.endAll_moves false frame.id _)
      exact .head (.record s frame _ _ hlimit fun _ => rfl) (t.endLeft_moves frame.id _ _)

theorem run_append (s : State) (events more : List (Event Frame)) :
    t.run s (events ++ more) = t.run (t.run s events) more := by
  simp [run]

theorem run_append_singleton (s : State) (events : List (Event Frame)) (event : Event Frame) :
    t.run s (events ++ [event]) = (t.step (t.run s events) event).1 :=
  t.run_append s events [event]

/-- What every move keeps is kept by moves. -/
theorem moves_induction {P : State → Prop} (hmove : ∀ s s', Move t s s' → P s → P s')
    {s s' : State} (h : Moves t s s') (hs : P s) : P s' := by
  induction h with
  | refl => exact hs
  | tail _ hlast ih => exact hmove _ _ hlast ih

/-- What holds at the start and is kept by every move holds after every run. -/
theorem run_induction {P : State → Prop} (hstart : P .start)
    (hmove : ∀ s s', Move t s s' → P s → P s') (events : List (Event Frame)) :
    P (t.run .start events) := by
  have hrun : ∀ s, P s → P (t.run s events) := by
    induction events with
    | nil => exact fun _ hs => hs
    | cons event rest ih =>
        intro s hs
        exact ih _ (t.moves_induction hmove (t.step_moves s event) hs)
  exact hrun .start hstart

end Tracer

end Stepwise.Trace
