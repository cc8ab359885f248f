import Stepwise.Proofs.StepLimit

/-!
# Events that are not seen

Comprehensions and code that is not part of the program run between the steps of
the program, in calls of their own or in calls with the same numbers. A trace
shows nothing of them. They may be left out of a run, and neither the state nor
the answers to other events tell the difference.

There is one exception. The first visit to a line outside of all functions fixes
which variables were there before the program, even if the line is not one of
the program. Without it a later visit would do so, and other variables would be
hidden.

## Main results

* `run_relevant`: events that are not relevant make no difference.
-/

namespace Stepwise.Run

/-- Whether an event is a visit to a line outside of all functions. -/
def Event.isModuleLine : Event Frame → Bool
  | line frame _ => frame.scope == .module
  | leave _ _ _ => false

end Stepwise.Run

namespace Stepwise.Trace

open Stepwise.Run

namespace Tracer

/-- Those of a list whose events are relevant for a trace: the events that are
seen, and the first visit to a line outside of all functions. `noticed` says
whether there was such a visit before. -/
def relevant {α : Type} (t : Tracer) (event : α → Event Frame) :
    (noticed : Bool) → List α → List α
  | _, [] => []
  | noticed, a :: rest =>
      let first := !noticed && (event a).isModuleLine
      if first || t.sees (event a) then a :: t.relevant event (noticed || first) rest
      else t.relevant event noticed rest

variable {t : Tracer} {s : State} {event : Event Frame}

/-! ## What is noticed -/

/-- Whether nothing will be noticed any more: the variables that were there
before the program are known, or the tracer has halted. -/
def HasNoticed (s : State) : Prop := s.preexisting.isSome = true ∨ s.halted = true

theorem noticeEvent_eq (h : event.isModuleLine = true → s.preexisting.isSome = true) :
    noticeEvent event s = s := by
  cases event with
  | line frame number =>
      refine if_neg ?_
      rintro ⟨hscope, hnone⟩
      have hsome := h (by simp [Event.isModuleLine, hscope])
      rw [Option.isNone_iff_eq_none.mp hnone] at hsome
      cases hsome
  | leave frame number value => rfl

theorem isSome_noticeEvent (h : event.isModuleLine = true ∨ s.preexisting.isSome = true) :
    (noticeEvent event s).preexisting.isSome = true := by
  cases event with
  | line frame number =>
      unfold noticeEvent notice
      dsimp only
      split
      · rfl
      · next hfirst =>
          rcases h with hline | hsome
          · have hscope : frame.scope = .module := by simpa [Event.isModuleLine] using hline
            simpa [hscope, Option.isSome_iff_ne_none] using hfirst
          · exact hsome
  | leave frame number value => simpa [noticeEvent, Event.isModuleLine] using h

theorem approach_preexisting (t : Tracer) (event : Event Frame) (s : State) :
    (t.approach event s).preexisting = (noticeEvent event s).preexisting := by
  cases event with
  | line frame number =>
      obtain ⟨loops, log, heq⟩ := t.endLeft_frame frame.id
        (Event.lineIndex (.line frame number)) (notice frame s)
      rw [approach, heq]
      rfl
  | leave frame number value => rfl

theorem carryOut_preexisting (t : Tracer) (event : Event Frame) (s : State) :
    (t.carryOut event s).preexisting = s.preexisting := by
  obtain ⟨loops, log, latest, heq⟩ := t.carryOut_frame event s
  rw [heq]

/-- Behind a visit to a line outside of all functions nothing is noticed. -/
theorem hasNoticed_step (t : Tracer) (h : event.isModuleLine = true ∨ HasNoticed s) :
    HasNoticed (t.step s event).1 := by
  cases hhalted : s.halted with
  | true =>
      rw [step_of_halted t hhalted]
      exact .inr hhalted
  | false =>
      have hsome : (noticeEvent event s).preexisting.isSome = true := by
        refine isSome_noticeEvent (h.imp_right fun hnoticed => hnoticed.resolve_right ?_)
        simp [hhalted]
      refine .inl ?_
      cases hsees : t.sees event with
      | false => rwa [step_unseen hhalted hsees]
      | true =>
          by_cases hlimit : s.time < t.settings.maxSteps
          · rwa [step_below hhalted hsees hlimit, carryOut_preexisting, approach_preexisting]
          · rw [step_beyond hhalted hsees (Nat.not_lt.mp hlimit)]
            rwa [← t.approach_preexisting] at hsome

/-- An event that is not seen changes nothing, unless there is something to
notice. -/
theorem step_eq_of_unseen (hsees : t.sees event = false)
    (hnoticed : event.isModuleLine = true → HasNoticed s) : (t.step s event).1 = s := by
  cases hhalted : s.halted with
  | true => rw [step_of_halted t hhalted]
  | false =>
      rw [step_unseen hhalted hsees]
      refine noticeEvent_eq fun hline => (hnoticed hline).resolve_right ?_
      simp [hhalted]

/-! ## Runs of relevant events -/

/-- A run and its answers are those of the relevant events, from any state that
has noticed what it is taken to have noticed. -/
theorem relevant_of_hasNoticed (t : Tracer) (events : List (Event Frame)) {s : State}
    {noticed : Bool} (h : noticed = true → HasNoticed s) :
    t.run s (t.relevant id noticed events) = t.run s events ∧
      (t.relevant id noticed events).zip (t.answers s (t.relevant id noticed events)) =
        t.relevant Prod.fst noticed (events.zip (t.answers s events)) := by
  induction events generalizing s noticed with
  | nil => exact ⟨rfl, rfl⟩
  | cons event rest ih =>
      have hcons : t.run s (event :: rest) = t.run (t.step s event).1 rest := rfl
      rw [hcons, answers, List.zip_cons_cons, relevant, relevant]
      dsimp only [id_eq]
      split
      · next hrelevant =>
          have hnoticed : (noticed || !noticed && event.isModuleLine) = true →
              HasNoticed (t.step s event).1 := by
            intro hbefore
            refine t.hasNoticed_step ?_
            cases noticed with
            | true => exact .inr (h rfl)
            | false => exact .inl hbefore
          obtain ⟨hrun, hanswers⟩ := ih hnoticed
          refine ⟨hrun, ?_⟩
          rw [answers, List.zip_cons_cons, hanswers]
      · next hrelevant =>
          obtain ⟨hfirst, hsees⟩ : (!noticed && event.isModuleLine) = false ∧
              t.sees event = false := by simpa using hrelevant
          have hsame : (t.step s event).1 = s := by
            refine step_eq_of_unseen hsees fun hline => h ?_
            simpa [hline] using hfirst
          rw [hsame]
          exact ih h

/-- Events of comprehensions and of other code may be left out, but for the first
visit to a line outside of all functions. The tracer comes to the same state, and
it gives the same answers to all other events. -/
theorem run_relevant (t : Tracer) (events : List (Event Frame)) :
    t.run .start (t.relevant id false events) = t.run .start events ∧
      (t.relevant id false events).zip (t.answers .start (t.relevant id false events)) =
        t.relevant Prod.fst false (events.zip (t.answers .start events)) :=
  t.relevant_of_hasNoticed events (by simp)

/-- The exception is needed: without the preamble of its host, a program would be
taken to have had its own variable from the beginning. -/
example :
    let t : Tracer := ⟨.ofText "x = 1\n".toList, .standard, .standard⟩
    let preamble : Event Frame := .line ⟨1, "<module>", "<preamble>", [("x", .none)]⟩ 1
    let program : Event Frame := .line ⟨2, "<module>", "<string>", [("y", .none)]⟩ 1
    (t.run .start [preamble, program]).log.toText ≠ (t.run .start [program]).log.toText := by
  decide +kernel

end Tracer

end Stepwise.Trace
