import Mathlib.Data.List.Induction
import Stepwise.Proofs.AppendOnly

/-!
# The numbers of a trace

A trace is written with numbers of 64 bits: the time of a step and the lines of
its place and of its neighbours' places. Lines come from events, whose lines
have 64 bits, and the time stays below the limit of the tracer. The places of
neighbours are places of other steps, which the chain of steps knows.

## Main results

* `isSized_run`: after any events all numbers of the trace have 64 bits.
-/

namespace Stepwise.Trace

open Stepwise.Run

/-- Whether a number has 64 bits. -/
def IsSized (n : Nat) : Prop := n < Nat.pow 2 64

instance (n : Nat) : Decidable (IsSized n) := inferInstanceAs (Decidable (n < Nat.pow 2 64))

/-- Whether the numbers of a step have 64 bits. -/
structure Step.IsSized (step : Step) : Prop where
  time : Trace.IsSized step.time
  key : Trace.IsSized step.key.lineNumber
  previous : ∀ key ∈ step.previous, Trace.IsSized key.lineNumber
  next : ∀ key ∈ step.next, Trace.IsSized key.lineNumber

/-- Whether the numbers of all steps have 64 bits. -/
def Log.IsSized (log : Log) : Prop :=
  ∀ bucket ∈ log.buckets.entries, ∀ step, .step step ∈ bucket.2 → step.IsSized

/-- The neighbours of a step in a chain are steps of the chain, but for the one
behind all of them. -/
theorem IsChain.neighbours {next : Option Key} {steps : List Step} (h : IsChain next steps)
    {step : Step} (hstep : step ∈ steps) :
    (∀ key ∈ step.previous, key ∈ steps.map Step.key) ∧
      ∀ key ∈ step.next, key ∈ next ∨ key ∈ steps.map Step.key := by
  induction steps generalizing next with
  | nil => simp at hstep
  | cons last earlier ih =>
      obtain ⟨⟨-, hprevious, hnext⟩, hearlier⟩ := h
      rcases List.mem_cons.mp hstep with rfl | hmem
      · refine ⟨?_, ?_⟩
        · intro key hkey
          rw [hprevious] at hkey
          obtain ⟨before, hbefore, rfl⟩ := Option.mem_map.mp hkey
          have hold := List.mem_of_mem_head? hbefore
          exact List.mem_cons_of_mem _ (List.mem_map_of_mem hold)
        · intro key hkey
          exact .inl (hnext ▸ hkey)
      · obtain ⟨hbefore, hbehind⟩ := ih hearlier hmem
        refine ⟨?_, ?_⟩
        · intro key hkey
          exact List.mem_cons_of_mem _ (hbefore key hkey)
        · intro key hkey
          rcases hbehind key hkey with hlast | hother
          · obtain rfl := Option.some.inj hlast
            exact .inr List.mem_cons_self
          · exact .inr (List.mem_cons_of_mem _ hother)

namespace Log

/-- A place that has a step had one before, or is the place of the new step. -/
theorem Grows.stepsAt_ne_nil {latest new : Option Step} {log log' : Log}
    (h : Grows latest log log' new) {key : Key} (hne : log'.stepsAt key ≠ []) :
    log.stepsAt key ≠ [] ∨ ∃ step ∈ new, step.key = key := by
  obtain ⟨kept, added, hat, hkept, hadded⟩ := h.records key
  rw [stepsAt, hat, List.filterMap_append, hadded] at hne
  by_cases hold : log.stepsAt key = []
  · rw [filterMap_of_keeps hkept hold, List.nil_append] at hne
    cases new with
    | none => exact absurd rfl hne
    | some step =>
        refine .inr ⟨step, rfl, ?_⟩
        by_contra hkey
        simp [hkey] at hne
  · exact .inl hold

end Log

namespace Tracer

variable {t : Tracer} {steps : List Step} {s : State}

theorem place_isSized (event : Event Frame) : IsSized (place event).lineNumber := by
  cases event with
  | line frame number =>
      have hsize := number.toNat_lt
      show number.toNat - 1 < 2 ^ 64
      omega
  | leave frame number value =>
      have hsize := number.toNat_lt
      show number.toNat - 1 < 2 ^ 64
      omega

/-- Steps are only ever recorded at lines of 64 bits. -/
theorem lineNumber_isSized (t : Tracer) (events : List (Event Frame)) {key : Key}
    (hne : (t.run .start events).log.stepsAt key ≠ []) : IsSized key.lineNumber := by
  induction events using List.reverseRecOn with
  | nil => exact absurd rfl hne
  | append_singleton events event ih =>
      obtain ⟨steps, hchained⟩ := t.run_chained events
      obtain ⟨new, hgrows, -, hnew⟩ := hchained.step_grows (t := t) event
      rw [run_append_singleton] at hne
      -- A place gets its first step from an event at that place.
      rcases hgrows.stepsAt_ne_nil hne with hold | ⟨step, hstep, rfl⟩
      · exact ih hold
      · rw [(hnew step hstep).key_eq]
        exact place_isSized event

/-- No step is recorded at or beyond the limit. -/
theorem time_le_maxSteps (t : Tracer) (events : List (Event Frame)) :
    (t.run .start events).time ≤ t.settings.maxSteps := by
  refine t.run_induction (P := fun s => s.time ≤ t.settings.maxSteps) (Nat.zero_le _) ?_ events
  intro s s' hmove hs
  cases hmove with
  | record frame key returned hlimit _ => exact hlimit
  | notice names => exact hs
  | halt => exact hs
  | count hloops => exact hs
  | begin_ context line _ _ => exact hs
  | end_ hloops => exact hs

/-- All numbers of a trace have 64 bits, if the limit of the tracer has. -/
theorem isSized_run (t : Tracer) (hlimit : IsSized t.settings.maxSteps)
    (events : List (Event Frame)) : (t.run .start events).log.IsSized := by
  obtain ⟨steps, hchained⟩ := t.run_chained events
  have hline : ∀ step ∈ steps, IsSized step.key.lineNumber := by
    intro step hstep
    have hplace := hchained.mem_stepsAt.mpr ⟨hstep, rfl⟩
    exact t.lineNumber_isSized events (List.ne_nil_of_mem hplace)
  have hlines : ∀ key ∈ steps.map Step.key, IsSized key.lineNumber := by
    intro key hkey
    obtain ⟨step, hstep, rfl⟩ := List.mem_map.mp hkey
    exact hline step hstep
  intro bucket hbucket step hrecord
  have hstep : step ∈ steps := by
    have hlookup := Ordered.lookupEntries_of_mem (t.run .start events).log.buckets.nodup hbucket
    have hat : (t.run .start events).log.at_ bucket.1 = bucket.2 := by
      rw [Log.at_, Ordered.lookup, hlookup]
      rfl
    have hplace : step ∈ (t.run .start events).log.stepsAt bucket.1 :=
      List.mem_filterMap.mpr ⟨_, hat ▸ hrecord, rfl⟩
    exact (hchained.mem_stepsAt.mp hplace).1
  obtain ⟨hprevious, hnext⟩ := hchained.chain.neighbours hstep
  refine ⟨?_, hline step hstep, ?_, ?_⟩
  · have htime := hchained.chain.time_lt step hstep
    have hcount := hchained.time_eq
    have hbound := t.time_le_maxSteps events
    unfold IsSized at hlimit ⊢
    omega
  · intro key hkey
    exact hlines key (hprevious key hkey)
  · intro key hkey
    rcases hnext key hkey with hnone | hother
    · cases hnone
    · exact hlines key hother

end Tracer

end Stepwise.Trace
