import Mathlib.Data.List.Induction
import Stepwise.Proofs.Moves

/-!
# Active loops with the same header

Whether a visit to a loop header begins the loop or its next iteration is
decided by the innermost active loop alone. A call that is suspended inside a
loop leaves that loop on the stack, on top of those of its caller. When the
caller comes back to the header of its own loop, that loop is buried, and the
visit begins it once more.

A visit to the header of a buried loop is the only way in which a loop comes
to be active twice. Up to the first such visit all active loops are distinct.

## Main results

* `isDistinct_run_iff`: when the active loops are distinct all along a run.
* `not_forall_isDistinct`: they are not always.
-/

namespace Stepwise.Trace

open Stepwise.Run

/-- What tells active loops apart: the call and the header. -/
def Loop.place (l : Loop) : UInt64 × Nat := (l.context, l.header)

/-- Whether all active loops are distinct. -/
def State.IsDistinct (s : State) : Prop := (s.loops.map Loop.place).Nodup

instance (s : State) : Decidable s.IsDistinct :=
  inferInstanceAs (Decidable (List.Nodup _))

namespace Tracer

variable (t : Tracer)

/-- Whether an event is a visit to the header of an active loop that is not the
innermost one, once the loops that control has left have ended. -/
def VisitsBuried (s : State) (event : Event Frame) : Prop :=
  ∃ frame number, event = .line frame number ∧ s.halted = false ∧ t.ignores frame = false ∧
    s.time < t.settings.maxSteps ∧ t.source.isHeader event.lineIndex = true ∧
    ∃ top outer, (t.endLeft frame.id event.lineIndex s).loops = top :: outer ∧
      top.place ≠ (frame.id, event.lineIndex) ∧
      (frame.id, event.lineIndex) ∈ outer.map Loop.place

/-- Below an active loop none is the same. -/
private theorem isDistinct_of_suffix {s : State} {loops : List Loop} (h : s.IsDistinct)
    (hsuffix : loops <:+ s.loops) : (loops.map Loop.place).Nodup :=
  h.sublist (hsuffix.map Loop.place).sublist

/-- Entering a line makes an active loop appear twice exactly if that loop is
buried. -/
theorem isDistinct_enter_iff {s : State} (h : s.IsDistinct) (context : UInt64) (line : Nat) :
    (t.enter context line s).IsDistinct ↔
      ¬ (t.source.isHeader line = true ∧ ∃ top outer, s.loops = top :: outer ∧
        top.place ≠ (context, line) ∧ (context, line) ∈ outer.map Loop.place) := by
  rcases t.enter_cases context line s with ⟨hheader, heq⟩ |
    ⟨hheader, top, outer, hloops, hcontext, hline, heq⟩ | ⟨hheader, hnew, heq⟩
  · rw [heq]
    simp [h, hheader]
  · have hsame : ({ s with loops := top.counted :: outer } : State).IsDistinct := by
      simpa [State.IsDistinct, hloops, Loop.counted, Loop.place] using h
    rw [heq, hloops]
    refine iff_of_true hsame ?_
    rintro ⟨-, top', outer', hcons, hne, -⟩
    obtain rfl : top = top' := (List.cons.inj hcons).1
    exact hne (by rw [Loop.place, hcontext, hline])
  · rw [heq]
    have hpush : (t.beginLoop context line s).IsDistinct ↔
        (context, line) ∉ s.loops.map Loop.place := by
      change (((context, line) :: s.loops.map Loop.place).Nodup) ↔ _
      rw [List.nodup_cons]
      exact and_iff_left h
    rw [hpush, not_iff_not]
    cases hloops : s.loops with
    | nil => simp
    | cons top outer =>
        have htop : top.place ≠ (context, line) := by
          intro hplace
          obtain ⟨hcontext, hline⟩ := Prod.mk.inj hplace
          exact hnew top (by simp [hloops]) ⟨hcontext, hline⟩
        constructor
        · intro hmem
          rw [List.map_cons, List.mem_cons] at hmem
          exact ⟨hheader, top, outer, rfl, htop, hmem.resolve_left (Ne.symm htop)⟩
        · rintro ⟨-, top', outer', hcons, -, hmem⟩
          obtain ⟨rfl, rfl⟩ := List.cons.inj hcons
          exact List.mem_cons_of_mem _ hmem

/-- An event makes an active loop appear twice exactly if it visits the header
of a buried one. -/
theorem isDistinct_step_iff {s : State} (h : s.IsDistinct) (event : Event Frame) :
    (t.step s event).1.IsDistinct ↔ ¬ t.VisitsBuried s event := by
  have houtcome := t.step_outcome s event
  generalize (t.step s event).1 = s' at houtcome ⊢
  cases houtcome with
  | halted event hhalted =>
      refine iff_of_true h ?_
      rintro ⟨frame, number, -, hgoes, -⟩
      simp [hhalted] at hgoes
  | unseenLine frame number _ hignores =>
      refine iff_of_true (by rwa [State.IsDistinct, notice_loops]) ?_
      rintro ⟨frame', number', heq, -, hsees, -⟩
      obtain ⟨rfl, rfl⟩ := Event.line.inj heq
      simp [hignores] at hsees
  | unseenLeave frame number value _ _ =>
      refine iff_of_true h ?_
      rintro ⟨frame', number', heq, -⟩
      cases heq
  | lastLine frame number _ _ hlimit =>
      have hsuffix := t.endLeft_suffix frame.id (number.toNat - 1) (notice frame s)
      rw [notice_loops] at hsuffix
      refine iff_of_true (isDistinct_of_suffix h hsuffix) ?_
      rintro ⟨frame', number', heq, -, -, hbelow, -⟩
      rw [endLeft_time, notice_time] at hlimit
      exact hlimit hbelow
  | lastLeave frame number value _ _ _ =>
      refine iff_of_true h ?_
      rintro ⟨frame', number', heq, -⟩
      cases heq
  | line frame number hhalted hignores hlimit =>
      rw [endLeft_time, notice_time] at hlimit
      have hsuffix := t.endLeft_suffix frame.id (number.toNat - 1) (notice frame s)
      rw [notice_loops] at hsuffix
      have hleft := t.endLeft_loops_congr frame.id (number.toNat - 1) (notice_loops frame s)
        (notice_latest frame s)
      have hrecord : (t.record frame (.line (number.toNat - 1)) none
          (t.endLeft frame.id (number.toNat - 1) (notice frame s))).IsDistinct :=
        isDistinct_of_suffix h hsuffix
      rw [t.isDistinct_enter_iff hrecord, not_iff_not]
      change (_ ∧ ∃ top outer, (t.endLeft frame.id (number.toNat - 1) (notice frame s)).loops =
        top :: outer ∧ _) ↔ _
      rw [hleft]
      constructor
      · rintro ⟨hheader, hburied⟩
        exact ⟨frame, number, rfl, hhalted, hignores, hlimit, hheader, hburied⟩
      · rintro ⟨frame', number', heq, -, -, -, hheader, hburied⟩
        obtain ⟨rfl, rfl⟩ := Event.line.inj heq
        exact ⟨hheader, hburied⟩
  | suspend frame number value _ _ _ _ =>
      refine iff_of_true (isDistinct_of_suffix h (t.endLeft_suffix frame.id _
        (t.record frame (.leave (number.toNat - 1)) _ s))) ?_
      rintro ⟨frame', number', heq, -⟩
      cases heq
  | leave frame number value _ _ _ _ =>
      have hsuffix := t.endLeft_suffix frame.id (number.toNat - 1)
        (t.record frame (.leave (number.toNat - 1)) (t.format.show? value) s)
      refine iff_of_true ?_ ?_
      · rw [State.IsDistinct, endAll_loops]
        exact isDistinct_of_suffix h ((List.dropWhile_suffix _).trans hsuffix)
      · rintro ⟨frame', number', heq, -⟩
        cases heq

/-- The active loops are distinct all along a run exactly if no event of the
run visits the header of a buried loop. -/
theorem isDistinct_run_iff (t : Tracer) (events : List (Event Frame)) :
    (∀ earlier, earlier <+: events → (t.run .start earlier).IsDistinct) ↔
      ∀ earlier event, earlier ++ [event] <+: events →
        ¬ t.VisitsBuried (t.run .start earlier) event := by
  constructor
  · intro h earlier event hstarts
    have hbefore := h earlier ((List.prefix_append _ _).trans hstarts)
    have hafter := h (earlier ++ [event]) hstarts
    rw [run_append_singleton] at hafter
    exact (t.isDistinct_step_iff hbefore event).mp hafter
  · intro h earlier
    induction earlier using List.reverseRecOn with
    | nil =>
        intro _
        exact List.nodup_nil
    | append_singleton earlier event ih =>
        intro hstarts
        have hbefore := ih ((List.prefix_append _ _).trans hstarts)
        rw [run_append_singleton]
        exact (t.isDistinct_step_iff hbefore event).mpr (h earlier event hstarts)

/-- A loop over a generator that loops itself. -/
def consumer : Tracer :=
  ⟨.ofText ("def count():\n    for i in range(2):\n        yield i\n" ++
    "for x in count():\n    y = x\n").toList, .standard, .standard⟩

/-- One iteration of the outer loop, up to the second visit to its header. -/
def consumerEvents : List (Event Frame) :=
  let program : Frame := ⟨1, "<module>", "<string>", []⟩
  let call : Frame := ⟨2, "count", "<string>", []⟩
  [.line program 4, .line call 2, .line call 3, .leave call 3 .none, .line program 5,
    .line program 4]

/-- Active loops need not be distinct: at the second visit to its header the
outer loop is below that of the suspended generator. -/
theorem not_forall_isDistinct :
    ¬ ∀ (t : Tracer) (events : List (Event Frame)), (t.run .start events).IsDistinct := by
  intro h
  have hconsumer : ¬ (consumer.run .start consumerEvents).IsDistinct := by decide +kernel
  exact hconsumer (h consumer consumerEvents)

end Tracer

end Stepwise.Trace
