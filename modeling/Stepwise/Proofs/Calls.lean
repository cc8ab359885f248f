import Stepwise.Proofs.Nesting

/-!
# Calls and the loops of their callers

A call may leave loops at any line, and calls that it makes may run loops with
the very same headers. The tracer sees one stack for all of them. What it takes
off that stack for an event are loops of the call that the event belongs to,
and what it puts there is on top. So the loops that were active when a call
began stay where they are, unchanged, as long as no event in between belongs to
one of them.

The induction is over the tree of calls. Its invariant is `Above`: the stack is
that of the beginning of a call with loops of the call on top.

## Main results

* `endLeft_ends`, `endAll_ends`: a call ends loops of its own only, and the
  innermost ones.
* `loops_calls`: a call that is complete leaves the active loops as they were,
  and all loops of a run that consists of such calls come to their end.
-/

namespace Stepwise.Run

/-- Whether two frames show the same call. They can differ in the values of its
variables. -/
def Frame.IsSameCall (frame other : Frame) : Prop :=
  frame.id = other.id ∧ frame.name = other.name ∧ frame.origin = other.origin

instance (frame other : Frame) : Decidable (frame.IsSameCall other) :=
  inferInstanceAs (Decidable (_ ∧ _))

end Stepwise.Run

namespace Stepwise.Trace

open Stepwise.Run

/-! ## Trees of calls -/

mutual

/-- A call from its first event to its return. -/
inductive Call where
  /-- A call that does something and then returns a value from a line. -/
  | mk (body : Body) (frame : Frame) (number : UInt64) (value : Value)

/-- What a call does before it returns. -/
inductive Body where
  | done
  /-- A visit to a line of the call itself. -/
  | visit (frame : Frame) (number : UInt64) (rest : Body)
  /-- A call that is made and that returns before the next event. -/
  | call (callee : Call) (rest : Body)

end

mutual

/-- The events of a call. -/
def Call.events : Call → List (Event Frame)
  | .mk body frame number value => body.events ++ [.leave frame number value]

/-- The events of a call before its return. -/
def Body.events : Body → List (Event Frame)
  | .done => []
  | .visit frame number rest => .line frame number :: rest.events
  | .call callee rest => callee.events ++ rest.events

end

/-- Whether a return from a line would be taken for a suspension of the call. -/
def Tracer.Suspends (t : Tracer) (frame : Frame) (number : UInt64) : Prop :=
  t.ignores frame = false ∧ Source.isSuspension (t.source.text (number.toNat - 1)) = true

instance (t : Tracer) (frame : Frame) (number : UInt64) : Decidable (t.Suspends frame number) :=
  inferInstanceAs (Decidable (_ ∧ _))

mutual

/-- Whether a call is none of those that are busy and returns for good, and so
do the calls that it makes, down to any depth, while it is busy itself. -/
def Call.IsComplete (t : Tracer) (busy : List UInt64) : Call → Prop
  | .mk body frame number _ =>
      (frame.id ∉ busy ∧ ¬ t.Suspends frame number) ∧ body.IsOf t (frame.id :: busy) frame

/-- Whether something is done by the call that a frame shows. -/
def Body.IsOf (t : Tracer) (busy : List UInt64) (frame : Frame) : Body → Prop
  | .done => True
  | .visit shown _ rest => shown.IsSameCall frame ∧ rest.IsOf t busy frame
  | .call callee rest => callee.IsComplete t busy ∧ rest.IsOf t busy frame

end

mutual

/-- Whether a call is complete can be computed. -/
def Call.decideIsComplete (t : Tracer) (busy : List UInt64) :
    (call : Call) → Decidable (call.IsComplete t busy)
  | .mk body frame _ _ =>
      have := body.decideIsOf t (frame.id :: busy) frame
      inferInstanceAs (Decidable (_ ∧ _))

/-- Whether something is done by a certain call can be computed. -/
def Body.decideIsOf (t : Tracer) (busy : List UInt64) (frame : Frame) :
    (body : Body) → Decidable (body.IsOf t busy frame)
  | .done => .isTrue trivial
  | .visit _ _ rest =>
      have := rest.decideIsOf t busy frame
      inferInstanceAs (Decidable (_ ∧ _))
  | .call callee rest =>
      have := callee.decideIsComplete t busy
      have := rest.decideIsOf t busy frame
      inferInstanceAs (Decidable (_ ∧ _))

end

instance (t : Tracer) (busy : List UInt64) (call : Call) : Decidable (call.IsComplete t busy) :=
  call.decideIsComplete t busy

namespace Tracer

variable (t : Tracer) {context : UInt64} {frame : Frame} {busy : List UInt64}
  {base loops : List Loop} {s : State}

theorem ignores_congr {other : Frame} (h : frame.IsSameCall other) :
    t.ignores frame = t.ignores other := by
  obtain ⟨-, hname, horigin⟩ := h
  unfold ignores Frame.scope
  rw [hname, horigin]

/-! ## Which loops a call ends -/

/-- Whether a stack has become another one by ending loops of one call. -/
def Ends (context : UInt64) (before after : List Loop) : Prop :=
  ∃ ended, before = ended ++ after ∧ ∀ l ∈ ended, l.context = context

theorem Ends.refl (context : UInt64) (loops : List Loop) : Ends context loops loops :=
  ⟨[], rfl, by simp⟩

theorem Ends.cons {top : Loop} (h : top.context = context) (outer : List Loop) :
    Ends context (top :: outer) outer :=
  ⟨[top], rfl, by simpa using h⟩

theorem endAll_ends (counted : Bool) (context : UInt64) (s : State) :
    Ends context s.loops (t.endAll counted context s).loops := by
  rw [endAll_loops]
  refine ⟨s.loops.takeWhile fun l => l.context == context, ?_, ?_⟩
  · exact List.takeWhile_append_dropWhile.symm
  · intro l hl
    simpa using List.all_eq_true.mp List.all_takeWhile l hl

theorem endLeft_ends (context : UInt64) (line : Nat) (s : State) :
    Ends context s.loops (t.endLeft context line s).loops := by
  unfold endLeft
  split
  · next top outer latest hloops _ =>
      dsimp only
      split
      · exact .refl context _
      · next hcontext =>
          rw [Decidable.not_not] at hcontext
          split
          · exact t.endAll_ends true context s
          · split
            · rw [hloops]
              exact .cons hcontext outer
            · exact .refl context _
  · exact .refl context _

/-! ## Loops above those of the callers -/

/-- Whether a stack is that of the beginning of a call, with loops of the call
on top. A call that is not recorded has none. -/
def Above (frame : Frame) (base loops : List Loop) : Prop :=
  ∃ own, loops = own ++ base ∧ ∀ l ∈ own, l.context = frame.id ∧ t.ignores frame = false

variable {t}

theorem Above.refl (frame : Frame) (base : List Loop) : t.Above frame base base :=
  ⟨[], rfl, by simp⟩

/-- A call ends nothing below the loops that it has begun. -/
theorem Above.ends (h : t.Above frame base loops) (hbase : ∀ l ∈ base, l.context ≠ frame.id)
    {after : List Loop} (hends : Ends frame.id loops after) : t.Above frame base after := by
  obtain ⟨own, rfl, hown⟩ := h
  obtain ⟨ended, hloops, hended⟩ := hends
  rcases List.append_eq_append_iff.mp hloops with ⟨lost, rfl, hlost⟩ | ⟨kept, rfl, rfl⟩
  · cases lost with
    | nil =>
        rw [List.nil_append] at hlost
        exact hlost ▸ .refl frame base
    | cons l lost =>
        have hl : l.context = frame.id := hended l (by simp)
        exact absurd hl (hbase l (by simp [hlost]))
  · exact ⟨kept, rfl, fun l hl => hown l (by simp [hl])⟩

/-- Once a call has returned, the loops of its callers are left. -/
theorem Above.endAll (h : t.Above frame base s.loops)
    (hbase : ∀ l ∈ base, l.context ≠ frame.id) (counted : Bool) :
    (t.endAll counted frame.id s).loops = base := by
  obtain ⟨own, hloops, hown⟩ := h
  have hmine : ∀ l ∈ own, (l.context == frame.id) = true :=
    fun l hl => by simpa using (hown l hl).1
  rw [endAll_loops, hloops, List.dropWhile_append_of_pos hmine]
  cases base with
  | nil => rfl
  | cons top outer =>
      have htop : top.context ≠ frame.id := hbase top (by simp)
      exact List.dropWhile_cons_of_neg (by simpa using htop)

/-- A loop that begins is on top, and so is one that is counted. -/
theorem Above.enter (h : t.Above frame base s.loops)
    (hbase : ∀ l ∈ base, l.context ≠ frame.id) (hignores : t.ignores frame = false)
    (line : Nat) : t.Above frame base (t.enter frame.id line s).loops := by
  obtain ⟨own, hown⟩ := h
  rcases t.enter_cases frame.id line s with ⟨-, heq⟩ |
    ⟨-, top, outer, hloops, hcontext, -, heq⟩ | ⟨-, -, heq⟩
  · rw [heq]
    exact ⟨own, hown⟩
  · rw [heq]
    rw [hloops] at hown
    cases own with
    | nil =>
        obtain rfl : top :: outer = base := hown.1
        exact absurd hcontext (hbase top (by simp))
    | cons l own =>
        obtain ⟨hcons, hown⟩ := hown
        obtain ⟨rfl, rfl⟩ := List.cons.inj hcons
        exact ⟨top.counted :: own, rfl, List.forall_mem_cons.mpr
          ⟨hown top (by simp), fun l hl => hown l (by simp [hl])⟩⟩
  · rw [heq]
    exact ⟨⟨frame.id, line, 0⟩ :: own, congrArg _ hown.1,
      List.forall_mem_cons.mpr ⟨⟨rfl, hignores⟩, hown.2⟩⟩

/-- A visit to a line of a call leaves the loops of its callers alone. -/
theorem Above.visit {shown : Frame} (h : t.Above frame base s.loops)
    (hbase : ∀ l ∈ base, l.context ≠ frame.id) (hshown : shown.IsSameCall frame)
    (number : UInt64) : t.Above frame base (t.step s (.line shown number)).1.loops := by
  have hid : shown.id = frame.id := hshown.1
  have hsame := t.ignores_congr hshown
  have hleft : t.Above frame base
      (t.endLeft shown.id (number.toNat - 1) (notice shown s)).loops := by
    have hends := t.endLeft_ends frame.id (number.toNat - 1) (notice shown s)
    rw [notice_loops] at hends
    exact hid ▸ h.ends hbase hends
  have houtcome := t.step_outcome s (.line shown number)
  generalize (t.step s (.line shown number)).1 = s' at houtcome ⊢
  cases houtcome with
  | halted _ _ => exact h
  | unseenLine _ _ _ _ => rwa [notice_loops]
  | lastLine _ _ _ _ _ => exact hleft
  | line _ _ _ hignores _ =>
      have hrecorded : t.Above frame base (t.record shown (.line (number.toNat - 1)) none
          (t.endLeft shown.id (number.toNat - 1) (notice shown s))).loops := hleft
      rw [hid] at hrecorded ⊢
      exact hrecorded.enter hbase (hsame ▸ hignores) _

/-- A call that returns for good leaves the loops of its callers. -/
theorem Above.leave (h : t.Above frame base s.loops)
    (hbase : ∀ l ∈ base, l.context ≠ frame.id) {number : UInt64}
    (hsuspends : ¬ t.Suspends frame number) {value : Value}
    (hgoesOn : (t.step s (.leave frame number value)).1.halted = false) :
    (t.step s (.leave frame number value)).1.loops = base := by
  have houtcome := t.step_outcome s (.leave frame number value)
  generalize (t.step s (.leave frame number value)).1 = s' at houtcome hgoesOn ⊢
  cases houtcome with
  | halted _ hhalted => simp [hhalted] at hgoesOn
  | unseenLeave _ _ _ _ hignores =>
      obtain ⟨own, hloops, hown⟩ := h
      cases own with
      | nil => exact hloops
      | cons l own => simpa [hignores] using hown l (by simp)
  | lastLeave _ _ _ _ _ _ => simp at hgoesOn
  | suspend _ _ _ _ hignores _ hline => exact absurd ⟨hignores, hline⟩ hsuspends
  | leave _ _ _ _ _ _ _ =>
      have hleft := t.endLeft_ends frame.id (number.toNat - 1)
        (t.record frame (.leave (number.toNat - 1)) (t.format.show? value) s)
      exact (h.ends hbase hleft).endAll hbase false

/-! ## Trees of calls leave loops alone -/

theorem run_of_halted (h : s.halted = true) (events : List (Event Frame)) :
    t.run s events = s := by
  induction events with
  | nil => rfl
  | cons event rest ih =>
      rw [run, List.foldl_cons, step_of_halted t h event]
      exact ih

/-- A tracer that goes on behind some events was going on in front of them. -/
theorem goesOn_of_run {events : List (Event Frame)}
    (h : (t.run s events).halted = false) : s.halted = false := by
  cases hhalted : s.halted with
  | false => rfl
  | true =>
      rw [run_of_halted hhalted] at h
      rw [h] at hhalted
      cases hhalted

mutual

/-- A complete call leaves the active loops as they were. -/
theorem loops_call (call : Call) {s : State} {busy : List UInt64}
    (hcomplete : call.IsComplete t busy) (hbusy : ∀ l ∈ s.loops, l.context ∈ busy)
    (hgoesOn : (t.run s call.events).halted = false) :
    (t.run s call.events).loops = s.loops := by
  cases call with
  | mk body frame number value =>
      obtain ⟨⟨hfresh, hsuspends⟩, hbody⟩ := hcomplete
      rw [Call.events, run_append_singleton] at hgoesOn ⊢
      have hbase : ∀ l ∈ s.loops, l.context ≠ frame.id :=
        fun l hl heq => hfresh (heq ▸ hbusy l hl)
      have hreturns : (t.run (t.run s body.events) [.leave frame number value]).halted = false :=
        hgoesOn
      have habove := above_body body hbody hbusy hbase (.refl frame s.loops)
        (goesOn_of_run hreturns)
      exact habove.leave hbase hsuspends hgoesOn

/-- Whatever a call does, the loops of its callers stay below its own. -/
theorem above_body (body : Body) {s : State} {busy : List UInt64} {frame : Frame}
    {base : List Loop} (hof : body.IsOf t (frame.id :: busy) frame)
    (hbusy : ∀ l ∈ base, l.context ∈ busy) (hbase : ∀ l ∈ base, l.context ≠ frame.id)
    (habove : t.Above frame base s.loops)
    (hgoesOn : (t.run s body.events).halted = false) :
    t.Above frame base (t.run s body.events).loops := by
  cases body with
  | done => exact habove
  | visit shown number rest =>
      obtain ⟨hshown, hrest⟩ := hof
      exact above_body rest hrest hbusy hbase (habove.visit hbase hshown number) hgoesOn
  | call callee rest =>
      obtain ⟨hcallee, hrest⟩ := hof
      rw [Body.events, run_append] at hgoesOn ⊢
      have hbusy' : ∀ l ∈ s.loops, l.context ∈ frame.id :: busy := by
        obtain ⟨own, hloops, hown⟩ := habove
        intro l hl
        rw [hloops] at hl
        rcases List.mem_append.mp hl with hmine | hbelow
        · exact List.mem_cons.mpr (.inl (hown l hmine).1)
        · exact List.mem_cons_of_mem _ (hbusy l hbelow)
      have hsame := loops_call callee hcallee hbusy' (goesOn_of_run hgoesOn)
      exact above_body rest hrest hbusy hbase (hsame ▸ habove) hgoesOn

end

/-- Steps open nothing. -/
theorem isClosed_of_steps {trail : List Entry}
    (h : ∀ entry ∈ trail, (entry.stepLoops?).isSome) : IsClosed trail := by
  induction trail with
  | nil => exact .nil
  | cons entry rest ih =>
      obtain ⟨hentry, hrest⟩ := List.forall_mem_cons.mp h
      cases entry with
      | step time loops => exact ih hrest
      | beginLoop loops => simp [Entry.stepLoops?] at hentry
      | endLoop loops => simp [Entry.stepLoops?] at hentry

/-- If no loop is active after a run, every loop of the run has ended. -/
theorem isClosed_of_loops_eq_nil (t : Tracer) {events : List (Event Frame)}
    (h : (t.run .start events).loops = []) (key : Key) :
    IsClosed ((t.run .start events).log.trail key) := by
  cases key with
  | line n =>
      have hnested : t.Nested n (t.run .start events) :=
        t.run_induction t.nested_start (fun _ _ hmove hs => hs.move hmove) events
      have hopen := hnested.1.openMarks_eq
      rw [h] at hopen
      exact hopen
  | leave n =>
      have hunmarked : Unmarked n (t.run .start events) :=
        t.run_induction (by simp [Unmarked, State.start, Log.trail, Log.at_, Log.empty,
          Ordered.lookup, Ordered.empty, Ordered.lookupEntries])
          (fun _ _ hmove hs => t.unmarked_move hmove hs) events
      exact isClosed_of_steps hunmarked

/-- Calls that are complete, and that are none of those with active loops, leave
the active loops as they were. If a run consists of such calls, then all its
loops have ended. -/
theorem loops_calls (t : Tracer) (s : State) (calls : List Call)
    (hcomplete : ∀ call ∈ calls, call.IsComplete t (s.loops.map Loop.context))
    (hgoesOn : (t.run s (calls.flatMap Call.events)).halted = false) :
    (t.run s (calls.flatMap Call.events)).loops = s.loops ∧
      (s = .start → ∀ key, IsClosed ((t.run s (calls.flatMap Call.events)).log.trail key)) := by
  have hsame : (t.run s (calls.flatMap Call.events)).loops = s.loops := by
    induction calls generalizing s with
    | nil => rfl
    | cons call rest ih =>
        obtain ⟨hcall, hrest⟩ := List.forall_mem_cons.mp hcomplete
        rw [List.flatMap_cons, run_append] at hgoesOn ⊢
        have hfirst := loops_call call hcall (fun l hl => List.mem_map_of_mem hl)
          (goesOn_of_run hgoesOn)
        rw [← hfirst] at hrest ⊢
        exact ih _ hrest hgoesOn
  refine ⟨hsame, ?_⟩
  rintro rfl key
  exact isClosed_of_loops_eq_nil t hsame key

/-- A loop over a function that loops and calls itself from inside its loop. -/
def descent : Tracer :=
  ⟨.ofText ("def walk(n):\n    for m in n:\n        walk(m)\n" ++
    "for x in tree:\n    walk(x)\n").toList, .standard, .standard⟩

/-- A call of the function that calls itself, or that finds nothing to do. -/
def walk (id : UInt64) (callee : Option Call) : Call :=
  let frame : Frame := ⟨id, "walk", "<string>", []⟩
  .mk (.visit frame 2 (match callee with
    | some callee => .visit frame 3 (.call callee (.visit frame 2 .done))
    | none => .done)) frame 2 .none

/-- The program, with one iteration of its loop and three calls in it. -/
def descentRun : Call :=
  let frame : Frame := ⟨1, "<module>", "<string>", []⟩
  .mk (.visit frame 1 (.visit frame 4 (.visit frame 5
    (.call (walk 2 (some (walk 3 (some (walk 4 none))))) (.visit frame 4 .done)))))
    frame 4 .none

theorem loops_descent :
    (descent.run (descent.run .start (descentRun.events.take 3))
        (walk 2 (some (walk 3 (some (walk 4 none))))).events).loops = [⟨1, 3, 0⟩] ∧
      ∀ key, IsClosed ((descent.run .start descentRun.events).log.trail key) := by
  have hinside := descent.loops_calls (descent.run .start (descentRun.events.take 3))
    [walk 2 (some (walk 3 (some (walk 4 none))))] (by decide +kernel) (by decide +kernel)
  have hwhole := descent.loops_calls .start [descentRun] (by decide +kernel) (by decide +kernel)
  rw [List.flatMap_singleton] at hinside hwhole
  exact ⟨hinside.1.trans (by decide +kernel), hwhole.2 rfl⟩

end Tracer

end Stepwise.Trace
