import Mathlib.Data.List.Forall2
import Mathlib.Data.List.Induction
import Stepwise.Proofs.Moves
import Stepwise.Proofs.Trail

/-!
# Nesting of loops on a line

Marks are spread over the lines of a loop body, while the loops themselves are
on one stack. On any single line the marks are well nested all the same: the
beginnings without an end are those of the active loops with the line in their
body. Between a beginning and its end every step is inside the loop, at
iterations that never go back.

The invariant `Opened` takes a trail apart along the stack. It has one section
for every active loop with the line in its body, from the mark of its
beginning up to the next such mark. Moves change the top of the stack, so only
the last section ever grows, and a loop that ends closes that section.

## Main results

* `Nested.move`: every move keeps the sections apart.
* `marks_nested`: the marks of a line after any run.
-/

namespace Stepwise.Trace

open Stepwise.Run

/-! ## Marks that are open -/

/-- The beginnings without an end in a trail, last first, if those in `begun`
are open in front of it. There is no answer if an end has no beginning. -/
def openMarks : List Loops → List Entry → Option (List Loops)
  | begun, [] => some begun
  | begun, .step _ _ :: rest => openMarks begun rest
  | begun, .beginLoop loops :: rest => openMarks (loops :: begun) rest
  | [], .endLoop _ :: _ => none
  | _ :: begun, .endLoop _ :: rest => openMarks begun rest

/-- Whether every beginning in a trail has its end there. -/
def IsClosed (trail : List Entry) : Prop := openMarks [] trail = some []

theorem openMarks_append (begun : List Loops) (trail more : List Entry) :
    openMarks begun (trail ++ more) =
      (openMarks begun trail).bind fun begun' => openMarks begun' more := by
  induction trail generalizing begun with
  | nil => rfl
  | cons entry rest ih =>
      cases entry with
      | step time loops => exact ih begun
      | beginLoop loops => exact ih (loops :: begun)
      | endLoop loops =>
          cases begun with
          | nil => rfl
          | cons loops' begun => exact ih begun

/-- Marks that are open in front of a trail do not matter to what it opens. -/
theorem openMarks_behind {begun begun' : List Loops} {trail : List Entry} (below : List Loops)
    (h : openMarks begun trail = some begun') :
    openMarks (begun ++ below) trail = some (begun' ++ below) := by
  induction trail generalizing begun with
  | nil =>
      obtain rfl : begun = begun' := by simpa [openMarks] using h
      rfl
  | cons entry rest ih =>
      cases entry with
      | step time loops => exact ih h
      | beginLoop loops => exact ih h
      | endLoop loops =>
          cases begun with
          | nil => simp [openMarks] at h
          | cons loops' begun => exact ih h

namespace IsClosed

variable {trail inside : List Entry}

theorem openMarks_eq (h : IsClosed trail) (begun : List Loops) :
    openMarks begun trail = some begun := by
  simpa using openMarks_behind begun h

theorem nil : IsClosed [] := rfl

theorem snoc_step (h : IsClosed trail) (time : Nat) (loops : Loops) :
    IsClosed (trail ++ [.step time loops]) := by
  rw [IsClosed, openMarks_append, h]
  rfl

/-- A loop that begins and ends behind a closed trail leaves it closed. -/
theorem append_loop (h : IsClosed trail) (hinside : IsClosed inside) (begun ended : Loops) :
    IsClosed (trail ++ .beginLoop begun :: (inside ++ [.endLoop ended])) := by
  rw [IsClosed, openMarks_append, h, Option.bind_some]
  simp only [openMarks]
  rw [openMarks_append, hinside.openMarks_eq]
  rfl

end IsClosed

/-- A beginning with nothing open behind it is the last one that is open. -/
theorem openMarks_beginLoop {inside : List Entry} (hinside : IsClosed inside)
    (front : List Entry) (begun : Loops) :
    openMarks [] (front ++ .beginLoop begun :: inside) =
      (openMarks [] front).map fun below => begun :: below := by
  rw [openMarks_append]
  cases openMarks [] front with
  | none => rfl
  | some below =>
      simp only [Option.bind_some, Option.map_some, openMarks]
      exact hinside.openMarks_eq (begun :: below)

/-- Two closed trails cannot start at different beginnings of the same trail. -/
private theorem false_of_inside_eq {begun : Loops} {inside inside' more : List Entry}
    (hinside : IsClosed inside) (hinside' : IsClosed inside')
    (h : inside' = more ++ .beginLoop begun :: inside) : False := by
  rw [IsClosed, h, openMarks_beginLoop hinside] at hinside'
  cases hmore : openMarks [] more <;> simp [hmore] at hinside'

/-- The last beginning that is open in a trail is at one place only. -/
theorem eq_of_beginLoop_eq {front front' inside inside' : List Entry} {begun begun' : Loops}
    (hinside : IsClosed inside) (hinside' : IsClosed inside')
    (h : front ++ .beginLoop begun :: inside = front' ++ .beginLoop begun' :: inside') :
    begun = begun' ∧ inside = inside' := by
  rcases List.append_eq_append_iff.mp h with ⟨more, -, hmore⟩ | ⟨more, -, hmore⟩
  · cases more with
    | nil => simpa using hmore
    | cons entry more =>
        have hrest := (List.cons.inj hmore).2
        exact (false_of_inside_eq hinside' hinside hrest).elim
  · cases more with
    | nil =>
        have hsame : begun' = begun ∧ inside' = inside := by simpa using hmore
        exact ⟨hsame.1.symm, hsame.2.symm⟩
    | cons entry more =>
        have hrest := (List.cons.inj hmore).2
        exact (false_of_inside_eq hinside hinside' hrest).elim

/-! ## Steps inside a loop -/

/-- The active loops of an entry that is a step. -/
def Entry.stepLoops? : Entry → Option Loops
  | step _ loops => some loops
  | _ => none

/-- The active loops of every step in a trail. -/
def stepLoops (trail : List Entry) : List Loops := trail.filterMap Entry.stepLoops?

/-- Whether every step in a trail is inside the loop with the last of several
headers, while the loops around it are at the iterations `outer`. The
iterations of the loop itself never go back and end at most at `last`. -/
def Follows (headers outer : List Nat) (last : Nat) (trail : List Entry) : Prop :=
  ∃ counts : List Nat,
    List.Forall₂ (fun (loops : Loops) count =>
      headers <+: loops.headers ∧ outer ++ [count] <+: loops.iterations)
      (stepLoops trail) counts ∧
    (counts ++ [last]).Pairwise (· ≤ ·)

namespace Follows

variable {headers outer : List Nat} {last : Nat} {trail : List Entry}

theorem nil : Follows headers outer last [] := ⟨[], .nil, by simp⟩

theorem mono (h : Follows headers outer last trail) {last' : Nat} (hlast : last ≤ last') :
    Follows headers outer last' trail := by
  obtain ⟨counts, hcounts, hsorted⟩ := h
  refine ⟨counts, hcounts, ?_⟩
  simp only [List.pairwise_append, List.pairwise_singleton, List.mem_singleton,
    forall_eq, true_and] at hsorted ⊢
  exact ⟨hsorted.1, fun count hcount => Nat.le_trans (hsorted.2 count hcount) hlast⟩

/-- Further steps may be at the last iteration. -/
theorem append (h : Follows headers outer last trail) {more : List Entry}
    (hmore : ∀ loops ∈ stepLoops more,
      headers <+: loops.headers ∧ outer ++ [last] <+: loops.iterations) :
    Follows headers outer last (trail ++ more) := by
  obtain ⟨counts, hcounts, hsorted⟩ := h
  refine ⟨counts ++ List.replicate (stepLoops more).length last, ?_, ?_⟩
  · rw [stepLoops, List.filterMap_append]
    refine List.rel_append hcounts ?_
    change List.Forall₂ _ (stepLoops more) _
    generalize stepLoops more = steps at hmore
    induction steps with
    | nil => exact .nil
    | cons loops rest ih =>
        refine .cons (hmore loops (by simp)) (ih ?_)
        exact fun loops' hloops' => hmore loops' (by simp [hloops'])
  · simp only [List.pairwise_append, List.pairwise_singleton, List.mem_singleton,
      forall_eq, true_and] at hsorted ⊢
    refine ⟨⟨hsorted.1, ?_, ?_⟩, ?_⟩
    · exact List.pairwise_replicate.mpr (.inr (Nat.le_refl last))
    · intro count hcount last' hlast'
      rw [List.eq_of_mem_replicate hlast']
      exact hsorted.2 count hcount
    · intro count hcount
      rcases List.mem_append.mp hcount with hold | hnew
      · exact hsorted.2 count hold
      · exact Nat.le_of_eq (List.eq_of_mem_replicate hnew)

/-- A step of the loop is at one of its iterations. -/
theorem exists_count (h : Follows headers outer last trail) {loops : Loops}
    (hloops : loops ∈ stepLoops trail) :
    headers <+: loops.headers ∧ ∃ count, outer ++ [count] <+: loops.iterations := by
  obtain ⟨counts, hcounts, -⟩ := h
  generalize stepLoops trail = steps at hcounts hloops
  induction hcounts with
  | nil => simp at hloops
  | cons hstep _ ih =>
      rcases List.mem_cons.mp hloops with rfl | hrest
      · exact ⟨hstep.1, _, hstep.2⟩
      · exact ih hrest

end Follows

/-- What the marks of a loop and the steps between them have in common: both
marks carry the headers of the loop and of those around it, these stay at
their iterations, and the loop itself starts with iteration zero. -/
def Iterates (begun ended : Loops) (inside : List Entry) : Prop :=
  ∃ outer last, begun.headers.length = outer.length + 1 ∧
    begun.iterations = outer ++ [0] ∧
    ended = ⟨outer ++ [last], begun.headers⟩ ∧
    Follows begun.headers outer last inside

/-- Whether all loops that begin and end in a trail have marks that fit. -/
def IsSound (trail : List Entry) : Prop :=
  ∀ front begun inside ended behind,
    trail = front ++ .beginLoop begun :: (inside ++ .endLoop ended :: behind) →
      IsClosed inside → Iterates begun ended inside

namespace IsSound

variable {trail : List Entry}

theorem nil : IsSound [] := by
  intro front begun inside ended behind h
  simp at h

/-- Entries that are no end complete no loop. -/
theorem snoc (h : IsSound trail) {entry : Entry} (hentry : ∀ loops, entry ≠ .endLoop loops) :
    IsSound (trail ++ [entry]) := by
  intro front begun inside ended behind htrail hinside
  rcases List.eq_nil_or_concat behind with rfl | ⟨behind', last, rfl⟩
  · have hlast := (List.append_inj' (htrail.trans (by simp :
      _ = (front ++ .beginLoop begun :: inside) ++ [.endLoop ended])) rfl).2
    exact absurd (by simpa using hlast) (hentry ended)
  · have hfront := (List.append_inj' (htrail.trans (by simp :
      _ = (front ++ .beginLoop begun :: (inside ++ .endLoop ended :: behind')) ++ [last])) rfl).1
    exact h front begun inside ended behind' hfront hinside

/-- An end completes the last loop that is open, and no other. -/
theorem snoc_endLoop {front inside : List Entry} {begun ended : Loops}
    (h : IsSound (front ++ .beginLoop begun :: inside)) (hinside : IsClosed inside)
    (hloop : Iterates begun ended inside) :
    IsSound (front ++ .beginLoop begun :: (inside ++ [.endLoop ended])) := by
  intro front' begun' inside' ended' behind htrail hinside'
  rcases List.eq_nil_or_concat behind with rfl | ⟨behind', last, rfl⟩
  · obtain ⟨hbegin, hend⟩ := List.append_inj' (show
      (front ++ .beginLoop begun :: inside) ++ [.endLoop ended] =
        (front' ++ .beginLoop begun' :: inside') ++ [.endLoop ended'] by
          simpa using htrail) rfl
    obtain ⟨rfl, rfl⟩ := eq_of_beginLoop_eq hinside hinside' hbegin
    obtain rfl : ended = ended' := by simpa using hend
    exact hloop
  · have hfront := (List.append_inj' (show
      (front ++ .beginLoop begun :: inside) ++ [.endLoop ended] =
        (front' ++ .beginLoop begun' :: (inside' ++ .endLoop ended' :: behind')) ++ [last] by
          simpa using htrail) rfl).1
    exact h front' begun' inside' ended' behind' hfront hinside'

end IsSound

/-! ## Trails and stacks -/

theorem loopsOf_cons_headers (top : Loop) (outer : List Loop) :
    (loopsOf (top :: outer)).headers = (loopsOf outer).headers ++ [top.header] :=
  congrArg Loops.headers (loopsOf_cons top outer)

theorem loopsOf_cons_iterations (top : Loop) (outer : List Loop) :
    (loopsOf (top :: outer)).iterations = (loopsOf outer).iterations ++ [top.iteration] :=
  congrArg Loops.iterations (loopsOf_cons top outer)

/-- Loops that are active inside others come behind them. -/
theorem loopsOf_starts (above stack : List Loop) :
    (loopsOf stack).headers <+: (loopsOf (above ++ stack)).headers ∧
      (loopsOf stack).iterations <+: (loopsOf (above ++ stack)).iterations := by
  induction above with
  | nil => exact ⟨List.prefix_refl _, List.prefix_refl _⟩
  | cons top above ih =>
      rw [List.cons_append, loopsOf_cons_headers, loopsOf_cons_iterations]
      exact ⟨ih.1.trans (List.prefix_append _ _), ih.2.trans (List.prefix_append _ _)⟩

/-- The mark at the beginning of a loop, given the loops around it. -/
def beginning (top : Loop) (outer : List Loop) : Loops :=
  loopsOf ({ top with iteration := 0 } :: outer)

/-- The marks at the beginnings of those loops on a stack that have a line in
their body, innermost first. -/
def Tracer.beginnings (t : Tracer) (n : Nat) : List Loop → List Loops
  | [] => []
  | top :: outer =>
      if n ∈ t.source.loopBody top.header then beginning top outer :: t.beginnings n outer
      else t.beginnings n outer

/-- How the trail of a line is taken apart by a stack: for every loop with the
line in its body there is a section that starts with the mark of its
beginning and is inside the loop. -/
def Tracer.Opened (t : Tracer) (n : Nat) : List Loop → List Entry → Prop
  | [], trail => IsClosed trail
  | top :: outer, trail =>
      if n ∈ t.source.loopBody top.header then
        ∃ front inside, trail = front ++ .beginLoop (beginning top outer) :: inside ∧
          t.Opened n outer front ∧ IsClosed inside ∧
          Follows (loopsOf (top :: outer)).headers (loopsOf outer).iterations top.iteration
            inside
      else t.Opened n outer trail

namespace Tracer

variable (t : Tracer) {n : Nat}

theorem opened_cons_of_mem {top : Loop} (outer : List Loop) (trail : List Entry)
    (hbody : n ∈ t.source.loopBody top.header) :
    t.Opened n (top :: outer) trail ↔
      ∃ front inside, trail = front ++ .beginLoop (beginning top outer) :: inside ∧
        t.Opened n outer front ∧ IsClosed inside ∧
        Follows (loopsOf (top :: outer)).headers (loopsOf outer).iterations top.iteration
          inside := by
  rw [Opened, if_pos hbody]

theorem opened_cons_of_not_mem {top : Loop} (outer : List Loop) (trail : List Entry)
    (hbody : n ∉ t.source.loopBody top.header) :
    t.Opened n (top :: outer) trail ↔ t.Opened n outer trail := by
  rw [Opened, if_neg hbody]

variable {t}

/-- The marks that are open in a trail are those of the stack. -/
theorem Opened.openMarks_eq {stack : List Loop} {trail : List Entry}
    (h : t.Opened n stack trail) : openMarks [] trail = some (t.beginnings n stack) := by
  induction stack generalizing trail with
  | nil => exact h
  | cons top outer ih =>
      by_cases hbody : n ∈ t.source.loopBody top.header
      · obtain ⟨front, inside, rfl, hfront, hinside, -⟩ :=
          (t.opened_cons_of_mem outer trail hbody).mp h
        rw [openMarks_beginLoop hinside, ih hfront, beginnings, if_pos hbody]
        rfl
      · rw [ih ((t.opened_cons_of_not_mem outer trail hbody).mp h), beginnings, if_neg hbody]

/-- A step goes into the last section, whatever other loops are active. -/
theorem Opened.snoc_step {stack : List Loop} {trail : List Entry}
    (h : t.Opened n stack trail) (time : Nat) (above : List Loop) :
    t.Opened n stack (trail ++ [.step time (loopsOf (above ++ stack))]) := by
  induction stack generalizing above with
  | nil => exact IsClosed.snoc_step h time _
  | cons top outer ih =>
      by_cases hbody : n ∈ t.source.loopBody top.header
      · obtain ⟨front, inside, rfl, hfront, hinside, hfollows⟩ :=
          (t.opened_cons_of_mem outer trail hbody).mp h
        have hstarts := loopsOf_starts above (top :: outer)
        rw [loopsOf_cons_iterations] at hstarts
        refine (t.opened_cons_of_mem outer _ hbody).mpr
          ⟨front, inside ++ [.step time (loopsOf (above ++ top :: outer))], by simp, hfront,
            hinside.snoc_step time _, hfollows.append ?_⟩
        intro loops hloops
        obtain rfl : loops = loopsOf (above ++ top :: outer) := by
          simpa [stepLoops, Entry.stepLoops?] using hloops
        exact hstarts
      · have hrest := ih ((t.opened_cons_of_not_mem outer trail hbody).mp h) (above ++ [top])
        rw [List.append_assoc, List.singleton_append] at hrest
        exact (t.opened_cons_of_not_mem outer _ hbody).mpr hrest

/-- A loop that has begun and ended goes into the last section around it. -/
theorem Opened.append_loop {stack : List Loop} {trail inside : List Entry}
    (h : t.Opened n stack trail) (hinside : IsClosed inside) {headers outer : List Nat}
    {last : Nat} (hfollows : Follows headers outer last inside)
    (hheaders : (loopsOf stack).headers <+: headers)
    (houter : (loopsOf stack).iterations <+: outer) (begun ended : Loops) :
    t.Opened n stack (trail ++ .beginLoop begun :: (inside ++ [.endLoop ended])) := by
  induction stack with
  | nil => exact IsClosed.append_loop h hinside begun ended
  | cons top around ih =>
      have hstarts := loopsOf_starts [top] around
      by_cases hbody : n ∈ t.source.loopBody top.header
      · obtain ⟨front, inside', rfl, hfront, hinside', hfollows'⟩ :=
          (t.opened_cons_of_mem around trail hbody).mp h
        refine (t.opened_cons_of_mem around _ hbody).mpr
          ⟨front, inside' ++ .beginLoop begun :: (inside ++ [.endLoop ended]), by simp, hfront,
            hinside'.append_loop hinside begun ended, hfollows'.append ?_⟩
        intro loops hloops
        replace hloops : loops ∈ stepLoops inside := by
          simpa [stepLoops, Entry.stepLoops?] using hloops
        obtain ⟨hsteps, count, hcount⟩ := hfollows.exists_count hloops
        rw [loopsOf_cons_iterations] at houter
        exact ⟨hheaders.trans hsteps,
          houter.trans ((List.prefix_append outer [count]).trans hcount)⟩
      · exact (t.opened_cons_of_not_mem around _ hbody).mpr
          (ih ((t.opened_cons_of_not_mem around trail hbody).mp h)
            (hstarts.1.trans hheaders) (hstarts.2.trans houter))

variable (t)

/-- What is kept about the trail of a line: it is taken apart by the stack, and
the loops that are over have marks that fit. -/
def Nested (n : Nat) (s : State) : Prop :=
  t.Opened n s.loops (s.log.trail (.line n)) ∧ IsSound (s.log.trail (.line n))

theorem nested_start : t.Nested n .start := ⟨IsClosed.nil, .nil⟩

variable {t}

theorem Nested.record {s : State} (h : t.Nested n s) (frame : Frame) (key : Key)
    (returned : Option (List Char)) : t.Nested n (t.record frame key returned s) := by
  unfold Nested
  rw [trail_record]
  change t.Opened n s.loops _ ∧ _
  split
  · exact ⟨h.1.snoc_step s.time [], h.2.snoc (by simp)⟩
  · rw [List.append_nil]
    exact h

theorem Nested.count {s : State} (h : t.Nested n s) {top : Loop} {outer : List Loop}
    (hloops : s.loops = top :: outer) :
    t.Nested n { s with loops := top.counted :: outer } := by
  obtain ⟨hopened, hsound⟩ := h
  rw [hloops] at hopened
  refine ⟨?_, hsound⟩
  by_cases hbody : n ∈ t.source.loopBody top.header
  · have hcounted : n ∈ t.source.loopBody top.counted.header := hbody
    obtain ⟨front, inside, htrail, hfront, hinside, hfollows⟩ :=
      (t.opened_cons_of_mem outer _ hbody).mp hopened
    refine (t.opened_cons_of_mem outer _ hcounted).mpr
      ⟨front, inside, htrail, hfront, hinside, ?_⟩
    simpa [loopsOf, Loop.counted] using hfollows.mono (Nat.le_succ _)
  · have hcounted : n ∉ t.source.loopBody top.counted.header := hbody
    exact (t.opened_cons_of_not_mem outer _ hcounted).mpr
      ((t.opened_cons_of_not_mem outer _ hbody).mp hopened)

theorem Nested.beginLoop {s : State} (h : t.Nested n s) (context : UInt64) (line : Nat) :
    t.Nested n (t.beginLoop context line s) := by
  unfold Nested
  rw [trail_beginLoop]
  change t.Opened n (⟨context, line, 0⟩ :: s.loops) _ ∧ _
  by_cases hbody : n ∈ t.source.loopBody line
  · rw [if_pos hbody]
    exact ⟨(opened_cons_of_mem t s.loops _ hbody).mpr ⟨_, [], rfl, h.1, .nil, .nil⟩,
      h.2.snoc (by simp)⟩
  · rw [if_neg hbody, List.append_nil]
    exact ⟨(opened_cons_of_not_mem t s.loops _ hbody).mpr h.1, h.2⟩

theorem Nested.endLoop {s : State} (h : t.Nested n s) {top : Loop} {outer : List Loop}
    (hloops : s.loops = top :: outer) :
    t.Nested n { s with loops := outer, log := t.markEnd false top outer s.log } := by
  obtain ⟨hopened, hsound⟩ := h
  rw [hloops] at hopened
  unfold Nested
  rw [trail_markEnd]
  change t.Opened n outer _ ∧ _
  by_cases hbody : n ∈ t.source.loopBody top.header
  · obtain ⟨front, inside, htrail, hfront, hinside, hfollows⟩ :=
      (t.opened_cons_of_mem outer _ hbody).mp hopened
    have hstarts := loopsOf_starts [top] outer
    have hloop : Iterates (beginning top outer) (loopsOf (top :: outer)) inside := by
      refine ⟨(loopsOf outer).iterations, top.iteration, ?_, ?_, ?_, ?_⟩
      · simp [beginning, loopsOf]
      · simp [beginning, loopsOf]
      · simp [beginning, loopsOf]
      · simpa [beginning, loopsOf] using hfollows
    rw [htrail] at hsound ⊢
    rw [if_pos hbody, List.append_assoc, List.cons_append]
    exact ⟨hfront.append_loop hinside hfollows hstarts.1 (List.prefix_refl _) _ _,
      hsound.snoc_endLoop hinside hloop⟩
  · rw [if_neg hbody, List.append_nil]
    exact ⟨(t.opened_cons_of_not_mem outer _ hbody).mp hopened, hsound⟩

theorem Nested.move {s s' : State} (hmove : Move t s s') (h : t.Nested n s) :
    t.Nested n s' := by
  cases hmove with
  | notice names => exact h
  | halt => exact h
  | record frame key returned _ _ => exact h.record frame key returned
  | count hloops => exact h.count hloops
  | begin_ context line _ _ => exact h.beginLoop context line
  | end_ hloops => exact h.endLoop hloops

variable (t)

/-- Returns have no marks. -/
def Unmarked (n : Nat) (s : State) : Prop :=
  ∀ entry ∈ s.log.trail (.leave n), (entry.stepLoops?).isSome

theorem unmarked_move {s s' : State} (hmove : Move t s s') (h : Unmarked n s) :
    Unmarked n s' := by
  cases hmove with
  | notice names => exact h
  | halt => exact h
  | record frame key returned _ _ =>
      intro entry hentry
      rw [trail_record] at hentry
      rcases List.mem_append.mp hentry with hold | hnew
      · exact h entry hold
      · split at hnew
        · rw [List.mem_singleton.mp hnew]
          rfl
        · simp at hnew
  | count hloops => exact h
  | begin_ context line _ _ =>
      intro entry hentry
      exact h entry (by simpa [Tracer.beginLoop, Log.trail_pushAll_leave] using hentry)
  | end_ hloops =>
      intro entry hentry
      exact h entry (by simpa [markEnd, Log.trail_pushAll_leave] using hentry)

/-! ## Where beginnings come from -/

/-- Ending a loop marks no beginning. -/
theorem beginLoop_mem_of_markEnd {counted : Bool} {begun : Loops} {top : Loop}
    {outer : List Loop} {log : Log}
    (h : .beginLoop begun ∈ (t.markEnd counted top outer log).trail (.line n)) :
    .beginLoop begun ∈ log.trail (.line n) := by
  simp only [markEnd, Log.trail_pushAll _ _ n (t.source.nodup_loopBody _)] at h
  rcases List.mem_append.mp h with hold | hnew
  · exact hold
  · split at hnew <;> simp [Record.entry] at hnew

theorem beginLoop_mem_of_endOwn {counted : Bool} {context : UInt64} {begun : Loops}
    {loops : List Loop} {log : Log}
    (h : .beginLoop begun ∈ (t.endOwn counted context loops log).2.trail (.line n)) :
    .beginLoop begun ∈ log.trail (.line n) := by
  induction loops generalizing log with
  | nil => exact h
  | cons top outer ih =>
      simp only [endOwn] at h
      split at h
      · exact t.beginLoop_mem_of_markEnd (ih h)
      · exact h

theorem beginLoop_mem_of_endLeft {context : UInt64} {line : Nat} {begun : Loops} {s : State}
    (h : .beginLoop begun ∈ (t.endLeft context line s).log.trail (.line n)) :
    .beginLoop begun ∈ s.log.trail (.line n) := by
  unfold endLeft at h
  split at h
  · dsimp only at h
    split at h
    · exact h
    · split at h
      · exact t.beginLoop_mem_of_endOwn h
      · split at h
        · exact t.beginLoop_mem_of_markEnd h
        · exact h
  · exact h

theorem beginLoop_mem_of_record {frame : Frame} {key : Key} {returned : Option (List Char)}
    {begun : Loops} {s : State}
    (h : .beginLoop begun ∈ (t.record frame key returned s).log.trail (.line n)) :
    .beginLoop begun ∈ s.log.trail (.line n) := by
  rw [trail_record] at h
  rcases List.mem_append.mp h with hold | hnew
  · exact hold
  · split at hnew <;> simp at hnew

/-- Whether a mark is that of the innermost loop, which has just begun. -/
def BeginsInnermost (n : Nat) (s : State) (begun : Loops) : Prop :=
  ∃ top outer, s.loops = top :: outer ∧ top.iteration = 0 ∧
    n ∈ t.source.loopBody top.header ∧ begun = loopsOf (top :: outer)

theorem beginLoop_mem_of_enter {context : UInt64} {line : Nat} {begun : Loops} {s : State}
    (h : .beginLoop begun ∈ (t.enter context line s).log.trail (.line n)) :
    .beginLoop begun ∈ s.log.trail (.line n) ∨
      t.BeginsInnermost n (t.enter context line s) begun := by
  rcases t.enter_cases context line s with ⟨-, heq⟩ | ⟨-, top, outer, -, -, -, heq⟩ |
    ⟨-, -, heq⟩
  · rw [heq] at h
    exact .inl h
  · rw [heq] at h
    exact .inl h
  · rw [heq] at h ⊢
    rw [trail_beginLoop] at h
    rcases List.mem_append.mp h with hold | hnew
    · exact .inl hold
    · split at hnew
      · next hbody =>
          have hbegun : begun = loopsOf (⟨context, line, 0⟩ :: s.loops) := by simpa using hnew
          exact .inr ⟨⟨context, line, 0⟩, s.loops, rfl, rfl, hbody, hbegun⟩
      · simp at hnew

/-- An event marks a beginning only as the last thing that it does. -/
theorem beginLoop_mem_of_step {event : Event Frame} {begun : Loops} {s : State}
    (h : .beginLoop begun ∈ (t.step s event).1.log.trail (.line n)) :
    .beginLoop begun ∈ s.log.trail (.line n) ∨
      t.BeginsInnermost n (t.step s event).1 begun := by
  have houtcome := t.step_outcome s event
  generalize (t.step s event).1 = s' at houtcome h ⊢
  cases houtcome with
  | halted event _ => exact .inl h
  | unseenLine frame number _ _ => exact .inl (notice_log frame s ▸ h)
  | unseenLeave frame number value _ _ => exact .inl h
  | lastLine frame number _ _ _ =>
      exact .inl (notice_log frame s ▸ t.beginLoop_mem_of_endLeft h)
  | lastLeave frame number value _ _ _ => exact .inl h
  | line frame number _ _ _ =>
      rcases t.beginLoop_mem_of_enter h with hold | hnew
      · have hleft := t.beginLoop_mem_of_endLeft (t.beginLoop_mem_of_record hold)
        exact .inl (notice_log frame s ▸ hleft)
      · exact .inr hnew
  | suspend frame number value _ _ _ _ =>
      exact .inl (t.beginLoop_mem_of_record (t.beginLoop_mem_of_endLeft h))
  | leave frame number value _ _ _ _ =>
      exact .inl (t.beginLoop_mem_of_record (t.beginLoop_mem_of_endLeft
        (t.beginLoop_mem_of_endOwn h)))

/-- Every beginning was marked at a moment at which its loop was the innermost. -/
theorem beginLoop_mem_of_run (events : List (Event Frame)) {begun : Loops}
    (h : .beginLoop begun ∈ (t.run .start events).log.trail (.line n)) :
    ∃ earlier, earlier <+: events ∧ t.BeginsInnermost n (t.run .start earlier) begun := by
  induction events using List.reverseRecOn with
  | nil => simp [run, State.start, Log.trail, Log.at_, Log.empty, Ordered.lookup,
      Ordered.empty, Ordered.lookupEntries] at h
  | append_singleton events event ih =>
      rw [t.run_append_singleton] at h
      rcases t.beginLoop_mem_of_step h with hold | hnew
      · obtain ⟨earlier, hearlier, hbegins⟩ := ih hold
        exact ⟨earlier, hearlier.trans (List.prefix_append _ _), hbegins⟩
      · rw [← t.run_append_singleton] at hnew
        exact ⟨events ++ [event], List.prefix_refl _, hnew⟩

/-- After any events the marks of a line are well nested. Those that are open
are the beginnings of the active loops with the line in their body. Every
beginning was marked when its loop was the innermost. A loop that is over has
marks that carry the same loops around it and no step outside of it. Returns
have no marks. -/
theorem marks_nested (t : Tracer) (events : List (Event Frame)) (n : Nat) :
    openMarks [] ((t.run .start events).log.trail (.line n)) =
        some (t.beginnings n (t.run .start events).loops) ∧
      (∀ begun, .beginLoop begun ∈ (t.run .start events).log.trail (.line n) →
        ∃ earlier, earlier <+: events ∧
          t.BeginsInnermost n (t.run .start earlier) begun) ∧
      IsSound ((t.run .start events).log.trail (.line n)) ∧
      ∀ record ∈ (t.run .start events).log.at_ (.leave n), record.isMark = false := by
  have hnested : t.Nested n (t.run .start events) :=
    t.run_induction t.nested_start (fun _ _ hmove h => h.move hmove) events
  have hunmarked : Unmarked n (t.run .start events) :=
    t.run_induction (by simp [Unmarked, State.start, Log.trail, Log.at_, Log.empty,
      Ordered.lookup, Ordered.empty, Ordered.lookupEntries])
      (fun _ _ hmove h => t.unmarked_move hmove h) events
  refine ⟨hnested.1.openMarks_eq, fun _ => t.beginLoop_mem_of_run events, hnested.2, ?_⟩
  intro record hrecord
  have hstep := hunmarked record.entry (List.mem_map_of_mem hrecord)
  cases record with
  | step s => rfl
  | beginLoop loops => simp [Record.entry, Entry.stepLoops?] at hstep
  | endLoop loops => simp [Record.entry, Entry.stepLoops?] at hstep

end Tracer

end Stepwise.Trace
