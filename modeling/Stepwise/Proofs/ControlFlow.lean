import Mathlib.Data.Set.Function
import Stepwise.Proofs.StepLimit

/-!
# Control flow and the shape of a trace

The shape of a trace is all of it but the texts of variables and of returned
values. It follows from the flow of control alone: which lines are visited, and
which of the events belong to one call. A run with other values, and with other
numbers for its calls, comes to a trace of the same shape and gets the same
answers.

The two runs are kept in step by `Alike`. Calls are compared by the tracer in
three places, with the innermost loop twice and with the latest step once, and
as different calls keep different numbers these comparisons come out the same.

## Main results

* `Alike.step`: one event, seen by two tracers that are alike.
* `shape_of_sameFlow`: two runs with the same flow of control.
-/

namespace Stepwise

namespace Ordered

variable {κ α β : Type}

/-- A map with every value changed. -/
def map (f : α → β) (m : Ordered κ α) : Ordered κ β :=
  ⟨m.entries.map fun entry => (entry.1, f entry.2), by
    rw [List.map_map]
    exact m.nodup⟩

variable [DecidableEq κ] (m : Ordered κ α) (f : α → β)

theorem lookup_map (key : κ) : (m.map f).lookup key = (m.lookup key).map f := by
  simp only [lookup, map]
  induction m.entries with
  | nil => rfl
  | cons entry rest ih =>
      by_cases h : entry.1 = key
      · simp [lookupEntries, h]
      · simp [lookupEntries, h, ih]

theorem map_update (key : κ) {g : Option α → α} {g' : Option β → β}
    (hg : ∀ value, f (g value) = g' (value.map f)) :
    (m.update key g).map f = (m.map f).update key g' := by
  refine eq_of_entries ?_
  simp only [map, update]
  induction m.entries with
  | nil => simp [updateEntries, hg]
  | cons entry rest ih =>
      by_cases h : entry.1 = key
      · simp [updateEntries, h, hg]
      · simp [updateEntries, h, ih]

theorem map_modify (key : κ) {g : α → α} {g' : β → β} (hg : ∀ value, f (g value) = g' (f value)) :
    (m.modify key g).map f = (m.map f).modify key g' := by
  rw [modify, modify, lookup_map]
  cases m.lookup key with
  | none => rfl
  | some a => exact m.map_update f key fun _ => hg a

end Ordered

namespace Trace

open Stepwise.Run

/-! ## Shapes -/

/-- A step without its texts. -/
def Step.shape (step : Step) : Step := { step with bindings := .empty, returned := none }

/-- A record without its texts. -/
def Record.shape (record : Record) : Record := record.mapStep Step.shape

namespace Log

/-- A log without its texts. -/
def shape (log : Log) : Log := ⟨log.buckets.map (List.map Record.shape)⟩

theorem at_shape (log : Log) (key : Key) :
    log.shape.at_ key = (log.at_ key).map Record.shape := by
  rw [at_, at_, shape, Ordered.lookup_map]
  cases log.buckets.lookup key with
  | none => rfl
  | some records => rfl

theorem shape_push (log : Log) (key : Key) (record : Record) :
    (log.push key record).shape = log.shape.push key record.shape := by
  refine congrArg Log.mk (log.buckets.map_update _ key fun records => ?_)
  cases records with
  | none => rfl
  | some records => exact List.map_append

theorem shape_pushAll (log : Log) (lines : List Nat) (record : Record) :
    (log.pushAll lines record).shape = log.shape.pushAll lines record.shape := by
  induction lines generalizing log with
  | nil => rfl
  | cons n rest ih =>
      have hpush := ih (log.push (.line n) record)
      rw [shape_push] at hpush
      exact hpush

theorem shape_modifyStep (log : Log) (key : Key) (index : Nat) {f : Step → Step}
    (hf : ∀ step, (f step).shape = f step.shape) :
    (log.modifyStep key index f).shape = log.shape.modifyStep key index f := by
  refine congrArg Log.mk (log.buckets.map_modify _ key fun records => ?_)
  have hrecord : ∀ record : Record, (record.mapStep f).shape = record.shape.mapStep f := by
    intro record
    cases record with
    | step step => exact congrArg Record.step (hf step)
    | beginLoop loops => rfl
    | endLoop loops => rfl
  apply List.ext_getElem?
  intro i
  simp only [List.getElem?_map, List.getElem?_modify]
  cases records[i]? with
  | none => rfl
  | some record =>
      simp only [Option.map_some]
      split <;> simp [hrecord]

end Log

/-! ## The same flow of control -/

/-- A loop of a call with another number. -/
def Loop.renamed (rename : UInt64 → UInt64) (l : Loop) : Loop :=
  { l with context := rename l.context }

@[simp] theorem Loop.renamed_header (rename : UInt64 → UInt64) (l : Loop) :
    (l.renamed rename).header = l.header := rfl

theorem loopsOf_renamed (rename : UInt64 → UInt64) (stack : List Loop) :
    loopsOf (stack.map (Loop.renamed rename)) = loopsOf stack := by
  simp [loopsOf, ← List.map_reverse, Function.comp_def, Loop.renamed]

/-- The latest step of a call with another number. -/
def Latest.renamed (rename : UInt64 → UInt64) (latest : Latest) : Latest :=
  { latest with context := rename latest.context }

@[simp] theorem Latest.renamed_key (rename : UInt64 → UInt64) (latest : Latest) :
    (latest.renamed rename).key = latest.key := rfl

/-- Whether two frames are of one code, in calls whose numbers correspond. Their
variables may differ. -/
structure SameCode (rename : UInt64 → UInt64) (frame frame' : Frame) : Prop where
  id_eq : frame'.id = rename frame.id
  name_eq : frame'.name = frame.name
  origin_eq : frame'.origin = frame.origin

/-- Whether two events are the same step of the flow of control, in calls whose
numbers correspond. Variables and returned values may differ. -/
inductive SameFlow (rename : UInt64 → UInt64) : Event Frame → Event Frame → Prop where
  | line {frame frame' : Frame} (number : UInt64) (hcode : SameCode rename frame frame') :
      SameFlow rename (.line frame number) (.line frame' number)
  | leave {frame frame' : Frame} (number : UInt64) (value value' : Value)
      (hcode : SameCode rename frame frame') :
      SameFlow rename (.leave frame number value) (.leave frame' number value')

/-- Whether two states have come from the same flow of control, in calls with
certain numbers. -/
structure Alike (rename : UInt64 → UInt64) (ids : Set UInt64) (s s' : State) : Prop where
  time_eq : s'.time = s.time
  shape_eq : s'.log.shape = s.log.shape
  loops_eq : s'.loops = s.loops.map (Loop.renamed rename)
  latest_eq : s'.latest = s.latest.map (Latest.renamed rename)
  halted_eq : s'.halted = s.halted
  loops_mem : ∀ l ∈ s.loops, l.context ∈ ids
  latest_mem : ∀ latest ∈ s.latest, latest.context ∈ ids

namespace Tracer

variable {t : Tracer} {rename : UInt64 → UInt64} {ids : Set UInt64} {s s' : State}
  {context : UInt64}

/-! ## Two tracers in step -/

theorem shape_markEnd (t : Tracer) (counted : Bool) (top : Loop) (outer : List Loop)
    {log log' : Log} (h : log'.shape = log.shape) :
    (t.markEnd counted (top.renamed rename) (outer.map (Loop.renamed rename)) log').shape =
      (t.markEnd counted top outer log).shape := by
  have hloops : loopsOf ((if counted then (top.renamed rename).counted else top.renamed rename) ::
      outer.map (Loop.renamed rename)) =
        loopsOf ((if counted then top.counted else top) :: outer) := by
    cases counted with
    | false => exact loopsOf_renamed rename (top :: outer)
    | true => exact loopsOf_renamed rename (top.counted :: outer)
  have hmark := congrArg Record.endLoop hloops
  unfold markEnd
  rw [Log.shape_pushAll, Log.shape_pushAll, h]
  exact congrArg (log.shape.pushAll _) hmark

theorem endOwn_renamed (t : Tracer) (hrename : Set.InjOn rename ids) (counted : Bool)
    (hcontext : context ∈ ids) {loops : List Loop} (hloops : ∀ l ∈ loops, l.context ∈ ids)
    {log log' : Log} (h : log'.shape = log.shape) :
    (t.endOwn counted (rename context) (loops.map (Loop.renamed rename)) log').1 =
        (t.endOwn counted context loops log).1.map (Loop.renamed rename) ∧
      (t.endOwn counted (rename context) (loops.map (Loop.renamed rename)) log').2.shape =
        (t.endOwn counted context loops log).2.shape := by
  induction loops generalizing log log' with
  | nil => exact ⟨rfl, h⟩
  | cons top outer ih =>
      obtain ⟨htop, houter⟩ := List.forall_mem_cons.mp hloops
      have hsame : (top.renamed rename).context = rename context ↔ top.context = context :=
        hrename.eq_iff htop hcontext
      rw [List.map_cons, endOwn, endOwn]
      by_cases hown : top.context = context
      · rw [if_pos hown, if_pos (hsame.mpr hown)]
        exact ih houter (t.shape_markEnd counted top outer h)
      · rw [if_neg hown, if_neg (mt hsame.mp hown)]
        exact ⟨rfl, h⟩

end Tracer

namespace Alike

variable {t : Tracer} {rename : UInt64 → UInt64} {ids : Set UInt64} {s s' : State}
  {context : UInt64}

theorem start (rename : UInt64 → UInt64) (ids : Set UInt64) : Alike rename ids .start .start :=
  ⟨rfl, rfl, rfl, rfl, rfl, by simp [State.start], by simp [State.start]⟩

theorem ite (p : Prop) [Decidable p] {s₁ s₁' s₂ s₂' : State} (h₁ : Alike rename ids s₁ s₁')
    (h₂ : Alike rename ids s₂ s₂') :
    Alike rename ids (if p then s₁ else s₂) (if p then s₁' else s₂') := by
  split
  · exact h₁
  · exact h₂

theorem endAll (h : Alike rename ids s s') (hrename : Set.InjOn rename ids)
    (counted : Bool) (hcontext : context ∈ ids) :
    Alike rename ids (t.endAll counted context s) (t.endAll counted (rename context) s') := by
  obtain ⟨hloops, hlog⟩ :=
    t.endOwn_renamed hrename counted hcontext h.loops_mem h.shape_eq
  rw [← h.loops_eq] at hloops hlog
  refine ⟨h.time_eq, hlog, hloops, h.latest_eq, h.halted_eq, ?_, h.latest_mem⟩
  intro l hl
  rw [Tracer.endAll_loops] at hl
  exact h.loops_mem l ((List.dropWhile_suffix _).subset hl)

/-- Which loops have been left is decided by the lines, and by whose they are. -/
theorem endLeft (h : Alike rename ids s s') (hrename : Set.InjOn rename ids)
    (hcontext : context ∈ ids) (line : Nat) :
    Alike rename ids (t.endLeft context line s) (t.endLeft (rename context) line s') := by
  have hloops := h.loops_eq
  have hlatest := h.latest_eq
  have hall := h.endAll (t := t) hrename true hcontext
  unfold Tracer.endLeft
  cases hs : s.loops with
  | nil =>
      rw [hs] at hloops
      rw [hloops]
      exact h
  | cons top outer =>
      rw [hs] at hloops
      cases hl : s.latest with
      | none =>
          rw [hl] at hlatest
          rw [hloops, hlatest]
          exact h
      | some latest =>
          rw [hl] at hlatest
          rw [hloops, hlatest]
          -- Both comparisons of calls are of numbers that occur in the run.
          have hown : (top.renamed rename).context = rename context ↔ top.context = context :=
            hrename.eq_iff (h.loops_mem top (hs ▸ List.mem_cons_self)) hcontext
          have hbefore : (latest.renamed rename).context = rename context ↔
              latest.context = context :=
            hrename.eq_iff (h.latest_mem latest hl) hcontext
          simp only [List.map_cons, Option.map_some, ne_eq, hown, hbefore, Loop.renamed_header,
            Latest.renamed_key]
          refine .ite _ h (.ite _ hall (.ite _ ?_ h))
          refine ⟨h.time_eq, t.shape_markEnd _ top outer h.shape_eq, rfl, rfl, h.halted_eq,
            fun l hmem => ?_, hl ▸ h.latest_mem⟩
          exact h.loops_mem l (hs ▸ List.mem_cons_of_mem top hmem)

theorem beginLoop (h : Alike rename ids s s') (hcontext : context ∈ ids) (line : Nat) :
    Alike rename ids (t.beginLoop context line s) (t.beginLoop (rename context) line s') := by
  have hloops : (⟨rename context, line, 0⟩ : Loop) :: s'.loops =
      (⟨context, line, 0⟩ :: s.loops).map (Loop.renamed rename) := by
    rw [h.loops_eq]
    rfl
  have hlog : (t.beginLoop (rename context) line s').log.shape =
      (t.beginLoop context line s).log.shape := by
    rw [Tracer.beginLoop, Tracer.beginLoop]
    dsimp only
    rw [Log.shape_pushAll, Log.shape_pushAll, h.shape_eq, hloops, loopsOf_renamed]
  exact ⟨h.time_eq, hlog, hloops, h.latest_eq, h.halted_eq,
    List.forall_mem_cons.mpr ⟨hcontext, h.loops_mem⟩, h.latest_mem⟩

theorem enter (h : Alike rename ids s s') (hrename : Set.InjOn rename ids)
    (hcontext : context ∈ ids) (line : Nat) :
    Alike rename ids (t.enter context line s) (t.enter (rename context) line s') := by
  have hloops := h.loops_eq
  have hbegin := h.beginLoop (t := t) hcontext line
  unfold Tracer.enter
  split
  · cases hs : s.loops with
    | nil =>
        rw [hs] at hloops
        rw [hloops]
        exact hbegin
    | cons top outer =>
        rw [hs] at hloops
        rw [hloops]
        have hmem := List.forall_mem_cons.mp (hs ▸ h.loops_mem)
        have hsame : ((top.renamed rename).context = rename context ∧
            (top.renamed rename).header = line) ↔ (top.context = context ∧ top.header = line) :=
          and_congr_left' (hrename.eq_iff hmem.1 hcontext)
        simp only [List.map_cons, hsame]
        refine .ite _ ?_ hbegin
        exact ⟨h.time_eq, h.shape_eq, rfl, h.latest_eq, h.halted_eq,
          List.forall_mem_cons.mpr hmem, h.latest_mem⟩
  · exact h

theorem shape_linked (h : Alike rename ids s s') (key : Key) :
    (Tracer.linked key s').shape = (Tracer.linked key s).shape := by
  have hlatest := h.latest_eq
  unfold Tracer.linked
  cases hl : s.latest with
  | none =>
      rw [hl] at hlatest
      rw [hlatest]
      exact h.shape_eq
  | some latest =>
      rw [hl] at hlatest
      rw [hlatest]
      dsimp only [Option.map_some, Latest.renamed]
      rw [Log.shape_modifyStep, Log.shape_modifyStep, h.shape_eq]
      all_goals exact fun _ => rfl

/-- Steps differ in their texts only. -/
theorem record (h : Alike rename ids s s') {frame frame' : Frame}
    (hid : frame'.id = rename frame.id) (hcontext : frame.id ∈ ids) (key : Key)
    (returned returned' : Option (List Char)) :
    Alike rename ids (t.record frame key returned s) (t.record frame' key returned' s') := by
  have hlinked := h.shape_linked key
  have hstep : (t.recorded frame' key returned' s').shape =
      (t.recorded frame key returned s).shape := by
    simp [Tracer.recorded, Step.shape, h.time_eq, h.loops_eq, h.latest_eq, loopsOf_renamed,
      Function.comp_def, Latest.renamed]
  -- The index of the latest step is a number of records, which the shape has as well.
  have hcount : ((Tracer.linked key s').at_ key).length = ((Tracer.linked key s).at_ key).length := by
    have hrecords := congrArg (fun log => (log.at_ key).length) hlinked
    simpa only [Log.at_shape, List.length_map] using hrecords
  rw [Tracer.record_eq, Tracer.record_eq]
  refine ⟨congrArg (· + 1) h.time_eq, ?_, h.loops_eq, ?_, h.halted_eq, h.loops_mem, ?_⟩
  · rw [Log.shape_push, Log.shape_push, hlinked]
    exact congrArg (fun step => (Tracer.linked key s).shape.push key (.step step)) hstep
  · simp [hid, hcount, Latest.renamed]
  · simpa using hcontext

/-- What there was before the program is nothing that the shape depends on. -/
theorem notice (h : Alike rename ids s s') (frame frame' : Frame) :
    Alike rename ids (Tracer.notice frame s) (Tracer.notice frame' s') := by
  unfold Tracer.notice
  split
  all_goals split
  all_goals exact ⟨h.time_eq, h.shape_eq, h.loops_eq, h.latest_eq, h.halted_eq, h.loops_mem,
    h.latest_mem⟩

theorem noticeEvent (h : Alike rename ids s s') {event event' : Event Frame}
    (hflow : SameFlow rename event event') :
    Alike rename ids (Tracer.noticeEvent event s) (Tracer.noticeEvent event' s') := by
  cases hflow with
  | line number hcode => exact h.notice _ _
  | leave number value value' hcode => exact h

theorem approach (h : Alike rename ids s s') (hrename : Set.InjOn rename ids)
    {event event' : Event Frame} (hflow : SameFlow rename event event')
    (hcontext : event.frame.id ∈ ids) :
    Alike rename ids (t.approach event s) (t.approach event' s') := by
  cases hflow with
  | @line frame frame' number hcode =>
      have hends := (h.notice frame frame').endLeft (t := t) hrename hcontext (number.toNat - 1)
      rw [Event.frame, ← hcode.id_eq] at hends
      exact hends
  | leave number value value' hcode => exact h

theorem carryOut (h : Alike rename ids s s') (hrename : Set.InjOn rename ids)
    {event event' : Event Frame} (hflow : SameFlow rename event event')
    (hcontext : event.frame.id ∈ ids) :
    Alike rename ids (t.carryOut event s) (t.carryOut event' s') := by
  cases hflow with
  | line number hcode =>
      rw [Tracer.carryOut, Tracer.carryOut, hcode.id_eq]
      exact (h.record hcode.id_eq hcontext _ _ _).enter hrename hcontext _
  | leave number value value' hcode =>
      rw [Tracer.carryOut, Tracer.carryOut, hcode.id_eq]
      have hrecord := h.record (t := t) hcode.id_eq hcontext (.leave (number.toNat - 1))
        (t.format.show? value) (t.format.show? value')
      have hleft := hrecord.endLeft (t := t) hrename hcontext (number.toNat - 1)
      exact .ite _ hleft (hleft.endAll hrename false hcontext)

end Alike

/-! ## Runs -/

namespace SameFlow

variable {rename : UInt64 → UInt64} {event event' : Event Frame}

theorem code (hflow : SameFlow rename event event') :
    SameCode rename event.frame event'.frame := by
  cases hflow with
  | line number hcode => exact hcode
  | leave number value value' hcode => exact hcode

/-- Which events are ignored is decided by their code. -/
theorem sees_eq (hflow : SameFlow rename event event') (t : Tracer) :
    t.sees event' = t.sees event := by
  rw [Tracer.sees, Tracer.sees, Tracer.ignores, Tracer.ignores, Frame.scope, Frame.scope,
    hflow.code.name_eq, hflow.code.origin_eq]

end SameFlow

namespace Alike

variable {rename : UInt64 → UInt64} {ids : Set UInt64} {s s' : State}

/-- Two tracers that are alike give one answer, and are alike behind it. -/
theorem step (h : Alike rename ids s s') (t : Tracer) (hrename : Set.InjOn rename ids)
    {event event' : Event Frame} (hflow : SameFlow rename event event')
    (hcontext : event.frame.id ∈ ids) :
    Alike rename ids (t.step s event).1 (t.step s' event').1 ∧
      (t.step s' event').2 = (t.step s event).2 := by
  have hhalted' := h.halted_eq
  have hsees' := hflow.sees_eq t
  cases hhalted : s.halted with
  | true =>
      rw [hhalted] at hhalted'
      rw [t.step_of_halted hhalted, t.step_of_halted hhalted']
      exact ⟨h, rfl⟩
  | false =>
      rw [hhalted] at hhalted'
      cases hsees : t.sees event with
      | false =>
          rw [hsees] at hsees'
          rw [Tracer.step_unseen hhalted hsees, Tracer.step_unseen hhalted' hsees']
          exact ⟨h.noticeEvent hflow, rfl⟩
      | true =>
          rw [hsees] at hsees'
          have hnear := h.approach (t := t) hrename hflow hcontext
          by_cases hlimit : s.time < t.settings.maxSteps
          · have hlimit' : s'.time < t.settings.maxSteps := h.time_eq ▸ hlimit
            rw [Tracer.step_below hhalted hsees hlimit, Tracer.step_below hhalted' hsees' hlimit']
            exact ⟨hnear.carryOut hrename hflow hcontext, rfl⟩
          · rw [Nat.not_lt] at hlimit
            have hlimit' : t.settings.maxSteps ≤ s'.time := h.time_eq ▸ hlimit
            rw [Tracer.step_beyond hhalted hsees hlimit, Tracer.step_beyond hhalted' hsees' hlimit']
            exact ⟨⟨hnear.time_eq, hnear.shape_eq, hnear.loops_eq, hnear.latest_eq, rfl,
              hnear.loops_mem, hnear.latest_mem⟩, rfl⟩

theorem run (h : Alike rename ids s s') (t : Tracer) (hrename : Set.InjOn rename ids)
    {events events' : List (Event Frame)} (hflow : List.Forall₂ (SameFlow rename) events events')
    (hcontexts : ∀ event ∈ events, event.frame.id ∈ ids) :
    Alike rename ids (t.run s events) (t.run s' events') ∧
      t.answers s' events' = t.answers s events := by
  induction hflow generalizing s s' with
  | nil => exact ⟨h, rfl⟩
  | @cons event event' rest rest' hevent hrest ih =>
      obtain ⟨hcontext, hcontexts⟩ := List.forall_mem_cons.mp hcontexts
      obtain ⟨hstep, hanswer⟩ := h.step t hrename hevent hcontext
      obtain ⟨hrun, hanswers⟩ := ih hstep hcontexts
      refine ⟨hrun, ?_⟩
      rw [Tracer.answers, Tracer.answers, hanswer, hanswers]

end Alike

namespace Tracer

/-- The shape of a trace and the answers of the tracer depend on the flow of
control alone. Neither the values of variables, nor those that are returned,
nor the numbers that tell calls apart, have any part in them. -/
theorem shape_of_sameFlow (t : Tracer) {rename : UInt64 → UInt64}
    {events events' : List (Event Frame)}
    (hrename : Set.InjOn rename {id | ∃ event ∈ events, event.frame.id = id})
    (hflow : List.Forall₂ (SameFlow rename) events events') :
    (t.run .start events').log.shape = (t.run .start events).log.shape ∧
      t.answers .start events' = t.answers .start events := by
  obtain ⟨halike, hanswers⟩ := (Alike.start rename _).run t hrename hflow fun event hmem =>
    ⟨event, hmem, rfl⟩
  exact ⟨halike.shape_eq, hanswers⟩

/-- A call inside of a loop. -/
def loopingCall : Tracer :=
  ⟨.ofText "def f(x):\n    return x\nfor x in xs:\n    f(x)\n".toList, .standard, .standard⟩

/-- One iteration of the loop, by the number of the program and the item. -/
def loopingCallEvents (id : UInt64) (item : Value) : List (Event Frame) :=
  let program (locals : List (String × Value)) : Frame := ⟨id, "<module>", "<string>", locals⟩
  let call : Frame := ⟨id + 1, "f", "<string>", [("x", item)]⟩
  [.line (program []) 1, .line (program []) 3, .line (program [("x", item)]) 4, .line call 2,
    .leave call 2 item, .line (program [("x", item)]) 3]

/-- The same call in another process, with another item. -/
theorem shape_of_sameFlow_loopingCall :
    Set.InjOn (· + 10) {id | ∃ event ∈ loopingCallEvents 1 (.bool true), event.frame.id = id} ∧
      List.Forall₂ (SameFlow (· + 10)) (loopingCallEvents 1 (.bool true))
        (loopingCallEvents 11 (.str "a")) ∧
      (loopingCall.run .start (loopingCallEvents 1 (.bool true))).log.toText ≠
        (loopingCall.run .start (loopingCallEvents 11 (.str "a"))).log.toText ∧
      (loopingCall.run .start (loopingCallEvents 11 (.str "a"))).log.shape =
        (loopingCall.run .start (loopingCallEvents 1 (.bool true))).log.shape := by
  have hrename : Set.InjOn (· + 10)
      {id | ∃ event ∈ loopingCallEvents 1 (.bool true), event.frame.id = id} := by
    intro id _ id' _ heq
    simpa using heq
  have hflow : List.Forall₂ (SameFlow (· + 10)) (loopingCallEvents 1 (.bool true))
      (loopingCallEvents 11 (.str "a")) :=
    .cons (.line 1 ⟨rfl, rfl, rfl⟩) <| .cons (.line 3 ⟨rfl, rfl, rfl⟩) <|
      .cons (.line 4 ⟨rfl, rfl, rfl⟩) <| .cons (.line 2 ⟨rfl, rfl, rfl⟩) <|
      .cons (.leave 2 (.bool true) (.str "a") ⟨rfl, rfl, rfl⟩) <|
      .cons (.line 3 ⟨rfl, rfl, rfl⟩) .nil
  exact ⟨hrename, hflow, by decide +kernel, (loopingCall.shape_of_sameFlow hrename hflow).1⟩

end Tracer

end Trace

end Stepwise
