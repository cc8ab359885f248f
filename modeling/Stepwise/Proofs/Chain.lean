import Mathlib.Data.List.Nodup
import Mathlib.Data.List.Sort
import Stepwise.Proofs.Moves
import Stepwise.Proofs.Trail

/-!
# The chain of steps

Steps are kept by place and carry links to the places of their neighbours in
time. The link to the step behind is added later, to a record that is found by
its number among those of its place, while marks of loops have come in behind
it. So it has to be seen that the number still leads to the latest step.

The invariant `Chained` knows the steps in the order in which they were taken,
latest first as on a stack. The steps of a place are those of them that belong
there, and the latest one is the record that the state points to, with nothing
but marks behind it. A step that is recorded changes the head of that list and
puts a new one in front; everything else adds marks.

## Main results

* `Chained.move`: every move keeps the chain.
* `steps_linked`: the steps of a run, sorted by time, are one chain.
-/

namespace Stepwise

namespace Ordered

variable {κ α : Type} [DecidableEq κ]

theorem lookupEntries_of_mem {entries : List (κ × α)} {key : κ} {a : α}
    (hnodup : (entries.map Prod.fst).Nodup) (h : (key, a) ∈ entries) :
    lookupEntries key entries = some a := by
  induction entries with
  | nil => simp at h
  | cons entry rest ih =>
      obtain ⟨hkey, hrest⟩ := List.nodup_cons.mp hnodup
      rcases List.mem_cons.mp h with rfl | hmem
      · simp [lookupEntries]
      · have hne : entry.1 ≠ key := by
          intro heq
          exact hkey (heq ▸ List.mem_map_of_mem hmem)
        rw [lookupEntries, if_neg hne]
        exact ih hrest hmem

theorem mem_keys_of_lookup (m : Ordered κ α) {key : κ} (h : (m.lookup key).isSome = true) :
    key ∈ m.keys := by
  rw [lookup] at h
  rw [keys]
  generalize m.entries = entries at h ⊢
  induction entries with
  | nil => simp [lookupEntries] at h
  | cons entry rest ih =>
      by_cases hkey : entry.1 = key
      · simp [hkey]
      · rw [lookupEntries, if_neg hkey] at h
        exact List.mem_cons_of_mem _ (ih h)

end Ordered

namespace Trace

open Stepwise.Run

/-! ## Steps by place -/

namespace Log

/-- The steps of a place, oldest first. -/
def stepsAt (log : Log) (key : Key) : List Step := (log.at_ key).filterMap Record.step?

/-- All steps of a log, place by place. -/
theorem filterMap_records (log : Log) :
    log.records.filterMap Record.step? = log.buckets.keys.flatMap log.stepsAt := by
  rw [records, List.filterMap_flatMap, Ordered.keys, List.flatMap_map]
  refine List.flatMap_congr fun bucket hbucket => ?_
  have hlookup := Ordered.lookupEntries_of_mem log.buckets.nodup hbucket
  rw [stepsAt, at_, Ordered.lookup, hlookup]
  rfl

theorem mem_keys_of_mem_stepsAt {log : Log} {key : Key} {step : Step}
    (h : step ∈ log.stepsAt key) : key ∈ log.buckets.keys := by
  refine log.buckets.mem_keys_of_lookup ?_
  unfold stepsAt at_ at h
  cases hlookup : log.buckets.lookup key with
  | none => simp [hlookup] at h
  | some records => rfl

theorem stepCount_eq (log : Log) :
    log.stepCount = (log.records.filterMap Record.step?).length := by
  rw [stepCount, List.length_filterMap_eq_countP, List.countP_eq_length_filter]
  congr 2
  funext record
  cases record <;> rfl

/-- Whether a log differs from an earlier one by marks at the ends of places. -/
def AddsMarks (earlier log : Log) : Prop :=
  ∀ key, ∃ marks, log.at_ key = earlier.at_ key ++ marks ∧ marks.filterMap Record.step? = []

namespace AddsMarks

theorem refl (log : Log) : AddsMarks log log := fun _ => ⟨[], by simp, rfl⟩

theorem trans {log log' log'' : Log} (h : AddsMarks log log') (h' : AddsMarks log' log'') :
    AddsMarks log log'' := by
  intro key
  obtain ⟨marks, hat, hmarks⟩ := h key
  obtain ⟨marks', hat', hmarks'⟩ := h' key
  exact ⟨marks ++ marks', by rw [hat', hat, List.append_assoc], by simp [hmarks, hmarks']⟩

theorem push (log : Log) (key : Key) {mark : Record} (hmark : mark.step? = none) :
    AddsMarks log (log.push key mark) := by
  intro other
  by_cases h : other = key
  · subst h
    exact ⟨[mark], log.at_push other mark, by simp [hmark]⟩
  · exact ⟨[], by rw [log.at_push_ne mark h, List.append_nil], rfl⟩

theorem pushAll (log : Log) (lines : List Nat) {mark : Record} (hmark : mark.step? = none) :
    AddsMarks log (log.pushAll lines mark) := by
  induction lines generalizing log with
  | nil => exact .refl log
  | cons n rest ih => exact (push log (.line n) hmark).trans (ih _)

theorem stepsAt_eq {log log' : Log} (h : AddsMarks log log') (key : Key) :
    log'.stepsAt key = log.stepsAt key := by
  obtain ⟨marks, hat, hmarks⟩ := h key
  rw [stepsAt, hat, List.filterMap_append, hmarks, List.append_nil]
  rfl

end AddsMarks

/-- Whether the last step of a place is a certain one, which is the record with
number `index` there. -/
def EndsIn (log : Log) (key : Key) (index : Nat) (last : Step) : Prop :=
  ∃ front marks, log.at_ key = front ++ .step last :: marks ∧ front.length = index ∧
    marks.filterMap Record.step? = []

theorem EndsIn.addMarks {log log' : Log} {key : Key} {index : Nat} {last : Step}
    (h : log.EndsIn key index last) (hadds : AddsMarks log log') :
    log'.EndsIn key index last := by
  obtain ⟨front, marks, hat, hindex, hmarks⟩ := h
  obtain ⟨marks', hat', hmarks'⟩ := hadds key
  exact ⟨front, marks ++ marks', by rw [hat', hat]; simp, hindex, by simp [hmarks, hmarks']⟩

theorem EndsIn.push (log : Log) (key : Key) (last : Step) :
    (log.push key (.step last)).EndsIn key (log.at_ key).length last :=
  ⟨log.at_ key, [], log.at_push key _, rfl, rfl⟩

theorem at_modifyStep_ne (log : Log) {key other : Key} (index : Nat) (f : Step → Step)
    (h : other ≠ key) : (log.modifyStep key index f).at_ other = log.at_ other := by
  rw [at_, modifyStep, Ordered.lookup_modify, if_neg h]
  rfl

/-- A step that is changed stays where it is. -/
theorem at_modifyStep {log : Log} {key : Key} {front marks : List Record} {step : Step}
    (h : log.at_ key = front ++ .step step :: marks) (f : Step → Step) :
    (log.modifyStep key front.length f).at_ key = front ++ .step (f step) :: marks := by
  unfold at_ at h
  cases hlookup : log.buckets.lookup key with
  | none => simp [hlookup] at h
  | some records =>
      obtain rfl : records = front ++ .step step :: marks := by simpa [hlookup] using h
      rw [at_, Log.modifyStep, Ordered.lookup_modify, if_pos rfl, hlookup]
      simp [List.modify_eq_set_getElem?, Record.mapStep]

theorem stepsAt_push (log : Log) (key other : Key) (step : Step) :
    (log.push key (.step step)).stepsAt other =
      log.stepsAt other ++ if other = key then [step] else [] := by
  by_cases h : other = key
  · subst h
    simp [stepsAt, at_push, Record.step?]
  · simp [stepsAt, at_push_ne _ _ h, h]

/-- A change of the latest step is seen at its place only. -/
theorem EndsIn.stepsAt_modifyStep {log : Log} {index : Nat} {last : Step} {earlier : List Step}
    (h : log.EndsIn last.key index last)
    (hat : ∀ key, log.stepsAt key = ((last :: earlier).filter fun step => step.key = key).reverse)
    {f : Step → Step} (hf : (f last).key = last.key) (key : Key) :
    (log.modifyStep last.key index f).stepsAt key =
      ((f last :: earlier).filter fun step => step.key = key).reverse := by
  by_cases hkey : last.key = key
  · subst hkey
    obtain ⟨front, marks, hrecords, rfl, hmarks⟩ := h
    have hfront : front.filterMap Record.step? ++ [last] =
        (earlier.filter fun step => step.key = last.key).reverse ++ [last] := by
      have hsteps := hat last.key
      rw [stepsAt, hrecords] at hsteps
      simpa [Record.step?, hmarks] using hsteps
    rw [stepsAt, at_modifyStep hrecords]
    simpa [Record.step?, hmarks, hf] using hfront
  · have hother := hat key
    rw [List.filter_cons_of_neg (by simpa using hkey)] at hother
    rw [List.filter_cons_of_neg (by simpa [hf] using hkey), ← hother, stepsAt,
      at_modifyStep_ne log index f (Ne.symm hkey)]
    rfl

end Log

/-! ## Chains -/

/-- Whether steps, latest first, are one chain: each of them has the number of
those before it as its time, and the places of its neighbours. `next` is the
place of the step behind them, if there is one. -/
def IsChain : (next : Option Key) → List Step → Prop
  | _, [] => True
  | next, last :: earlier =>
      (last.time = earlier.length ∧ last.previous = earlier.head?.map Step.key ∧
        last.next = next) ∧ IsChain (some last.key) earlier

/-- The chain by the numbers of its steps, in the order of time. -/
theorem IsChain.links {next : Option Key} {steps : List Step} (h : IsChain next steps) {i : Nat}
    {step : Step} (hi : steps.reverse[i]? = some step) :
    step.time = i ∧
      step.previous = (if i = 0 then none else steps.reverse[i - 1]?.map Step.key) ∧
      step.next = (steps.reverse.map Step.key ++ next.toList)[i + 1]? := by
  induction steps generalizing next with
  | nil => simp at hi
  | cons last earlier ih =>
      obtain ⟨⟨htime, hprevious, hnext⟩, hearlier⟩ := h
      have hi' : i < earlier.length + 1 := by
        simpa using List.getElem?_eq_some_iff.mp hi |>.1
      rw [List.reverse_cons] at hi ⊢
      by_cases hlast : i = earlier.length
      · subst hlast
        obtain rfl : last = step := by simpa using hi
        refine ⟨htime, ?_, ?_⟩
        · rw [hprevious]
          cases earlier with
          | nil => simp
          | cons before earlier => simp
        · rw [hnext]
          cases next with
          | none => simp
          | some key => simp
      · have hbefore : i < earlier.reverse.length := by simp; omega
        rw [List.getElem?_append_left hbefore] at hi
        obtain ⟨htime', hprevious', hnext'⟩ := ih hearlier hi
        refine ⟨htime', ?_, ?_⟩
        · rw [hprevious', List.getElem?_append_left (by omega)]
        · rw [hnext', List.map_append]
          exact (List.getElem?_append_left (by simp; omega)).symm

theorem IsChain.time_lt {next : Option Key} {steps : List Step} (h : IsChain next steps) :
    ∀ step ∈ steps, step.time < steps.length := by
  induction steps generalizing next with
  | nil => simp
  | cons last earlier ih =>
      obtain ⟨⟨htime, -, -⟩, hearlier⟩ := h
      refine List.forall_mem_cons.mpr ⟨?_, ?_⟩
      · simp [htime]
      · intro step hstep
        exact Nat.lt_succ_of_lt (ih hearlier step hstep)

/-- Time goes on from step to step. -/
theorem IsChain.pairwise {next : Option Key} {steps : List Step} (h : IsChain next steps) :
    steps.Pairwise fun later earlier => earlier.time < later.time := by
  induction steps generalizing next with
  | nil => exact .nil
  | cons last earlier ih =>
      obtain ⟨⟨htime, -, -⟩, hearlier⟩ := h
      refine .cons ?_ (ih hearlier)
      rw [htime]
      exact hearlier.time_lt

/-- What it means for a log that its steps, in the order of time, are one chain. -/
structure Log.IsLinked (log : Log) : Prop where
  length_steps : log.steps.length = log.stepCount
  /-- The time of a step is its number. -/
  time_eq : ∀ i (step : Step), log.steps[i]? = some step → step.time = i
  previous_eq : ∀ i (step : Step), log.steps[i]? = some step →
    step.previous = if i = 0 then none else log.steps[i - 1]?.map Step.key
  next_eq : ∀ i (step : Step), log.steps[i]? = some step →
    step.next = log.steps[i + 1]?.map Step.key
  /-- Only a step that returns has a value. -/
  isLeave_of_returned : ∀ step ∈ log.steps, step.returned.isSome = true →
    step.key.isLeave = true
  /-- A step is kept at its own place. -/
  key_eq : ∀ key (step : Step), .step step ∈ log.at_ key → step.key = key
  /-- Later steps of a place are further behind. -/
  pairwise_stepsAt : ∀ key, (log.stepsAt key).Pairwise fun earlier later =>
    earlier.time < later.time

/-! ## The invariant -/

namespace Tracer

variable {t : Tracer} {steps : List Step} {s s' : State}

/-- Whether certain steps, latest first, are those that have been recorded. -/
structure Chained (steps : List Step) (s : State) : Prop where
  time_eq : s.time = steps.length
  chain : IsChain none steps
  returned : ∀ step ∈ steps, step.returned.isSome = true → step.key.isLeave = true
  stepsAt_eq : ∀ key, s.log.stepsAt key = (steps.filter fun step => step.key = key).reverse
  latest_eq : s.latest.map Latest.key = steps.head?.map Step.key
  latest_at : ∀ last ∈ steps.head?, ∀ latest ∈ s.latest,
    s.log.EndsIn latest.key latest.index last

theorem chained_start : Chained [] .start := by
  refine ⟨rfl, trivial, by simp, fun _ => rfl, rfl, by simp⟩

/-- Marks are no part of the chain. -/
theorem Chained.addMarks (h : Chained steps s) (hadds : Log.AddsMarks s.log s'.log)
    (htime : s'.time = s.time) (hlatest : s'.latest = s.latest) : Chained steps s' := by
  refine ⟨htime.trans h.time_eq, h.chain, h.returned, ?_, ?_, ?_⟩
  · intro key
    rw [hadds.stepsAt_eq, h.stepsAt_eq]
  · rw [hlatest, h.latest_eq]
  · intro last hlast latest hmem
    rw [hlatest] at hmem
    exact (h.latest_at last hlast latest hmem).addMarks hadds

/-- The step that is recorded in a state. -/
def recorded (t : Tracer) (frame : Frame) (key : Key) (returned : Option (List Char))
    (s : State) : Step :=
  ⟨s.time, key, loopsOf s.loops, t.bindings s frame, s.latest.map Latest.key, none, returned⟩

/-- The log with the latest step linked to the place of the next one. -/
def linked (key : Key) (s : State) : Log :=
  match s.latest with
  | some latest =>
      s.log.modifyStep latest.key latest.index fun before => { before with next := some key }
  | none => s.log

theorem record_eq (t : Tracer) (frame : Frame) (key : Key) (returned : Option (List Char))
    (s : State) : t.record frame key returned s =
      { s with
        time := s.time + 1
        log := (linked key s).push key (.step (t.recorded frame key returned s))
        latest := some ⟨frame.id, key, ((linked key s).at_ key).length⟩ } := rfl

/-- Linking the latest step gives a chain that goes on. -/
theorem Chained.link (h : Chained steps s) (key : Key) :
    ∃ steps', IsChain (some key) steps' ∧ steps'.length = steps.length ∧
      steps'.head?.map Step.key = s.latest.map Latest.key ∧
      (∀ step ∈ steps', step.returned.isSome = true → step.key.isLeave = true) ∧
      ∀ other, (linked key s).stepsAt other =
        (steps'.filter fun step => step.key = other).reverse := by
  have hlatest := h.latest_eq
  cases steps with
  | nil =>
      have hnone : s.latest = none := by simpa using hlatest
      rw [linked, hnone]
      exact ⟨[], trivial, rfl, rfl, h.returned, h.stepsAt_eq⟩
  | cons last earlier =>
      obtain ⟨latest, hsome, hkey⟩ : ∃ latest, s.latest = some latest ∧ latest.key = last.key := by
        simpa using hlatest
      obtain ⟨⟨htime, hprevious, -⟩, hearlier⟩ := h.chain
      have hends := h.latest_at last rfl latest hsome
      rw [linked, hsome]
      dsimp only
      rw [hkey] at hends ⊢
      refine ⟨{ last with next := some key } :: earlier, ⟨⟨htime, hprevious, rfl⟩, hearlier⟩, rfl,
        by simp [hkey], ?_, ?_⟩
      · exact List.forall_mem_cons.mpr (List.forall_mem_cons.mp h.returned)
      · exact hends.stepsAt_modifyStep h.stepsAt_eq rfl

/-- A step that is recorded is the latest one. -/
theorem Chained.record (h : Chained steps s) (frame : Frame) (key : Key)
    {returned : Option (List Char)} (hreturned : returned.isSome = true → key.isLeave = true) :
    ∃ steps', Chained steps' (t.record frame key returned s) := by
  obtain ⟨steps', hchain, hlength, hhead, hothers, hat⟩ := h.link key
  have hcount : s.time = steps'.length := h.time_eq.trans hlength.symm
  rw [record_eq]
  refine ⟨t.recorded frame key returned s :: steps', congrArg (· + 1) hcount,
    ⟨⟨hcount, hhead.symm, rfl⟩, hchain⟩, ?_, ?_, rfl, ?_⟩
  · exact List.forall_mem_cons.mpr ⟨hreturned, hothers⟩
  · intro other
    dsimp only
    rw [Log.stepsAt_push, hat]
    by_cases hkey : other = key
    · simp [hkey, recorded]
    · simp [hkey, Ne.symm hkey, recorded]
  · intro last hlast latest hmem
    obtain rfl := Option.some.inj hlast
    obtain rfl := Option.some.inj hmem
    exact .push _ key _

/-- Every move keeps the chain. -/
theorem Chained.move (hmove : Move t s s') (h : Chained steps s) : ∃ steps', Chained steps' s' := by
  cases hmove with
  | notice names => exact ⟨steps, h.addMarks (.refl _) rfl rfl⟩
  | halt => exact ⟨steps, h.addMarks (.refl _) rfl rfl⟩
  | record frame key returned _ hreturned => exact h.record frame key hreturned
  | count hloops => exact ⟨steps, h.addMarks (.refl _) rfl rfl⟩
  | begin_ context line _ _ => exact ⟨steps, h.addMarks (.pushAll _ _ rfl) rfl rfl⟩
  | end_ hloops => exact ⟨steps, h.addMarks (.pushAll _ _ rfl) rfl rfl⟩

/-! ## Steps in the order of time -/

/-- Steps are told apart by their times. -/
theorem Chained.times_nodup (h : Chained steps s) : (steps.map Step.time).Nodup :=
  List.pairwise_map.mpr (h.chain.pairwise.imp fun hlt => Nat.ne_of_gt hlt)

theorem Chained.mem_stepsAt (h : Chained steps s) {key : Key} {step : Step} :
    step ∈ s.log.stepsAt key ↔ step ∈ steps ∧ step.key = key := by
  rw [h.stepsAt_eq]
  simp

/-- The places of a log have all steps, and every step once. -/
theorem Chained.perm (h : Chained steps s) :
    (s.log.records.filterMap Record.step?).Perm steps.reverse := by
  rw [Log.filterMap_records]
  have hplaces : (s.log.buckets.keys.flatMap s.log.stepsAt).Nodup := by
    refine List.nodup_flatMap.mpr ⟨?_, ?_⟩
    · intro key _
      rw [h.stepsAt_eq]
      exact List.nodup_reverse.mpr (h.times_nodup.of_map.filter _)
    · refine s.log.buckets.nodup.imp fun hne step hstep hstep' => hne ?_
      exact (h.mem_stepsAt.mp hstep).2.symm.trans (h.mem_stepsAt.mp hstep').2
  refine (List.perm_ext_iff_of_nodup hplaces
    (List.nodup_reverse.mpr h.times_nodup.of_map)).mpr fun step => ?_
  rw [List.mem_flatMap, List.mem_reverse]
  constructor
  · rintro ⟨key, -, hstep⟩
    exact (h.mem_stepsAt.mp hstep).1
  · intro hstep
    have hplace := h.mem_stepsAt.mpr ⟨hstep, rfl⟩
    exact ⟨step.key, Log.mem_keys_of_mem_stepsAt hplace, hplace⟩

theorem Chained.steps_eq (h : Chained steps s) : s.log.steps = steps.reverse := by
  have hsorted : (s.log.steps).Pairwise fun a b => decide (a.time ≤ b.time) = true := by
    refine List.pairwise_mergeSort ?_ ?_ _
    · simp only [decide_eq_true_eq]
      exact fun _ _ _ => Nat.le_trans
    · simp only [Bool.or_eq_true, decide_eq_true_eq]
      exact fun a b => Nat.le_total a.time b.time
  have hchain : steps.reverse.Pairwise fun a b => decide (a.time ≤ b.time) = true :=
    List.pairwise_reverse.mpr (h.chain.pairwise.imp fun hlt => decide_eq_true (Nat.le_of_lt hlt))
  have hperm : (s.log.steps).Perm steps.reverse := (List.mergeSort_perm _ _).trans h.perm
  refine hperm.eq_of_pairwise ?_ hsorted hchain
  intro a b ha hb hle hge
  have htime : a.time = b.time := Nat.le_antisymm (of_decide_eq_true hle) (of_decide_eq_true hge)
  exact List.inj_on_of_nodup_map h.times_nodup (List.mem_reverse.mp (hperm.subset ha))
    (List.mem_reverse.mp hb) htime

theorem Chained.isLinked (h : Chained steps s) : s.log.IsLinked where
  length_steps := by rw [Log.stepCount_eq, h.perm.length_eq, h.steps_eq]
  time_eq i step hi := (h.chain.links (h.steps_eq ▸ hi)).1
  previous_eq i step hi := by
    rw [h.steps_eq] at hi ⊢
    exact (h.chain.links hi).2.1
  next_eq i step hi := by
    rw [h.steps_eq] at hi ⊢
    have hnext := (h.chain.links hi).2.2
    rw [hnext, Option.toList_none, List.append_nil, List.getElem?_map]
  isLeave_of_returned step hstep := by
    rw [h.steps_eq, List.mem_reverse] at hstep
    exact h.returned step hstep
  key_eq key step hstep := by
    have hplace : step ∈ s.log.stepsAt key := List.mem_filterMap.mpr ⟨_, hstep, rfl⟩
    exact (h.mem_stepsAt.mp hplace).2
  pairwise_stepsAt key := by
    rw [h.stepsAt_eq]
    exact List.pairwise_reverse.mpr (h.chain.pairwise.filter _)

/-- After any events the steps of the trace are one chain. -/
theorem steps_linked (t : Tracer) (events : List (Event Frame)) :
    (t.run .start events).log.IsLinked := by
  obtain ⟨steps, h⟩ := t.run_induction (P := fun s => ∃ steps, Chained steps s)
    ⟨[], chained_start⟩ (fun _ _ hmove ⟨_, hs⟩ => hs.move hmove) events
  exact h.isLinked

end Tracer

end Trace

end Stepwise
