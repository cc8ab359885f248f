import Stepwise.Proofs.IterationCounts
import Stepwise.Proofs.UnseenEvents

/-!
# The variables that a step shows

A step shows the local variables of its call, but for three kinds: those whose
value has no text, the reserved one, and in the program itself those that were there
before it. A name may come more than once among the locals. It is shown where it
first has a text and with the text that it has last, so a value without a text does
not take an earlier one back.

The variables that were there before are those of the first visit to a line outside
of all functions. That may be a visit in code that is not recorded, and it may be
the very event that is recorded now, so the statement about a step looks at all
events up to its own.

What is written into a step at its event stays there. Later events may link the
step, and that is all (`viewsAt_step`).

## Main results

* `shows_bindings`: what the bindings of a call show of its locals.
* `preexisting_run`: the variables that were there before the program.
* `variables_shown`: what the steps of a run show.
-/

namespace Stepwise

namespace Ordered

variable {κ α : Type} [DecidableEq κ]

theorem mem_entries_iff (m : Ordered κ α) {key : κ} {a : α} :
    (key, a) ∈ m.entries ↔ m.lookup key = some a := by
  refine ⟨lookupEntries_of_mem m.nodup, fun h => ?_⟩
  rw [lookup] at h
  generalize m.entries = entries at h ⊢
  induction entries with
  | nil => simp [lookupEntries] at h
  | cons entry rest ih =>
      obtain ⟨k, b⟩ := entry
      by_cases hkey : k = key
      · obtain rfl : b = a := by simpa [lookupEntries, hkey] using h
        simp [hkey]
      · rw [lookupEntries, if_neg hkey] at h
        exact List.mem_cons_of_mem _ (ih h)

theorem mem_entries_insert (m : Ordered κ α) {key other : κ} {a b : α} :
    (other, b) ∈ (m.insert key a).entries ↔
      (other = key ∧ b = a) ∨ (other ≠ key ∧ (other, b) ∈ m.entries) := by
  rw [mem_entries_iff, mem_entries_iff, insert]
  by_cases hkey : other = key
  · subst hkey
    rw [lookup_update]
    simp [eq_comm]
  · rw [lookup_update_ne _ _ hkey]
    simp [hkey]

theorem ofList_concat (entries : List (κ × α)) (key : κ) (a : α) :
    ofList (entries ++ [(key, a)]) = (ofList entries).insert key a := by
  rw [ofList, List.foldl_append]
  rfl

theorem keys_insert (m : Ordered κ α) (key : κ) (a : α) :
    (m.insert key a).keys = if key ∈ m.keys then m.keys else m.keys ++ [key] :=
  m.keys_update key _

end Ordered

namespace Trace

open Stepwise.Run

/-! ## The locals of a call -/

/-- Where a name has a text for the first time among the locals of a call. -/
def firstShown (f : Value.Format) (locals : List (String × Value)) (name : String) : Nat :=
  locals.findIdx fun entry => entry.1 == name && (f.show? entry.2).isSome

/-- What the bindings of a step show of the locals of a call, some of which are
hidden. -/
structure Shows (f : Value.Format) (hidden : String → Prop) (locals : List (String × Value))
    (shown : Ordered String (List Char)) : Prop where
  /-- A name is shown if it is not hidden and has a text at some place. -/
  mem_keys_iff : ∀ name, name ∈ shown.keys ↔
    ¬ hidden name ∧ ∃ v, (name, v) ∈ locals ∧ (f.show? v).isSome = true
  /-- No name is shown twice. -/
  nodup : shown.keys.Nodup
  /-- Names stand in the order of the places at which they first have a text. -/
  ordered : shown.keys.Pairwise fun name name' =>
    firstShown f locals name < firstShown f locals name'
  /-- A name stands with the text at the last place at which it has one. -/
  last_shown : ∀ name text, (name, text) ∈ shown.entries →
    ∃ before v behind, locals = before ++ (name, v) :: behind ∧ f.show? v = some text ∧
      ∀ w, (name, w) ∈ behind → f.show? w = none

namespace Shows

variable {f : Value.Format} {hidden : String → Prop} {locals : List (String × Value)}
  {shown : Ordered String (List Char)} {name : String} {v : Value}

theorem nil : Shows f hidden [] .empty where
  mem_keys_iff name := by simp [Ordered.keys, Ordered.empty]
  nodup := List.nodup_nil
  ordered := .nil
  last_shown name text h := by simp [Ordered.empty] at h

/-- A name that is shown has its first place among the locals. -/
theorem exists_occurrence (h : Shows f hidden locals shown) (hname : name ∈ shown.keys) :
    ∃ entry ∈ locals, (entry.1 == name && (f.show? entry.2).isSome) = true := by
  obtain ⟨-, v, hmem, hsome⟩ := (h.mem_keys_iff name).mp hname
  exact ⟨(name, v), hmem, by simpa using hsome⟩

/-- More locals do not change where a name that is shown has its first place. -/
theorem firstShown_append (h : Shows f hidden locals shown) (hname : name ∈ shown.keys)
    (more : List (String × Value)) :
    firstShown f (locals ++ more) name = firstShown f locals name := by
  rw [firstShown, List.findIdx_append, if_pos]
  · rfl
  · obtain ⟨entry, hmem, hoccurs⟩ := h.exists_occurrence hname
    exact List.findIdx_lt_length_of_exists ⟨entry, hmem, hoccurs⟩

theorem ordered_append (h : Shows f hidden locals shown) (more : List (String × Value)) :
    shown.keys.Pairwise fun name name' =>
      firstShown f (locals ++ more) name < firstShown f (locals ++ more) name' := by
  refine h.ordered.imp_of_mem fun hname hname' hlt => ?_
  rwa [h.firstShown_append hname, h.firstShown_append hname']

/-- A hidden variable, or a value without a text, shows nothing. -/
theorem skip (h : Shows f hidden locals shown) (hskip : hidden name ∨ f.show? v = none) :
    Shows f hidden (locals ++ [(name, v)]) shown where
  mem_keys_iff other := by
    rw [h.mem_keys_iff]
    refine and_congr_right fun hother => exists_congr fun w => and_congr_left fun hw => ?_
    rw [List.mem_append, List.mem_singleton, or_iff_left]
    rintro ⟨⟩
    rcases hskip with hhidden | hnone
    · exact hother hhidden
    · simp [hnone] at hw
  nodup := h.nodup
  ordered := h.ordered_append _
  last_shown other text hentry := by
    obtain ⟨before, w, behind, hlocals, hw, hbehind⟩ := h.last_shown other text hentry
    have hother : other ∈ shown.keys := List.mem_map_of_mem hentry
    refine ⟨before, w, behind ++ [(name, v)], by simp [hlocals], hw, fun u hu => ?_⟩
    rcases List.mem_append.mp hu with hold | hnew
    · exact hbehind u hold
    · obtain ⟨rfl, rfl⟩ := Prod.mk.inj (List.mem_singleton.mp hnew)
      exact hskip.resolve_left ((h.mem_keys_iff other).mp hother).1

/-- A name that has no text among the locals comes last once it has one. -/
theorem firstShown_lt (h : Shows f hidden locals shown) {other : String}
    (hother : other ∈ shown.keys) (hname : ¬ hidden name) (hnew : name ∉ shown.keys) (v : Value) :
    firstShown f (locals ++ [(name, v)]) other < firstShown f (locals ++ [(name, v)]) name := by
  have hnone : ¬ locals.findIdx (fun entry => entry.1 == name && (f.show? entry.2).isSome) <
      locals.length := by
    rw [List.findIdx_lt_length]
    rintro ⟨⟨name', w⟩, hmem, hoccurs⟩
    obtain ⟨rfl, hw⟩ : name' = name ∧ (f.show? w).isSome = true := by simpa using hoccurs
    exact hnew ((h.mem_keys_iff name').mpr ⟨hname, w, hmem, hw⟩)
  have hlast : locals.length ≤ firstShown f (locals ++ [(name, v)]) name := by
    rw [firstShown, List.findIdx_append, if_neg hnone]
    exact Nat.le_add_left _ _
  rw [h.firstShown_append hother]
  exact Nat.lt_of_lt_of_le (List.findIdx_lt_length.mpr (h.exists_occurrence hother)) hlast

/-- A variable that is not hidden, with a value that has a text, comes last or takes
the place of an earlier one. -/
theorem insert {text : List Char} (h : Shows f hidden locals shown) (hname : ¬ hidden name)
    (hv : f.show? v = some text) :
    Shows f hidden (locals ++ [(name, v)]) (shown.insert name text) where
  mem_keys_iff other := by
    have hkeys : other ∈ (shown.insert name text).keys ↔ other ∈ shown.keys ∨ other = name := by
      rw [Ordered.keys_insert]
      split
      · next hold => exact ⟨.inl, fun hor => hor.elim id fun heq => heq ▸ hold⟩
      · simp
    rw [hkeys, h.mem_keys_iff]
    constructor
    · rintro (⟨hother, w, hmem, hw⟩ | rfl)
      · exact ⟨hother, w, List.mem_append_left _ hmem, hw⟩
      · exact ⟨hname, v, by simp, by simp [hv]⟩
    · rintro ⟨hother, w, hmem, hw⟩
      rcases List.mem_append.mp hmem with hold | hnew
      · exact .inl ⟨hother, w, hold, hw⟩
      · exact .inr (Prod.mk.inj (List.mem_singleton.mp hnew)).1
  nodup := (shown.insert name text).nodup
  ordered := by
    rw [Ordered.keys_insert]
    split
    · exact h.ordered_append _
    · next hnew =>
        refine List.pairwise_append.mpr ⟨h.ordered_append _, List.pairwise_singleton _ _, ?_⟩
        intro other hother last hlast
        rw [List.mem_singleton.mp hlast]
        exact h.firstShown_lt hother hname hnew v
  last_shown other text' hentry := by
    rcases shown.mem_entries_insert.mp hentry with ⟨rfl, rfl⟩ | ⟨hother, hold⟩
    · exact ⟨locals, v, [], rfl, hv, by simp⟩
    · obtain ⟨before, w, behind, hlocals, hw, hbehind⟩ := h.last_shown other text' hold
      refine ⟨before, w, behind ++ [(name, v)], by simp [hlocals], hw, fun u hu => ?_⟩
      rcases List.mem_append.mp hu with hearlier | hlast
      · exact hbehind u hearlier
      · exact absurd (Prod.mk.inj (List.mem_singleton.mp hlast)).1 hother

end Shows

namespace Tracer

variable {t : Tracer} {s : State} {event : Event Frame}

/-- What a local variable of a call adds to the bindings. -/
def shown? (t : Tracer) (s : State) (frame : Frame) (entry : String × Value) :
    Option (String × List Char) :=
  if t.hides s frame entry.1 then none
  else (t.format.show? entry.2).map fun shown => (entry.1, shown)

/-- The bindings of a call show its locals, one after the other. -/
theorem shows_bindings (t : Tracer) (s : State) (frame : Frame) :
    Shows t.format (fun name => t.hides s frame name = true) frame.locals
      (t.bindings s frame) := by
  have hbindings : t.bindings s frame = .ofList (frame.locals.filterMap (t.shown? s frame)) := rfl
  rw [hbindings]
  induction frame.locals using List.reverseRecOn with
  | nil => exact .nil
  | append_singleton locals entry ih =>
      obtain ⟨name, v⟩ := entry
      rw [List.filterMap_append]
      cases hhides : t.hides s frame name with
      | true =>
          have hnone : t.shown? s frame (name, v) = none := by simp [shown?, hhides]
          rw [List.filterMap_cons_none hnone, List.filterMap_nil, List.append_nil]
          exact ih.skip (.inl hhides)
      | false =>
          cases hv : t.format.show? v with
          | none =>
              have hnone : t.shown? s frame (name, v) = none := by simp [shown?, hv]
              rw [List.filterMap_cons_none hnone, List.filterMap_nil, List.append_nil]
              exact ih.skip (.inr hv)
          | some text =>
              have hsome : t.shown? s frame (name, v) = some (name, text) := by
                simp [shown?, hhides, hv]
              rw [List.filterMap_cons_some hsome, List.filterMap_nil, Ordered.ofList_concat]
              exact ih.insert (by simp [hhides]) hv

/-! ## The variables before the program -/

/-- Whether a variable of a call is hidden behind several events: it is the reserved
one, or it is one of the program itself and the first visit to a line outside of all
functions had it too. -/
def IsHidden (t : Tracer) (events : List (Event Frame)) (frame : Frame) (name : String) : Prop :=
  name = t.settings.reserved ∨
    (frame.scope = .module ∧ ∃ first ∈ events.find? Event.isModuleLine,
      name ∈ first.frame.locals.map Prod.fst)

/-- The variables of the first visit to a line outside of all functions. -/
def firstNames (events : List (Event Frame)) : Option (List String) :=
  (events.find? Event.isModuleLine).map fun first => first.frame.locals.map Prod.fst

theorem preexisting_noticeEvent (event : Event Frame) {events : List (Event Frame)}
    (h : s.preexisting = firstNames events) :
    (noticeEvent event s).preexisting = firstNames (events ++ [event]) := by
  rw [firstNames, List.find?_append]
  cases hfirst : events.find? Event.isModuleLine with
  | some first =>
      have hsome : s.preexisting.isSome = true := by simp [h, firstNames, hfirst]
      rw [noticeEvent_eq fun _ => hsome, h, firstNames, hfirst]
      rfl
  | none =>
      have hnone : s.preexisting = none := by rw [h, firstNames, hfirst]; rfl
      cases event with
      | line frame number =>
          by_cases hscope : frame.scope = .module
          · simp [noticeEvent, notice, hscope, hnone, Event.isModuleLine, Event.frame]
          · simp [noticeEvent, notice, hscope, hnone, Event.isModuleLine]
      | leave frame number value => simp [noticeEvent, hnone, Event.isModuleLine]

/-- As long as a run goes on, the variables that were there before the program are those
of the first visit to a line outside of all functions. -/
theorem preexisting_run (t : Tracer) (events : List (Event Frame))
    (h : (t.run .start events).halted = false) :
    (t.run .start events).preexisting = firstNames events := by
  induction events using List.reverseRecOn with
  | nil => rfl
  | append_singleton events event ih =>
      rw [run_append_singleton] at h ⊢
      cases hhalted : (t.run .start events).halted with
      | true =>
          rw [step_of_halted t hhalted, hhalted] at h
          cases h
      | false =>
          have hnotice := preexisting_noticeEvent event (ih hhalted)
          cases hsees : t.sees event with
          | false => rwa [step_unseen hhalted hsees]
          | true =>
              by_cases hlimit : (t.run .start events).time < t.settings.maxSteps
              · rwa [step_below hhalted hsees hlimit, carryOut_preexisting, approach_preexisting]
              · rw [step_beyond hhalted hsees (Nat.not_lt.mp hlimit)] at h
                cases h

/-- What a call hides when an event of it is recorded. -/
theorem hides_iff {events : List (Event Frame)}
    (hrecorded : t.IsRecorded (t.run .start events) event) (name : String) :
    t.hides (t.approach event (t.run .start events)) event.frame name = true ↔
      t.IsHidden (events ++ [event]) event.frame name := by
  obtain ⟨hhalted, -, -⟩ := isRecorded_iff.mp hrecorded
  have hknown := preexisting_noticeEvent event (t.preexisting_run events hhalted)
  rw [← t.approach_preexisting] at hknown
  rw [hides, hknown, firstNames, IsHidden]
  cases (events ++ [event]).find? Event.isModuleLine with
  | none => simp
  | some first => simp

/-! ## What steps show -/

/-- What is in a step from the beginning. -/
def view (step : Step) : Nat × Key × Ordered String (List Char) :=
  (step.time, step.key, step.bindings)

/-- A step is added to its place with the bindings of the call of its event. All other
steps are as they were before. -/
theorem viewsAt_step (t : Tracer) (s : State) (event : Event Frame) (key : Key) :
    ((t.step s event).1.log.stepsAt key).map view = (s.log.stepsAt key).map view ++
      if t.IsRecorded s event ∧ key = place event then
        [(s.time, key, t.bindings (t.approach event s) event.frame)]
      else [] := by
  by_cases hrecorded : t.IsRecorded s event
  · have happroach := (t.approach_marks event s).stepsAt_eq key
    rw [stepsAt_step hrecorded, List.map_append, map_stepsAt_linked view fun _ _ => rfl, happroach]
    by_cases hkey : key = place event
    · subst hkey
      simp [hrecorded, view, recorded, t.approach_time]
    · simp [hkey]
  · rw [(step_marks_of_not_isRecorded hrecorded).stepsAt_eq, if_neg fun hboth => hrecorded hboth.1,
      List.append_nil]

/-- The views of the steps at a place are those of the events that are recorded there. -/
theorem mem_views_run (t : Tracer) (events : List (Event Frame)) (key : Key)
    (seen : Nat × Key × Ordered String (List Char)) :
    seen ∈ ((t.run .start events).log.stepsAt key).map view ↔
      ∃ earlier event later, events = earlier ++ event :: later ∧
        t.IsRecorded (t.run .start earlier) event ∧ key = place event ∧
        seen = ((t.run .start earlier).time, key,
          t.bindings (t.approach event (t.run .start earlier)) event.frame) := by
  induction events using List.reverseRecOn with
  | nil =>
      have hstart : (t.run .start []).log.stepsAt key = [] := rfl
      simp [hstart]
  | append_singleton events last ih =>
      rw [run_append_singleton, viewsAt_step, List.mem_append, ih]
      constructor
      · rintro (⟨earlier, event, later, rfl, hevent⟩ | hlast)
        · exact ⟨earlier, event, later ++ [last], by simp, hevent⟩
        · split at hlast
          · next hboth => exact ⟨events, last, [], rfl, hboth.1, hboth.2, List.mem_singleton.mp hlast⟩
          · cases hlast
      · rintro ⟨earlier, event, later, hevents, hrecorded, hkey, hseen⟩
        rcases List.eq_nil_or_concat later with rfl | ⟨rest, last', rfl⟩
        · obtain ⟨rfl, hsingle⟩ := List.append_inj' hevents rfl
          obtain rfl := (List.cons.inj hsingle).1
          exact .inr (by rw [if_pos ⟨hrecorded, hkey⟩]; exact List.mem_singleton.mpr hseen)
        · have hrest : events ++ [last] = (earlier ++ event :: rest) ++ [last'] := by
            simpa using hevents
          exact .inl ⟨earlier, event, rest, (List.append_inj' hrest rfl).1, hrecorded, hkey, hseen⟩

end Tracer

/-- The steps of a log are those at its places. -/
theorem Log.mem_steps {log : Log} {step : Step} :
    step ∈ log.steps ↔ ∃ key, step ∈ log.stepsAt key := by
  rw [steps, List.mem_mergeSort, filterMap_records, List.mem_flatMap]
  exact ⟨fun ⟨key, _, hstep⟩ => ⟨key, hstep⟩,
    fun ⟨key, hstep⟩ => ⟨key, mem_keys_of_mem_stepsAt hstep, hstep⟩⟩

namespace Tracer

variable {t : Tracer} {earlier : List (Event Frame)} {event : Event Frame} {step : Step}

/-- Whether a step is the one of an event behind earlier ones, and shows the local
variables of its call. -/
structure Presents (t : Tracer) (earlier : List (Event Frame)) (event : Event Frame)
    (step : Step) : Prop where
  time : step.time = (t.run .start earlier).time
  key : step.key = place event
  shows : Shows t.format (t.IsHidden (earlier ++ [event]) event.frame) event.frame.locals
    step.bindings

/-- A step with the bindings of the call of its event shows its local variables. -/
theorem presents_of_view (hrecorded : t.IsRecorded (t.run .start earlier) event)
    (hview : view step = ((t.run .start earlier).time, place event,
      t.bindings (t.approach event (t.run .start earlier)) event.frame)) :
    t.Presents earlier event step := by
  obtain ⟨htime, hkey, hbindings⟩ : step.time = (t.run .start earlier).time ∧
      step.key = place event ∧
      step.bindings = t.bindings (t.approach event (t.run .start earlier)) event.frame := by
    simpa [view] using hview
  have hhidden : (fun name => t.hides (t.approach event (t.run .start earlier)) event.frame name =
      true) = t.IsHidden (earlier ++ [event]) event.frame :=
    funext fun name => propext (hides_iff hrecorded name)
  have hshows := t.shows_bindings (t.approach event (t.run .start earlier)) event.frame
  rw [hhidden, ← hbindings] at hshows
  exact ⟨htime, hkey, hshows⟩

/-- The steps of a run show the local variables of the calls whose events are recorded:
each step those of one event, and each event in one step. -/
theorem variables_shown (t : Tracer) (events : List (Event Frame)) :
    (∀ step ∈ (t.run .start events).log.steps,
      ∃ earlier event later, events = earlier ++ event :: later ∧
        t.IsRecorded (t.run .start earlier) event ∧ t.Presents earlier event step) ∧
    ∀ earlier event later, events = earlier ++ event :: later →
      t.IsRecorded (t.run .start earlier) event →
        ∃ step ∈ (t.run .start events).log.steps, t.Presents earlier event step := by
  constructor
  · intro step hstep
    obtain ⟨key, hkey⟩ := Log.mem_steps.mp hstep
    obtain ⟨earlier, event, later, hevents, hrecorded, rfl, hview⟩ :=
      (t.mem_views_run events key (view step)).mp (List.mem_map_of_mem hkey)
    exact ⟨earlier, event, later, hevents, hrecorded, presents_of_view hrecorded hview⟩
  · intro earlier event later hevents hrecorded
    have hseen := (t.mem_views_run events (place event) _).mpr
      ⟨earlier, event, later, hevents, hrecorded, rfl, rfl⟩
    obtain ⟨step, hstep, hview⟩ := List.mem_map.mp hseen
    exact ⟨step, Log.mem_steps.mpr ⟨_, hstep⟩, presents_of_view hrecorded hview⟩

/-- A program of one statement. -/
def assigning : Tracer := ⟨.ofText "b = 2\n".toList, .standard, .standard⟩

/-- Code that is not the program runs first, and fixes which variables were there before. -/
def assigningEvents : List (Event Frame) :=
  [.line ⟨7, "<module>", "<frozen>", [("injected", .int 7)]⟩ 3,
    .line ⟨1, "<module>", "<string>", [("injected", .int 7)]⟩ 1]

/-- The end of the program, where `b` has had two texts and then a value without one. -/
def assigningEnd : Event Frame :=
  .leave ⟨1, "<module>", "<string>", [("injected", .int 8), ("b", .int 1),
    (assigning.settings.reserved, .int 0), ("a", .bool true), ("b", .int 2),
    ("b", .function "b")]⟩ 1 .none

/-- The name `b` stands at its first place with its last text. -/
theorem variables_shown_assigning :
    assigning.IsRecorded (assigning.run .start assigningEvents) assigningEnd ∧
      ∃ step ∈ (assigning.run .start (assigningEvents ++ [assigningEnd])).log.steps,
        step.bindings.entries = [("b", ['2']), ("a", "True".toList)] ∧
        assigning.Presents assigningEvents assigningEnd step ∧
        ∃ earlier event later, assigningEvents ++ [assigningEnd] = earlier ++ event :: later ∧
          assigning.IsRecorded (assigning.run .start earlier) event ∧
          assigning.Presents earlier event step := by
  have hrecorded : assigning.IsRecorded (assigning.run .start assigningEvents) assigningEnd := by
    decide +kernel
  have hsecond : ∀ step ∈ (assigning.run .start
      (assigningEvents ++ [assigningEnd])).log.records.filterMap Record.step?,
      step.time = (assigning.run .start assigningEvents).time →
        step.bindings.entries = [("b", ['2']), ("a", "True".toList)] := by
    decide +kernel
  obtain ⟨hsteps, hevents⟩ := assigning.variables_shown (assigningEvents ++ [assigningEnd])
  obtain ⟨step, hstep, hpresents⟩ := hevents assigningEvents assigningEnd [] rfl hrecorded
  exact ⟨hrecorded, step, hstep, hsecond step (List.mem_mergeSort.mp hstep) hpresents.time,
    hpresents, hsteps step hstep⟩

end Tracer

end Trace

end Stepwise
