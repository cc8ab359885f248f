import Stepwise.Proofs.ReadArtifact

/-!
# Names of members in a trace

The object of a step is flat. The texts of the variables stand in it under their
own names, between the members for its time, its loops, its place, the places of
its neighbours and its value. Which of these there are is not the same for all
steps. A variable may have the name of one that is there, as nothing in the
tracer keeps them apart, and then the object has two members with that name and
an ordinary reader only sees the last one.

Nothing else makes a name come twice. The names of places are distinct since a
place can be told from its name, the variables of a step are distinct by type,
and marks have no variables.

## Main results

* `Log.objects_nodup_iff`: when all objects in the text of a log have distinct
  names.
* `memberNames_nodup_iff`: when they have in the text of a trace.
* `not_forall_memberNames_nodup`: they have not always.
-/

namespace Stepwise

namespace Json

/-! ## The objects in a tree -/

mutual

/-- The members of every object in a tree, outer ones first. -/
def objects : Json → List (List (Option String × Json))
  | array items => allObjects items
  | object members => members :: memberObjects members
  | _ => []

/-- `objects` on items. -/
def allObjects : List Json → List (List (Option String × Json))
  | [] => []
  | j :: items => objects j ++ allObjects items

/-- `objects` on members. -/
def memberObjects : List (Option String × Json) → List (List (Option String × Json))
  | [] => []
  | (_, j) :: members => objects j ++ memberObjects members

end

theorem objects_array (items : List Json) : (array items).objects = items.flatMap objects := by
  show allObjects items = _
  induction items with
  | nil => rfl
  | cons j rest ih => rw [allObjects, List.flatMap_cons, ih]

theorem objects_record (members : List (String × Json)) :
    (record members).objects =
      (members.map fun member => (some member.1, member.2)) ::
        members.flatMap fun member => member.2.objects := by
  show _ :: memberObjects _ = _
  refine congrArg _ ?_
  induction members with
  | nil => rfl
  | cons member rest ih => rw [List.map_cons, memberObjects, List.flatMap_cons, ih]

/-- What has no depth has no objects. -/
theorem Fits.objects_eq_nil {j : Json} (h : Fits 0 j) : j.objects = [] := by
  have hdepth := h.depth_le
  cases j with
  | array items => exact absurd hdepth (Nat.not_succ_le_zero _)
  | object members => exact absurd hdepth (Nat.not_succ_le_zero _)
  | _ => rfl

/-- A record of simple items is the only object in it. -/
theorem objects_record_of_fits {members : List (String × Json)}
    (h : ∀ member ∈ members, Fits 0 member.2) :
    (record members).objects = [members.map fun member => (some member.1, member.2)] := by
  have hnone : (members.flatMap fun member => member.2.objects) = [] := by
    rw [List.flatMap_eq_nil_iff]
    exact fun member hmember => (h member hmember).objects_eq_nil
  rw [objects_record, hnone]

/-- Whether all members of an object have distinct names. -/
def HasDistinctNames (members : List (Option String × Json)) : Prop :=
  (members.map Prod.fst).Nodup

theorem hasDistinctNames_map_iff {members : List (String × Json)} :
    HasDistinctNames (members.map fun member => (some member.1, member.2)) ↔
      (members.map Prod.fst).Nodup := by
  have hnames : (members.map fun member => (some member.1, member.2)).map Prod.fst =
      (members.map Prod.fst).map some := by
    rw [List.map_map, List.map_map]
    rfl
  rw [HasDistinctNames, hnames]
  exact List.nodup_map_iff (Option.some_injective String)

/-- What an ordinary reader finds under a name, where a later member replaces an
earlier one. -/
def lastItem? (name : String) (members : List (Option String × Json)) : Option Json :=
  members.reverse.lookup (some name)

/-- If the names are distinct, then an ordinary reader finds every member. -/
theorem lastItem?_of_mem {members : List (String × Json)} (h : (members.map Prod.fst).Nodup)
    {name : String} {j : Json} (hmember : (name, j) ∈ members) :
    lastItem? name (members.map fun member => (some member.1, member.2)) = some j := by
  have hreverse : (members.reverse.map Prod.fst).Nodup := by
    rw [List.map_reverse]
    exact List.nodup_reverse.mpr h
  rw [lastItem?, ← List.map_reverse]
  replace hmember : (name, j) ∈ members.reverse := List.mem_reverse.mpr hmember
  generalize members.reverse = items at hreverse hmember
  induction items with
  | nil => simp at hmember
  | cons item rest ih =>
      obtain ⟨hfirst, hrest⟩ := List.nodup_cons.mp hreverse
      rcases List.mem_cons.mp hmember with rfl | hbehind
      · simp
      · have hne : item.1 ≠ name := by
          rintro rfl
          exact hfirst (List.mem_map.mpr ⟨_, hbehind, rfl⟩)
        rw [List.map_cons, List.lookup_cons, beq_false_of_ne (by simpa using Ne.symm hne)]
        exact ih hrest hbehind

end Json

namespace Trace

open Stepwise.Text

/-! ## Steps -/

namespace Step

variable (s : Step)

/-- The members of a step as they are read. -/
def object : List (Option String × Json) :=
  s.members.map fun member => (some member.1, member.2)

/-- The names of those members of a step that are no variables. -/
def ownNames : List String := (s.firstMembers ++ s.lastMembers).map Prod.fst

/-- Whether no variable of a step has the name of another member of it. -/
def KeepsApart : Prop := ∀ name ∈ s.bindings.keys, name ∉ s.ownNames

instance : Decidable s.KeepsApart :=
  inferInstanceAs (Decidable (∀ name ∈ s.bindings.keys, name ∉ s.ownNames))

theorem map_fst_optional (name : String) (value : Option Json) :
    (optional name value).map Prod.fst = if value.isSome then [name] else [] := by
  cases value <;> rfl

/-- The members that are no variables are in a fixed order and have distinct
names. -/
theorem ownNames_nodup : s.ownNames.Nodup := by
  have hsublist : s.ownNames.Sublist memberNames := by
    simp only [ownNames, firstMembers, lastMembers, Loops.members, memberNames, List.map_append,
      List.map_cons, List.map_nil, map_fst_optional, Option.isSome_map]
    generalize s.previous.isSome = hasPrevious
    generalize s.next.isSome = hasNext
    generalize s.returned.isSome = hasReturned
    decide +revert
  exact hsublist.nodup (by decide)

theorem shownMembers_names : s.shownMembers.map Prod.fst = s.bindings.keys := by
  rw [shownMembers, List.map_map]
  rfl

/-- The names in a step are distinct exactly if its variables are kept apart. -/
theorem members_nodup_iff : (s.members.map Prod.fst).Nodup ↔ s.KeepsApart := by
  have hperm : (s.members.map Prod.fst).Perm (s.bindings.keys ++ s.ownNames) := by
    rw [members, ownNames, List.map_append, List.map_append, List.map_append, shownMembers_names,
      List.append_assoc]
    exact List.perm_append_comm_assoc _ _ _
  rw [hperm.nodup_iff, List.nodup_append]
  constructor
  · rintro ⟨-, -, hapart⟩ name hname hown
    exact hapart name hname name hown rfl
  · intro h
    refine ⟨s.bindings.nodup, s.ownNames_nodup, ?_⟩
    rintro name hname _ hown rfl
    exact h name hname hown

end Step

/-! ## Records and logs -/

/-- A record is one object, and its names are distinct exactly if it is no step
with variables that are not kept apart. -/
theorem Record.objects_nodup_iff {record : Record}
    (h : ∀ step, record = .step step → step.IsSized) :
    (∀ members ∈ record.toJson.objects, Json.HasDistinctNames members) ↔
      ∀ step ∈ record.step?, step.KeepsApart := by
  have hmark : ∀ {name : String} (loops : Loops), name ≠ "#" → name ≠ "$" →
      ∀ members ∈ (markToJson name loops).objects, Json.HasDistinctNames members := by
    intro name loops hiterations hheaders members hmembers
    rw [markToJson, Json.objects_record_of_fits, List.mem_singleton] at hmembers
    · rw [hmembers, Json.hasDistinctNames_map_iff]
      simp [Loops.members, hiterations, hheaders]
    · intro member hmember
      simp only [Loops.members, List.mem_cons, List.not_mem_nil, or_false] at hmember
      rcases hmember with rfl | rfl | rfl <;> exact Json.fits_text _
  cases record with
  | step s =>
      rw [toJson, s.toJson_eq, Json.objects_record_of_fits (Step.fits_members (h s rfl))]
      simp [Json.hasDistinctNames_map_iff, s.members_nodup_iff, step?]
  | beginLoop loops =>
      exact iff_of_true (hmark loops (by decide) (by decide)) (by simp [step?])
  | endLoop loops =>
      exact iff_of_true (hmark loops (by decide) (by decide)) (by simp [step?])

namespace Log

variable {log : Log}

/-- Whether no variable in a log has the name of another member of its step. -/
def KeepsApart (log : Log) : Prop :=
  ∀ bucket ∈ log.buckets.entries, ∀ record ∈ bucket.2, ∀ step ∈ record.step?, step.KeepsApart

instance : Decidable log.KeepsApart :=
  inferInstanceAs (Decidable (∀ bucket ∈ log.buckets.entries, ∀ record ∈ bucket.2,
    ∀ step ∈ record.step?, step.KeepsApart))

theorem mem_steps_iff {step : Step} :
    step ∈ log.steps ↔
      ∃ bucket ∈ log.buckets.entries, ∃ record ∈ bucket.2, step ∈ record.step? := by
  simp only [steps, records, List.mem_mergeSort, List.mem_filterMap, List.mem_flatMap,
    Option.mem_def]
  constructor
  · rintro ⟨record, ⟨bucket, hbucket, hrecord⟩, hstep⟩
    exact ⟨bucket, hbucket, record, hrecord, hstep⟩
  · rintro ⟨bucket, hbucket, record, hrecord, hstep⟩
    exact ⟨record, ⟨bucket, hbucket, hrecord⟩, hstep⟩

theorem keepsApart_iff : log.KeepsApart ↔ ∀ step ∈ log.steps, step.KeepsApart := by
  constructor
  · intro h step hstep
    obtain ⟨bucket, hbucket, record, hrecord, hmem⟩ := mem_steps_iff.mp hstep
    exact h bucket hbucket record hrecord step hmem
  · intro h bucket hbucket record hrecord step hmem
    exact h step (mem_steps_iff.mpr ⟨bucket, hbucket, record, hrecord, hmem⟩)

/-- The objects of a log are itself and those of its records. -/
theorem objects_toJson (log : Log) :
    log.toJson.objects =
      (log.buckets.entries.map fun bucket =>
        (some (String.ofList bucket.1.name), Json.array (bucket.2.map Record.toJson))) ::
          log.buckets.entries.flatMap fun bucket =>
            bucket.2.flatMap fun record => record.toJson.objects := by
  rw [toJson, Json.objects_record, List.map_map, List.flatMap_map]
  refine congrArg₂ _ rfl (List.flatMap_congr fun bucket _ => ?_)
  rw [Json.objects_array, List.flatMap_map]

/-- Places have distinct names. -/
theorem places_nodup (log : Log) :
    Json.HasDistinctNames (log.buckets.entries.map fun bucket =>
      (some (String.ofList bucket.1.name), Json.array (bucket.2.map Record.toJson))) := by
  have hname : Function.Injective fun key : Key => some (String.ofList key.name) := by
    intro key other heq
    have hlist := congrArg String.toList (Option.some.inj heq)
    rw [String.toList_ofList, String.toList_ofList] at hlist
    rw [← key.ofName_name, hlist, other.ofName_name]
  have hkeys := (List.nodup_map_iff hname).mpr log.buckets.nodup
  rw [List.map_map] at hkeys
  rw [Json.HasDistinctNames, List.map_map]
  exact hkeys

theorem read_toText (h : log.IsSized) : (Json.read log.toText).root = log.toJson := by
  have hfits := fits_toJson h
  rw [toText, Json.read_write hfits.isExact (hfits.depth_le.trans (by decide))]

/-- All objects in the text of a log have distinct names exactly if variables
are kept apart from the other members of their steps. -/
theorem objects_nodup_iff (h : log.IsSized) :
    (∀ members ∈ (Json.read log.toText).root.objects, Json.HasDistinctNames members) ↔
      log.KeepsApart := by
  rw [read_toText h, objects_toJson, List.forall_mem_cons, and_iff_right log.places_nodup]
  have hrecord : ∀ bucket ∈ log.buckets.entries, ∀ record ∈ bucket.2,
      ((∀ members ∈ record.toJson.objects, Json.HasDistinctNames members) ↔
        ∀ step ∈ record.step?, step.KeepsApart) := by
    intro bucket hbucket record hrecord
    refine Record.objects_nodup_iff ?_
    rintro step rfl
    exact h bucket hbucket step hrecord
  constructor
  · intro hall bucket hbucket record hmem
    refine (hrecord bucket hbucket record hmem).mp fun members hmembers => hall members ?_
    exact List.mem_flatMap.mpr ⟨bucket, hbucket, List.mem_flatMap.mpr ⟨record, hmem, hmembers⟩⟩
  · intro hall members hmembers
    obtain ⟨bucket, hbucket, hbehind⟩ := List.mem_flatMap.mp hmembers
    obtain ⟨record, hmem, hobject⟩ := List.mem_flatMap.mp hbehind
    exact (hrecord bucket hbucket record hmem).mpr (hall bucket hbucket record hmem) members hobject

/-- The members of a step are an object in the text. -/
theorem object_mem_objects (h : log.IsSized) {step : Step} (hstep : step ∈ log.steps) :
    step.object ∈ (Json.read log.toText).root.objects := by
  obtain ⟨bucket, hbucket, record, hrecord, hmem⟩ := mem_steps_iff.mp hstep
  obtain rfl : record = .step step := by
    cases record with
    | step s => exact congrArg Record.step (Option.some.inj hmem)
    | beginLoop loops => cases hmem
    | endLoop loops => cases hmem
  rw [read_toText h, objects_toJson]
  refine List.mem_cons_of_mem _ (List.mem_flatMap.mpr ⟨bucket, hbucket, ?_⟩)
  refine List.mem_flatMap.mpr ⟨.step step, hrecord, ?_⟩
  rw [Record.toJson, step.toJson_eq, Json.objects_record]
  exact List.mem_cons_self

end Log

namespace Tracer

open Stepwise.Run

/-- All objects in the text of a trace have distinct names exactly if no step
shows a variable with the name of one of its other members: `time`, `#`, `$`,
`lineno`, or, where there is one, `prev_lineno`, `next_lineno` or `rv`. The
object of a step that shows none is read by an ordinary reader as it is: its own
members and all its variables are found under their names. -/
theorem memberNames_nodup_iff (t : Tracer) (hlimit : IsSized t.settings.maxSteps)
    (events : List (Event Frame)) :
    ((∀ members ∈ (Json.read (t.run .start events).log.toText).root.objects,
        Json.HasDistinctNames members) ↔
      ∀ step ∈ (t.run .start events).log.steps, step.KeepsApart) ∧
    ∀ step ∈ (t.run .start events).log.steps,
      step.object ∈ (Json.read (t.run .start events).log.toText).root.objects ∧
        (step.KeepsApart → ∀ name j, (name, j) ∈ step.members →
          Json.lastItem? name step.object = some j) := by
  have hsized := t.isSized_run hlimit events
  refine ⟨(Log.objects_nodup_iff hsized).trans Log.keepsApart_iff, fun step hstep => ?_⟩
  refine ⟨Log.object_mem_objects hsized hstep, fun hapart name j hmember => ?_⟩
  exact Json.lastItem?_of_mem (step.members_nodup_iff.mpr hapart) hmember

/-- A program with a variable that has the name of a member. -/
def clock : Tracer := ⟨.ofText "time = 5\nx = time\n".toList, .standard, .standard⟩

/-- Both lines of the program. -/
def clockEvents : List (Event Frame) :=
  [.line ⟨1, "<module>", "<string>", []⟩ 1, .line ⟨1, "<module>", "<string>", [("time", .int 5)]⟩ 2]

/-- The names are distinct as long as the variable is not bound. -/
theorem memberNames_nodup_clock :
    IsSized clock.settings.maxSteps ∧
      (∀ members ∈ (Json.read (clock.run .start (clockEvents.take 1)).log.toText).root.objects,
        Json.HasDistinctNames members) ∧
      ¬ ∀ members ∈ (Json.read (clock.run .start clockEvents).log.toText).root.objects,
        Json.HasDistinctNames members := by
  have hlimit : IsSized clock.settings.maxSteps := by decide
  have happart : (clock.run .start (clockEvents.take 1)).log.KeepsApart := by decide +kernel
  have hclash : ¬ (clock.run .start clockEvents).log.KeepsApart := by decide +kernel
  refine ⟨hlimit, ?_, fun hall => hclash ?_⟩
  · exact (clock.memberNames_nodup_iff hlimit (clockEvents.take 1)).1.mpr
      (Log.keepsApart_iff.mp happart)
  · exact Log.keepsApart_iff.mpr ((clock.memberNames_nodup_iff hlimit clockEvents).1.mp hall)

/-- The names are not always distinct: the second step has two members with the
name `time`. -/
theorem not_forall_memberNames_nodup :
    ¬ ∀ (t : Tracer), IsSized t.settings.maxSteps → ∀ events : List (Event Frame),
      ∀ members ∈ (Json.read (t.run .start events).log.toText).root.objects,
        Json.HasDistinctNames members := by
  intro h
  have hlimit : IsSized clock.settings.maxSteps := by decide
  have hclash : ¬ (clock.run .start clockEvents).log.KeepsApart := by decide +kernel
  exact hclash ((Log.objects_nodup_iff (clock.isSized_run hlimit clockEvents)).mp
    (h clock hlimit clockEvents))

end Tracer

end Trace

end Stepwise
