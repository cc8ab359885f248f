import Stepwise.Json.Write
import Stepwise.Trace.Record

/-!
# Trace logs

The records of a trace by place. Places come in the order in which they were
first recorded, and the records of a place from the oldest to the latest.

## Main results

* `at_push`, `at_push_ne`: a new record comes last at its place and changes
  nothing elsewhere.
* `modifyStep_push`: a step that has just been recorded can still be changed.
-/

namespace Stepwise.Trace

/-- The records of a trace by place. -/
structure Log where
  buckets : Ordered Key (List Record)

namespace Log

/-- The log without records. -/
def empty : Log := ⟨.empty⟩

variable (log : Log)

/-- The records of a place. -/
def at_ (key : Key) : List Record := (log.buckets.lookup key).getD []

/-- The log with one more record. -/
def push (key : Key) (record : Record) : Log :=
  ⟨log.buckets.update key fun records => records.getD [] ++ [record]⟩

/-- The log with the same record for each of several lines. -/
def pushAll (lines : List Nat) (record : Record) : Log :=
  lines.foldl (fun log n => log.push (.line n) record) log

/-- The log with a step changed, which is the record with number `index` at
its place. -/
def modifyStep (key : Key) (index : Nat) (f : Step → Step) : Log :=
  ⟨log.buckets.modify key fun records => records.modify index (Record.mapStep f)⟩

theorem at_push (key : Key) (record : Record) :
    (log.push key record).at_ key = log.at_ key ++ [record] := by
  simp [at_, push, Ordered.lookup_update]

theorem at_push_ne {key other : Key} (record : Record) (h : other ≠ key) :
    (log.push key record).at_ other = log.at_ other := by
  simp [at_, push, Ordered.lookup_update_ne _ _ h]

/-- A step whose number is that of the records which were at its place before is
changed as if it had been recorded so. -/
theorem modifyStep_push (key : Key) (step : Step) (f : Step → Step) :
    (log.push key (.step step)).modifyStep key (log.at_ key).length f =
      log.push key (.step (f step)) := by
  have hlast : ∀ records : List Record,
      (records ++ [Record.step step]).modify records.length (Record.mapStep f) =
        records ++ [.step (f step)] := by
    intro records
    induction records with
    | nil => rfl
    | cons record rest ih => exact congrArg (List.cons record) ih
  unfold modifyStep push
  rw [Ordered.modify_update]
  exact congrArg Log.mk (log.buckets.update_congr (hlast (log.at_ key)))

/-- Whether there are no records. -/
def isEmpty : Bool := log.buckets.isEmpty

/-- All records, by place. -/
def records : List Record := log.buckets.entries.flatMap Prod.snd

/-- The number of steps. -/
def stepCount : Nat := (log.records.filter fun record => !record.isMark).length

/-- All steps in the order in which they were taken. -/
def steps : List Step :=
  (log.records.filterMap Record.step?).mergeSort fun s t => decide (s.time ≤ t.time)

/-- What a log has more than an earlier one: the places that have new records,
and these records. -/
def since (earlier : Log) : List (Key × List Record) :=
  (log.buckets.entries.map fun bucket =>
    (bucket.1, bucket.2.drop (earlier.at_ bucket.1).length)).filter
      fun bucket => !bucket.2.isEmpty

/-- A log in JSON. -/
def toJson : Json :=
  .record (log.buckets.entries.map fun bucket =>
    (String.ofList bucket.1.name, .array (bucket.2.map Record.toJson)))

/-- A log as JSON text. -/
def toText : List Char := log.toJson.write

end Log

end Stepwise.Trace
