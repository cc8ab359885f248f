import Stepwise.Trace.Tracer
import Stepwise.Proofs.LoopBody

/-!
# Trails

A trail is what the records of a place say about time and loops. It forgets
the variables that a step shows and the places in front of and behind it. What
it forgets is all that a tracer ever changes in a record it has made, so a
trail only grows, and every operation of the tracer says what it adds.

## Main results

* `trail_record`, `trail_beginLoop`, `trail_markEnd`: what a step, the
  beginning and the end of a loop add to the trail of a place.
-/

namespace Stepwise

namespace Ordered

variable {κ α : Type} [DecidableEq κ]

theorem lookup_modify (m : Ordered κ α) (key other : κ) (f : α → α) :
    (m.modify key f).lookup other =
      if other = key then (m.lookup key).map f else m.lookup other := by
  unfold modify
  cases h : m.lookup key with
  | none =>
      by_cases hk : other = key
      · simp [hk, h]
      · simp [hk]
  | some a =>
      by_cases hk : other = key
      · simp [hk, insert, lookup_update]
      · simp [hk, insert, lookup_update_ne]

end Ordered

namespace Trace

open Stepwise.Run

/-- Loops with another one inside of them. -/
def Loops.inside (around : Loops) (header iteration : Nat) : Loops :=
  ⟨around.iterations ++ [iteration], around.headers ++ [header]⟩

theorem loopsOf_cons (top : Loop) (outer : List Loop) :
    loopsOf (top :: outer) = (loopsOf outer).inside top.header top.iteration := by
  simp [loopsOf, Loops.inside]

/-- What a record says about time and loops. -/
inductive Entry where
  | step (time : Nat) (loops : Loops)
  | beginLoop (loops : Loops)
  | endLoop (loops : Loops)
  deriving DecidableEq

/-- The entry of a record. -/
def Record.entry : Record → Entry
  | step s => .step s.time s.loops
  | beginLoop loops => .beginLoop loops
  | endLoop loops => .endLoop loops

namespace Log

variable (log : Log)

/-- The trail of a place, oldest first. -/
def trail (key : Key) : List Entry := (log.at_ key).map Record.entry

theorem trail_push (key other : Key) (record : Record) :
    (log.push key record).trail other =
      log.trail other ++ if other = key then [record.entry] else [] := by
  by_cases h : other = key
  · subst h
    simp [trail, at_push]
  · simp [trail, at_push_ne _ _ h, h]

theorem trail_pushAll {lines : List Nat} (record : Record) (n : Nat) (hlines : lines.Nodup) :
    (log.pushAll lines record).trail (.line n) =
      log.trail (.line n) ++ if n ∈ lines then [record.entry] else [] := by
  induction lines generalizing log with
  | nil => simp [pushAll]
  | cons m rest ih =>
      obtain ⟨hm, hrest⟩ := List.nodup_cons.mp hlines
      have hpush := ih (log.push (.line m) record) hrest
      simp only [pushAll, List.foldl_cons] at hpush ⊢
      rw [hpush, trail_push]
      by_cases h : n = m
      · subst h
        simp [hm]
      · simp [h]

/-- The marks of loops are on lines and nowhere else. -/
theorem trail_pushAll_leave (lines : List Nat) (record : Record) (n : Nat) :
    (log.pushAll lines record).trail (.leave n) = log.trail (.leave n) := by
  induction lines generalizing log with
  | nil => rfl
  | cons m rest ih =>
      have hpush := ih (log.push (.line m) record)
      simp only [pushAll, List.foldl_cons] at hpush ⊢
      rw [hpush, trail_push]
      simp

/-- What a change of a step leaves alone is the same at all places. -/
theorem map_at_modifyStep {β : Type} (view : Record → β) (key other : Key) (index : Nat)
    {f : Step → Step} (hf : ∀ record : Record, view (record.mapStep f) = view record) :
    ((log.modifyStep key index f).at_ other).map view = (log.at_ other).map view := by
  simp only [at_, modifyStep, Ordered.lookup_modify]
  split
  · next h =>
      subst h
      cases hat : log.buckets.lookup other with
      | none => rfl
      | some records =>
          simp only [Option.map_some, Option.getD_some]
          apply List.ext_getElem?
          intro i
          simp only [List.getElem?_map, List.getElem?_modify]
          cases records[i]? with
          | none => rfl
          | some record =>
              simp only [Option.map_some]
              split <;> simp [hf]
  · rfl

theorem trail_modifyStep (key other : Key) (index : Nat) {f : Step → Step}
    (hf : ∀ s, (Record.step (f s)).entry = (Record.step s).entry) :
    (log.modifyStep key index f).trail other = log.trail other := by
  refine log.map_at_modifyStep Record.entry key other index fun record => ?_
  cases record with
  | step s => exact hf s
  | beginLoop loops => rfl
  | endLoop loops => rfl

end Log

namespace Tracer

variable (t : Tracer)

theorem trail_record (frame : Frame) (key other : Key) (returned : Option (List Char))
    (s : State) :
    (t.record frame key returned s).log.trail other =
      s.log.trail other ++ if other = key then [.step s.time (loopsOf s.loops)] else [] := by
  simp only [record, Log.trail_push]
  congr 1
  split
  · exact Log.trail_modifyStep _ _ _ _ fun _ => rfl
  · rfl

theorem trail_beginLoop (context : UInt64) (line n : Nat) (s : State) :
    (t.beginLoop context line s).log.trail (.line n) =
      s.log.trail (.line n) ++ if n ∈ t.source.loopBody line then
        [.beginLoop (loopsOf (⟨context, line, 0⟩ :: s.loops))] else [] :=
  Log.trail_pushAll _ _ n (t.source.nodup_loopBody line)

theorem trail_markEnd (counted : Bool) (top : Loop) (outer : List Loop) (log : Log) (n : Nat) :
    (t.markEnd counted top outer log).trail (.line n) =
      log.trail (.line n) ++ if n ∈ t.source.loopBody top.header then
        [.endLoop (loopsOf ({ top with
          iteration := if counted then top.iteration + 1 else top.iteration } :: outer))]
        else [] := by
  unfold markEnd
  rw [Log.trail_pushAll _ _ n (t.source.nodup_loopBody top.header)]
  cases counted with
  | false => rfl
  | true => rfl

end Tracer

end Trace

end Stepwise
