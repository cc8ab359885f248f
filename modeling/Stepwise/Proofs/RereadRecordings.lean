import Stepwise.Proofs.KeptRecordings

/-!
# Which recordings can be read back

Every recording is written, and not every one can be read from its text. A double
that is not finite is written as `null`, and where a double has to stand `null` is
refused. This is all that goes wrong: from the text of a finite double a double is
read, and nothing else in a recording can be refused. So a recording is read back if
and only if all doubles in it are finite, wherever they are nested.

A reader stops at the first thing it refuses, and all that can be refused here has
the same reason. This makes the proof an induction on the recording in which the
outcome of a whole depends only on whether its parts are finite.

## Main results

* `Value.outcome_reread`: a value is read from its text if and only if it is finite.
* `readable_iff_isFinite`: so is a recording, and otherwise it is known why not.
* `not_forall_readable`: there are recordings that cannot be read back.
-/

namespace Stepwise

open Stepwise.Json

namespace Json

/-! ## Outcomes -/

/-- The reason why `null` is no double. -/
def nullForDouble : ReadError := .mismatch (.invalidType (.item .null) "f64")

/-- What comes of reading something whose doubles are all finite, or not. -/
inductive Outcome {α : Type} : (isFinite : Bool) → Result α → Prop where
  | found (a : α) : Outcome true (.ok a)
  | refused : Outcome false (.error nullForDouble)

namespace Outcome

variable {α β : Type} {b c : Bool} {r : Result α}

theorem map (h : Outcome b r) (f : α → β) : Outcome b (r.map f) := by
  cases h with
  | found a => exact .found (f a)
  | refused => exact .refused

/-- Two things are read one after the other. -/
theorem bind {f : α → Result β} (h : Outcome b r) (hrest : ∀ a, Outcome c (f a)) :
    Outcome (b && c) (r >>= f) := by
  cases h with
  | found a => exact hrest a
  | refused => exact .refused

/-- Several things are read one after the other. -/
theorem mapM {γ : Type} {isFinite : α → Bool} {write : α → γ} {read : γ → Result β}
    {items : List α} (h : ∀ a ∈ items, Outcome (isFinite a) (read (write a))) :
    Outcome (items.all isFinite) ((items.map write).mapM read) := by
  induction items with
  | nil => exact .found []
  | cons a rest ih =>
      have hrest := ih fun a' ha' => h a' (List.mem_cons_of_mem _ ha')
      rw [List.map_cons, List.mapM_cons, List.all_cons]
      exact (h a List.mem_cons_self).bind fun first => hrest.map (first :: ·)

theorem exists_ok_iff (h : Outcome b r) : (∃ a, r = .ok a) ↔ b = true := by
  cases h with
  | found a => exact ⟨fun _ => rfl, fun _ => ⟨a, rfl⟩⟩
  | refused =>
      refine ⟨?_, Bool.noConfusion⟩
      rintro ⟨a, hok⟩
      cases hok

theorem eq_error (h : Outcome false r) : r = .error nullForDouble := by
  cases h
  rfl

end Outcome

/-- From the text of a double a double is read if and only if it is finite. -/
theorem outcome_asDouble (x : Numeric.Binary64) :
    Outcome x.isFinite (asDouble (Number.float x).reread) := by
  cases hfinite : x.isFinite with
  | true =>
      obtain ⟨y, hy⟩ := Number.reread_float hfinite
      rw [hy]
      exact .found y
  | false =>
      rw [Number.reread_float_of_not_finite hfinite]
      exact .refused

/-- There is no damage in what is read from the text of a double. -/
theorem isSound_reread_float (x : Numeric.Binary64) : (Number.float x).reread.isSound = true := by
  cases hfinite : x.isFinite with
  | true =>
      obtain ⟨y, hy⟩ := Number.reread_float hfinite
      rw [hy]
      rfl
  | false =>
      rw [Number.reread_float_of_not_finite hfinite]
      rfl

end Json

namespace Value

/-! ## Values -/

mutual

/-- Whether all doubles in a value are finite. -/
def isFinite : Value → Bool
  | float x => x.isFinite
  | list items | tuple items | set items => allFinite items
  | dict pairs => pairsFinite pairs
  | none | bool _ | int _ | str _ | function _ | module _ | object _ _ => true

/-- `isFinite` on lists. -/
def allFinite : List Value → Bool
  | [] => true
  | v :: items => isFinite v && allFinite items

/-- `isFinite` on lists of pairs. -/
def pairsFinite : List (Value × Value) → Bool
  | [] => true
  | (k, v) :: pairs => isFinite k && isFinite v && pairsFinite pairs

end

mutual

/-- A value is read from its text if and only if it is finite, wherever it stands. -/
theorem outcome_reread (blank : Blankness) : (v : Value) →
    Outcome v.isFinite (ofJson blank v.toJson.reread)
  | none => .found none
  | bool b => .found (bool b)
  | int n => by
      show Outcome true ((asInteger (Json.number (.int n.toInt)).reread).map Value.int)
      rw [reread_of_isExact _ (isExact_toInt n), asInteger_toInt]
      exact .found (int n)
  | float x => by
      show Outcome x.isFinite ((asDouble (Number.float x).reread).map Value.float)
      exact (outcome_asDouble x).map Value.float
  | str s => .found (str s)
  | list items => by
      show Outcome (allFinite items) ((itemsOf blank (rereads (toJsons items))).map Value.list)
      exact (outcome_rereads blank items).map Value.list
  | tuple items => by
      show Outcome (allFinite items) ((itemsOf blank (rereads (toJsons items))).map Value.tuple)
      exact (outcome_rereads blank items).map Value.tuple
  | dict pairs => by
      show Outcome (pairsFinite pairs)
        ((pairsOf blank (rereads (pairsToJson pairs))).map Value.dict)
      exact (outcome_pairRereads blank pairs).map Value.dict
  | set items => by
      show Outcome (allFinite items) ((itemsOf blank (rereads (toJsons items))).map Value.set)
      exact (outcome_rereads blank items).map Value.set
  | function name => .found (function name)
  | module name => .found (module name)
  | object typeName repr => .found (object typeName repr)

theorem outcome_rereads (blank : Blankness) : (items : List Value) →
    Outcome (allFinite items) (itemsOf blank (rereads (toJsons items)))
  | [] => .found []
  | v :: items => by
      rw [toJsons, rereads, itemsOf, allFinite]
      exact (outcome_reread blank v).bind fun first =>
        (outcome_rereads blank items).map (first :: ·)

theorem outcome_pairRereads (blank : Blankness) : (pairs : List (Value × Value)) →
    Outcome (pairsFinite pairs) (pairsOf blank (rereads (pairsToJson pairs)))
  | [] => .found []
  | (k, v) :: pairs => by
      rw [pairsToJson, rereads, pairsFinite, Bool.and_assoc]
      show Outcome _ (pairsOf blank (.array [k.toJson.reread, v.toJson.reread] :: _))
      rw [pairsOf]
      exact (outcome_reread blank k).bind fun key => (outcome_reread blank v).bind fun value =>
        (outcome_pairRereads blank pairs).map ((key, value) :: ·)

end

mutual

/-- There is no damage in what is read from the text of a value. -/
theorem isSound_reread : (v : Value) → v.toJson.reread.isSound = true
  | none => rfl
  | bool _ => rfl
  | int n => by
      simp [toJson, reread_record, isSound_record, reread_of_isExact _ (isExact_toInt n), isSound]
  | float x => by simp [toJson, reread_record, isSound_record, reread, isSound_reread_float x]
  | str _ => rfl
  | list items => by
      simp [toJson, reread_record, isSound_record, reread, isSound, allSound_rereads items]
  | tuple items => by
      simp [toJson, reread_record, isSound_record, reread, isSound, allSound_rereads items]
  | dict pairs => by
      simp [toJson, reread_record, isSound_record, reread, isSound, allSound_pairRereads pairs]
  | set items => by
      simp [toJson, reread_record, isSound_record, reread, isSound, allSound_rereads items]
  | function _ => rfl
  | module _ => rfl
  | object _ _ => rfl

theorem allSound_rereads : (items : List Value) → allSound (rereads (toJsons items)) = true
  | [] => rfl
  | v :: items => by simp [toJsons, rereads, allSound, isSound_reread v, allSound_rereads items]

theorem allSound_pairRereads : (pairs : List (Value × Value)) →
    allSound (rereads (pairsToJson pairs)) = true
  | [] => rfl
  | (k, v) :: pairs => by
      simp [pairsToJson, rereads, reread, allSound, isSound, isSound_reread k, isSound_reread v,
        allSound_pairRereads pairs]

end

end Value

namespace Recording

open Stepwise.Run

/-! ## Recordings -/

/-- Whether all doubles in a recorded call are finite. -/
def Frame.isFinite (frame : Frame) : Bool := frame.locals.entries.all fun entry => entry.2.isFinite

/-- Whether all doubles in an event are finite. -/
def eventIsFinite : Event Frame → Bool
  | .line frame _ => frame.isFinite
  | .leave frame _ value => frame.isFinite && value.isFinite

/-- Whether all doubles in a recording are finite. -/
def isFinite (r : Recording) : Bool := r.events.all eventIsFinite

theorem reread_toNat (n : UInt64) : (Json.nat n.toNat).reread = .nat n.toNat :=
  reread_of_isExact _ (isExact_toNat n)

theorem outcome_readLocals (entries : List (String × Value)) :
    Outcome (entries.all fun entry => entry.2.isFinite)
      (readLocals (entries.map fun entry => (some entry.1, entry.2.toJson.reread))) := by
  induction entries with
  | nil => exact .found []
  | cons entry rest ih =>
      rw [List.map_cons, readLocals, List.all_cons]
      exact (Value.outcome_reread _ entry.2).bind fun value => ih.map ((entry.1, value) :: ·)

theorem Frame.reread_toJson (frame : Frame) : frame.toJson.reread =
    .record [("id", .nat frame.id.toNat), ("name", .text frame.name),
      ("origin", .text frame.origin),
      ("locals", .record (frame.locals.entries.map fun entry =>
        (entry.1, entry.2.toJson.reread)))] := by
  simp only [Frame.toJson, reread_record, List.map_cons, List.map_nil, List.map_map, reread_toNat,
    reread]
  rfl

theorem Frame.outcome_reread (frame : Frame) :
    Outcome frame.isFinite (Frame.ofJson frame.toJson.reread) := by
  rw [Frame.reread_toJson, Frame.ofJson_record]
  refine Outcome.map ?_ _
  rw [record, asLocals, List.map_map]
  exact (outcome_readLocals frame.locals.entries).map Ordered.ofList

theorem Frame.isSound_reread (frame : Frame) : frame.toJson.reread.isSound = true := by
  simp [Frame.reread_toJson, isSound_record, Value.isSound_reread, nat, isSound]

theorem outcome_eventReread (event : Event Frame) :
    Outcome (eventIsFinite event) (eventOfJson (eventToJson event).reread) := by
  cases event with
  | line frame n =>
      have hreread : (eventToJson (.line frame n)).reread = .record [("event", .text "line"),
          ("frame", frame.toJson.reread), ("line", .nat n.toNat)] := by
        simp only [eventToJson, reread_record, List.map_cons, List.map_nil, reread_toNat, reread]
      rw [hreread, eventOfJson_line frame.isSound_reread]
      exact frame.outcome_reread.map _
  | leave frame n value =>
      have hreread : (eventToJson (.leave frame n value)).reread =
          .record [("event", .text "return"), ("frame", frame.toJson.reread),
            ("line", .nat n.toNat), ("value", value.toJson.reread)] := by
        simp only [eventToJson, reread_record, List.map_cons, List.map_nil, reread_toNat, reread]
      rw [hreread, eventOfJson_leave frame.isSound_reread value.isSound_reread]
      exact frame.outcome_reread.bind fun found =>
        (Value.outcome_reread _ value).map (Event.leave found n)

theorem outcome_reread (r : Recording) : Outcome r.isFinite (ofJson r.toJson.reread) := by
  have hreread : r.toJson.reread =
      .record ((r.digest.map fun digest => ("source_digest", .text digest)).toList ++
        [("events", .array (r.events.map fun event => (eventToJson event).reread))]) := by
    rw [toJson, reread_record]
    cases r.digest with
    | none => simp [reread, rereads_eq_map, Function.comp_def]
    | some digest => simp [reread, rereads_eq_map, Function.comp_def]
  rw [hreread, ofJson_record]
  exact (Outcome.mapM fun event _ => outcome_eventReread event).map _

/-- A recording is read from its text if and only if it is finite. -/
theorem outcome_ofText (r : Recording) (hdepth : r.toJson.depth ≤ maxDepth) :
    Outcome r.isFinite (ofText r.toText) := by
  rw [ofText, toText, read_write_eq_reread hdepth]
  have hread := (outcome_reread r).bind fun r' => Outcome.found r'
  rwa [Bool.and_true] at hread

/-- A recording that is not nested too deep can be read from its text if and only if
all doubles in it are finite, and otherwise the reason is that `null` is no double. -/
theorem readable_iff_isFinite (r : Recording) (hdepth : r.toJson.depth ≤ maxDepth) :
    ((∃ r', ofText r.toText = .ok r') ↔ r.isFinite = true) ∧
      (r.isFinite = false → ofText r.toText = .error nullForDouble) := by
  have houtcome := r.outcome_ofText hdepth
  refine ⟨houtcome.exists_ok_iff, fun hfinite => ?_⟩
  rw [hfinite] at houtcome
  exact houtcome.eq_error

/-- A run that returns a double. -/
def returning (x : Numeric.Binary64) : Recording :=
  .ofEvents [.leave (.start 1 "<module>") 1 (.list [.float x])]

/-- The double next to one tenth is read back, and infinity is not. -/
theorem readable_iff_isFinite_returning :
    (returning ⟨0x3fb999999999999a⟩).toJson.depth ≤ maxDepth ∧
    (returning ⟨0x7ff0000000000000⟩).toJson.depth ≤ maxDepth ∧
    (∃ r', ofText (returning ⟨0x3fb999999999999a⟩).toText = .ok r') ∧
    ofText (returning ⟨0x7ff0000000000000⟩).toText = .error nullForDouble := by
  have htenth : (returning ⟨0x3fb999999999999a⟩).toJson.depth ≤ maxDepth := by decide +kernel
  have hinfinity : (returning ⟨0x7ff0000000000000⟩).toJson.depth ≤ maxDepth := by decide +kernel
  exact ⟨htenth, hinfinity, (readable_iff_isFinite _ htenth).1.mpr (by decide +kernel),
    (readable_iff_isFinite _ hinfinity).2 (by decide +kernel)⟩

/-- Not every recording can be read back, however little it is nested. -/
theorem not_forall_readable : ¬ ∀ r : Recording, r.toJson.depth ≤ maxDepth →
    ∃ r', ofText r.toText = .ok r' := by
  intro h
  have hdepth : (returning ⟨0x7ff0000000000000⟩).toJson.depth ≤ maxDepth := by decide +kernel
  have hfinite : (returning ⟨0x7ff0000000000000⟩).isFinite = false := by decide +kernel
  have hread := (outcome_ofText _ hdepth).exists_ok_iff.mp (h _ hdepth)
  rw [hfinite] at hread
  cases hread

end Recording

end Stepwise
