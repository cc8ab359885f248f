import Stepwise.Artifact
import Stepwise.Proofs.KeptValues
import Stepwise.Proofs.SizedTrace

/-!
# Artifacts can be read back

An artifact is written for somebody else to show, and nothing in the program
reads it. But it can be read: here is how. What is not plain is the flat object
of a step, where the texts of the variables stand among the other members. A
member is told by its name, so a variable must not have the name of a member.
Then what has such a name is no variable, and everything else is one. A record
with a time is a step; a mark tells by a member of its own whether a loop
begins or ends.

The numbers in the text have to be read as the numbers they were, which needs
numbers of 64 bits. A trace has no others.

## Main results

* `Record.ofJson?_toJson`, `Log.ofJson?_toJson`: a trace is read from its tree.
* `ofText?_toText`: an artifact is read from its text.
* `toText_determines`: so the text of a traced artifact tells all of it that is
  written.
-/

namespace Stepwise

/-- Reading each of several members that were written. -/
theorem mapM_members_of_left_inverse {α : Type} {write : α → String × Json}
    {read : Option String × Json → Option α} {items : List α}
    (h : ∀ a ∈ items, read (some (write a).1, (write a).2) = some a) :
    ((items.map write).map fun member => (some member.1, member.2)).mapM read = some items := by
  rw [List.map_map]
  exact Json.mapM_map_of_left_inverse h

/-! ## Numbers and texts -/

namespace Text

/-- The number that decimal digits stand for. -/
def ofDecimal (digits : List Char) : Nat := Nat.ofDigitChars 10 digits 0

theorem ofDecimal_decimal (n : Nat) : ofDecimal (decimal n) = n := Nat.ofDigitChars_ten_toDigits

theorem decimal_injective : Function.Injective decimal :=
  Function.LeftInverse.injective ofDecimal_decimal

theorem decimal_ne_nil (n : Nat) : decimal n ≠ [] := Nat.toDigits_ne_nil

theorem isDigit_of_mem_decimal {n : Nat} {c : Char} (h : c ∈ decimal n) : c.isDigit = true :=
  Nat.isDigit_of_mem_toDigits (by decide) (by decide) h

theorem not_mem_decimal {c : Char} (hc : c.isDigit = false) (n : Nat) : c ∉ decimal n := by
  intro h
  rw [isDigit_of_mem_decimal h] at hc
  cases hc

end Text

namespace Trace

open Stepwise.Text

/-- The numbers of a text with commas between them. -/
def separated (t : List Char) : List Nat :=
  if t.isEmpty then [] else (t.splitOn ',').map ofDecimal

theorem separated_joined (numbers : List Nat) : separated (joined numbers) = numbers := by
  cases numbers with
  | nil => rfl
  | cons n rest =>
      have hcommas : ∀ t ∈ (n :: rest).map decimal, ',' ∉ t := by
        intro t ht
        obtain ⟨m, -, rfl⟩ := List.mem_map.mp ht
        exact not_mem_decimal (by decide) m
      have hsplit : (joined (n :: rest)).splitOn ',' = (n :: rest).map decimal :=
        List.splitOn_intercalate ',' hcommas (by simp)
      have hfilled : (joined (n :: rest)).isEmpty = false := by
        have hcons : joined (n :: rest) = decimal n ++ Json.followers (rest.map decimal) :=
          Json.commaSeparated_cons (decimal n) (rest.map decimal)
        rw [hcons, List.isEmpty_eq_false_iff, ne_eq, List.append_eq_nil_iff]
        intro hnil
        exact decimal_ne_nil n hnil.1
      rw [separated, hfilled, hsplit, List.map_map]
      simp [Function.comp_def, ofDecimal_decimal]

namespace Key

/-- The place with a name. -/
def ofName : List Char → Key
  | 'R' :: digits => .leave (ofDecimal digits)
  | digits => .line (ofDecimal digits)

theorem ofName_name (key : Key) : ofName key.name = key := by
  cases key with
  | line n =>
      have hplain : ∀ digits, decimal n = 'R' :: digits → False := by
        intro digits h
        exact not_mem_decimal (by decide) n (h ▸ List.mem_cons_self)
      rw [name, ofName, ofDecimal_decimal]
      exact hplain
  | leave n => rw [name, ofName, ofDecimal_decimal]

/-- The place that a number or a text stands for. -/
def ofJson? : Json → Option Key
  | .number (.int n) => some (.line n.toNat)
  | .text name => some (.ofName name.toList)
  | _ => none

theorem ofJson?_toJson (key : Key) : ofJson? key.toJson = some key := by
  cases key with
  | line n => rfl
  | leave n => rw [toJson, ofJson?, String.toList_ofList, ofName_name]

theorem fits_toJson {key : Key} (h : IsSized key.lineNumber) : Json.Fits 0 key.toJson := by
  cases key with
  | line n => exact Json.fits_nat h
  | leave n => exact Json.fits_text _

end Key

/-! ## Members -/

/-- The characters of a text. -/
def characters? : Json → Option (List Char)
  | .text s => some s.toList
  | _ => none

/-- The number of a numeral. -/
def natural? : Json → Option Nat
  | .number (.int n) => some n.toNat
  | _ => none

theorem characters?_textItem (t : List Char) : characters? (textItem t) = some t := by
  rw [textItem, characters?, String.toList_ofList]

/-- What has a certain name in an object. -/
def item? (name : String) (members : List (Option String × Json)) : Option Json :=
  members.lookup (some name)

/-- The names of the members of a step that are no variables. -/
def memberNames : List String :=
  ["time", "#", "$", "lineno", "prev_lineno", "next_lineno", "rv"]

/-- A variable and its text, if a member is one. -/
def binding? : Option String × Json → Option (String × List Char)
  | (some name, .text s) => if name ∈ memberNames then none else some (name, s.toList)
  | _ => none

/-- The active loops, from the members of a record. -/
def Loops.ofMembers? (members : List (Option String × Json)) : Option Loops := do
  let iterations ← (item? "#" members).bind characters?
  let headers ← (item? "$" members).bind characters?
  return ⟨separated iterations, separated headers⟩

/-- A step from its members. -/
def Step.ofMembers? (members : List (Option String × Json)) : Option Step := do
  let time ← (item? "time" members).bind natural?
  let key ← (item? "lineno" members).bind Key.ofJson?
  let loops ← Loops.ofMembers? members
  return {
    time, key, loops
    bindings := .ofList (members.filterMap binding?)
    previous := (item? "prev_lineno" members).bind Key.ofJson?
    next := (item? "next_lineno" members).bind Key.ofJson?
    returned := (item? "rv" members).bind characters? }

/-- A record from its tree. -/
def Record.ofJson? : Json → Option Record
  | .object members =>
      if (item? "time" members).isSome then (Step.ofMembers? members).map .step
      else if (item? "begin_loop" members).isSome then (Loops.ofMembers? members).map .beginLoop
      else (Loops.ofMembers? members).map .endLoop
  | _ => none

/-- The members of an object are found by their names. -/
theorem item?_map (name : String) (members : List (String × Json)) :
    item? name (members.map fun member => (some member.1, member.2)) = members.lookup name := by
  induction members with
  | nil => rfl
  | cons member rest ih =>
      rw [List.map_cons, item?, List.lookup_cons, List.lookup_cons, ← ih]
      rfl

theorem lookup_optional (name other : String) (value : Option Json) :
    (optional name value).lookup other = if other = name then value else none := by
  cases value with
  | none => simp [optional]
  | some j =>
      by_cases h : other = name
      · simp [optional, h]
      · simp [optional, h]

theorem mem_optional {name : String} {value : Option Json} {member : String × Json} :
    member ∈ optional name value ↔ ∃ j ∈ value, (name, j) = member := by
  rw [optional, Option.mem_toList]
  exact Option.map_eq_some_iff

theorem binding?_of_mem {name : String} (h : name ∈ memberNames) (j : Json) :
    binding? (some name, j) = none := by
  cases j with
  | text t => rw [binding?, if_pos h]
  | _ => rfl

theorem Loops.ofMembers?_of_lookup {loops : Loops} {members : List (String × Json)}
    (hiterations : members.lookup "#" = some (textItem (joined loops.iterations)))
    (hheaders : members.lookup "$" = some (textItem (joined loops.headers))) :
    ofMembers? (members.map fun member => (some member.1, member.2)) = some loops := by
  rw [ofMembers?, item?_map, item?_map, hiterations, hheaders, Option.bind_some,
    Option.bind_some, characters?_textItem, characters?_textItem]
  show some (Loops.mk (separated _) (separated _)) = _
  rw [separated_joined, separated_joined]

/-- The member that tells what a mark marks is in no way of its loops. -/
theorem Loops.ofMembers?_mark {name : String} (hiterations : "#" ≠ name) (hheaders : "$" ≠ name)
    (j : Json) (loops : Loops) :
    ofMembers? (((name, j) :: loops.members).map fun member => (some member.1, member.2)) =
      some loops := by
  refine ofMembers?_of_lookup ?_ ?_
  · rw [List.lookup_cons, beq_false_of_ne hiterations]
    rfl
  · rw [List.lookup_cons, beq_false_of_ne hheaders]
    rfl

/-! ## Steps -/

namespace Step

variable {s : Step}

/-- The members of a step in front of its variables. -/
def firstMembers (s : Step) : List (String × Json) := ("time", .nat s.time) :: s.loops.members

/-- The members of a step for its variables. -/
def shownMembers (s : Step) : List (String × Json) :=
  s.bindings.entries.map fun entry => (entry.1, textItem entry.2)

/-- The members of a step behind its variables. -/
def lastMembers (s : Step) : List (String × Json) :=
  ("lineno", s.key.toJson) :: optional "prev_lineno" (s.previous.map Key.toJson) ++
    optional "next_lineno" (s.next.map Key.toJson) ++ optional "rv" (s.returned.map textItem)

/-- The members of a step. -/
def members (s : Step) : List (String × Json) := s.firstMembers ++ s.shownMembers ++ s.lastMembers

theorem toJson_eq (s : Step) : s.toJson = .record s.members := by
  simp [toJson, members, firstMembers, shownMembers, lastMembers]

theorem mem_memberNames_first {member : String × Json} (h : member ∈ s.firstMembers) :
    member.1 ∈ memberNames := by
  simp only [firstMembers, Loops.members, List.mem_cons, List.not_mem_nil, or_false] at h
  rcases h with rfl | rfl | rfl
  all_goals simp [memberNames]

theorem mem_memberNames_last {member : String × Json} (h : member ∈ s.lastMembers) :
    member.1 ∈ memberNames := by
  simp only [lastMembers, List.mem_cons, List.mem_append, mem_optional] at h
  rcases h with ((rfl | ⟨j, -, rfl⟩) | ⟨j, -, rfl⟩) | ⟨j, -, rfl⟩
  all_goals simp [memberNames]

/-- Whether no variable of a step has the name of a member. -/
def IsPlain (s : Step) : Prop := ∀ name ∈ s.bindings.keys, name ∉ memberNames

/-- What stands behind the variables is not hidden by them. -/
theorem IsPlain.lookup_members (h : s.IsPlain) {name : String}
    (hname : name ∈ ["lineno", "prev_lineno", "next_lineno", "rv"]) :
    s.members.lookup name = s.lastMembers.lookup name := by
  have hmember : name ∈ memberNames :=
    List.mem_cons_of_mem _ (List.mem_cons_of_mem _ (List.mem_cons_of_mem _ hname))
  have hfirst : s.firstMembers.lookup name = none := by
    simp only [List.mem_cons, List.not_mem_nil, or_false] at hname
    rcases hname with rfl | rfl | rfl | rfl <;> rfl
  have hshown : s.shownMembers.lookup name = none := by
    rw [List.lookup_eq_none_iff]
    intro member hshown
    obtain ⟨entry, hentry, rfl⟩ := List.mem_map.mp hshown
    rw [bne_iff_ne]
    rintro rfl
    exact h entry.1 (List.mem_map_of_mem hentry) hmember
  rw [members, List.lookup_append, List.lookup_append, hfirst, hshown, Option.none_or,
    Option.none_or]

/-- The variables of a step are all that is read as a variable. -/
theorem IsPlain.filterMap_binding? (h : s.IsPlain) :
    (s.members.map fun member => (some member.1, member.2)).filterMap binding? =
      s.bindings.entries := by
  have hnone : ∀ members : List (String × Json), (∀ member ∈ members, member.1 ∈ memberNames) →
      (members.map fun member => (some member.1, member.2)).filterMap binding? = [] := by
    intro members hmembers
    rw [List.filterMap_map, List.filterMap_eq_nil_iff]
    exact fun member hmember => binding?_of_mem (hmembers member hmember) member.2
  have hshown : (s.shownMembers.map fun member => (some member.1, member.2)).filterMap binding? =
      s.bindings.entries := by
    rw [shownMembers, List.map_map, List.filterMap_map]
    refine (List.filterMap_congr fun entry hentry => ?_).trans List.filterMap_some
    have hname : entry.1 ∉ memberNames := h entry.1 (List.mem_map_of_mem hentry)
    show binding? (some entry.1, textItem entry.2) = some entry
    rw [textItem, binding?, if_neg hname, String.toList_ofList]
  rw [members, List.map_append, List.map_append, List.filterMap_append, List.filterMap_append,
    hnone _ fun _ => mem_memberNames_first, hnone _ fun _ => mem_memberNames_last, hshown,
    List.nil_append, List.append_nil]

/-- A step is read from its members. -/
theorem IsPlain.ofMembers?_members (h : s.IsPlain) :
    ofMembers? (s.members.map fun member => (some member.1, member.2)) = some s := by
  have htime : s.members.lookup "time" = some (.nat s.time) := rfl
  have hloops : Loops.ofMembers? (s.members.map fun member => (some member.1, member.2)) =
      some s.loops := Loops.ofMembers?_of_lookup rfl rfl
  have hkey : s.members.lookup "lineno" = some s.key.toJson := h.lookup_members (by decide)
  have hprevious : s.members.lookup "prev_lineno" = s.previous.map Key.toJson := by
    rw [h.lookup_members (by decide)]
    simp [lastMembers, List.lookup_append, List.lookup_cons, lookup_optional]
  have hnext : s.members.lookup "next_lineno" = s.next.map Key.toJson := by
    rw [h.lookup_members (by decide)]
    simp [lastMembers, List.lookup_append, List.lookup_cons, lookup_optional]
  have hreturned : s.members.lookup "rv" = s.returned.map textItem := by
    rw [h.lookup_members (by decide)]
    simp [lastMembers, List.lookup_append, List.lookup_cons, lookup_optional]
  have hplaces : ∀ key : Option Key, (key.map Key.toJson).bind Key.ofJson? = key := by
    intro key
    cases key with
    | none => rfl
    | some key => exact Key.ofJson?_toJson key
  have hvalue : (s.returned.map textItem).bind characters? = s.returned := by
    cases s.returned with
    | none => rfl
    | some t => exact characters?_textItem t
  -- Every field is read from where it was written, whatever the variables are.
  rw [ofMembers?, hloops, h.filterMap_binding?, Ordered.ofList_entries]
  simp only [item?_map, htime, hkey, hprevious, hnext, hreturned, hplaces, hvalue,
    Option.bind_some, Key.ofJson?_toJson]
  rfl

end Step

/-! ## Records -/

/-- Whether no variable of any step has the name of a member. -/
def Record.IsPlain (record : Record) : Prop := ∀ step ∈ record.step?, step.IsPlain

/-- A record is read from its tree. -/
theorem Record.ofJson?_toJson {record : Record} (h : record.IsPlain) :
    ofJson? record.toJson = some record := by
  cases record with
  | step s =>
      have hplain : s.IsPlain := h s rfl
      have htime : item? "time" (s.members.map fun member => (some member.1, member.2)) =
          some (.nat s.time) := rfl
      rw [toJson, s.toJson_eq, Json.record, ofJson?, htime, hplain.ofMembers?_members]
      rfl
  | beginLoop loops =>
      rw [toJson, markToJson, Json.record, ofJson?,
        Loops.ofMembers?_mark (by decide) (by decide)]
      rfl
  | endLoop loops =>
      rw [toJson, markToJson, Json.record, ofJson?,
        Loops.ofMembers?_mark (by decide) (by decide)]
      rfl

/-- The members of a step are numbers and texts. -/
theorem Step.fits_members {s : Step} (h : s.IsSized) :
    ∀ member ∈ s.members, Json.Fits 0 member.2 := by
  intro member hmember
  simp only [members, firstMembers, shownMembers, lastMembers, Loops.members, List.mem_append,
    List.mem_cons, List.mem_map, List.not_mem_nil, or_false] at hmember
  have hplace : ∀ {name : String} {place : Option Key},
      (∀ key ∈ place, Trace.IsSized key.lineNumber) →
      ∀ member ∈ optional name (place.map Key.toJson), Json.Fits 0 member.2 := by
    intro name place hsized member hmem
    obtain ⟨j, hj, rfl⟩ := mem_optional.mp hmem
    obtain ⟨key, hkey, rfl⟩ := Option.mem_map.mp hj
    exact Key.fits_toJson (hsized key hkey)
  rcases hmember with ((rfl | rfl | rfl) | ⟨entry, -, rfl⟩) | ((rfl | hprevious) | hnext) |
    hreturned
  · exact Json.fits_nat h.time
  · exact Json.fits_text _
  · exact Json.fits_text _
  · exact Json.fits_text _
  · exact Key.fits_toJson h.key
  · exact hplace h.previous member hprevious
  · exact hplace h.next member hnext
  · obtain ⟨j, hj, rfl⟩ := mem_optional.mp hreturned
    obtain ⟨t, -, rfl⟩ := Option.mem_map.mp hj
    exact Json.fits_text _

theorem Record.fits_toJson {record : Record} (h : ∀ step, record = .step step → step.IsSized) :
    Json.Fits 1 record.toJson := by
  have hmark : ∀ name loops, Json.Fits 1 (markToJson name loops) := by
    intro name loops
    refine Json.fits_record fun member hmember => ?_
    simp only [Loops.members, List.mem_cons, List.not_mem_nil, or_false] at hmember
    rcases hmember with rfl | rfl | rfl <;> exact Json.fits_text _
  cases record with
  | step s =>
      rw [toJson, s.toJson_eq]
      exact Json.fits_record (Step.fits_members (h s rfl))
  | beginLoop loops => exact hmark "begin_loop" loops
  | endLoop loops => exact hmark "end_loop" loops

/-! ## Logs -/

namespace Log

/-- A place and its records, from a member of a log. -/
def bucket? : Option String × Json → Option (Key × List Record)
  | (some name, .array items) => do return (.ofName name.toList, ← items.mapM Record.ofJson?)
  | _ => none

/-- A log from its tree. -/
def ofJson? : Json → Option Log
  | .object members => do return ⟨.ofList (← members.mapM bucket?)⟩
  | _ => none

/-- Whether no variable in a log has the name of a member of a step. -/
def IsPlain (log : Log) : Prop :=
  ∀ bucket ∈ log.buckets.entries, ∀ record ∈ bucket.2, record.IsPlain

instance (log : Log) : Decidable log.IsPlain :=
  inferInstanceAs (Decidable (∀ bucket ∈ log.buckets.entries, ∀ record ∈ bucket.2,
    ∀ step ∈ record.step?, ∀ name ∈ step.bindings.keys, name ∉ memberNames))

theorem fits_toJson {log : Log} (h : log.IsSized) : Json.Fits 3 log.toJson := by
  refine Json.fits_record fun member hmember => ?_
  obtain ⟨bucket, hbucket, rfl⟩ := List.mem_map.mp hmember
  refine Json.fits_array fun item hitem => ?_
  obtain ⟨record, hrecord, rfl⟩ := List.mem_map.mp hitem
  refine Record.fits_toJson ?_
  rintro step rfl
  exact h bucket hbucket step hrecord

/-- A log is read from its tree. -/
theorem ofJson?_toJson {log : Log} (h : log.IsPlain) : ofJson? log.toJson = some log := by
  have hbucket : ∀ bucket ∈ log.buckets.entries,
      bucket? (some (String.ofList bucket.1.name), .array (bucket.2.map Record.toJson)) =
        some bucket := by
    intro bucket hmem
    have hrecords : (bucket.2.map Record.toJson).mapM Record.ofJson? = some bucket.2 :=
      Json.mapM_map_of_left_inverse fun record hrecord =>
        Record.ofJson?_toJson (h bucket hmem record hrecord)
    rw [bucket?, hrecords, String.toList_ofList, Key.ofName_name]
    rfl
  rw [toJson, Json.record, ofJson?, mapM_members_of_left_inverse hbucket]
  show some (Log.mk (.ofList log.buckets.entries)) = _
  rw [Ordered.ofList_entries]

end Log

end Trace

/-! ## Writes -/

namespace Writes.WriteMap

open Stepwise.Text

/-- A name from its tree. -/
def name? : Json → Option String
  | .text s => some s
  | _ => none

/-- A line and the names it writes, from a member. -/
def line? : Option String × Json → Option (Nat × List String)
  | (some number, .array items) => do return (ofDecimal number.toList, ← items.mapM name?)
  | _ => none

/-- Writes from their tree. -/
def ofJson? : Json → Option WriteMap
  | .object members => do return ⟨← members.mapM line?⟩
  | _ => none

/-- Writes are read from their tree. -/
theorem ofJson?_toJson (m : WriteMap) : ofJson? m.toJson = some m := by
  have hline : ∀ entry ∈ m.entries,
      line? (some (String.ofList (decimal entry.1)), .array (entry.2.map Json.text)) =
        some entry := by
    intro entry _
    have hnames : (entry.2.map Json.text).mapM name? = some entry.2 :=
      Json.mapM_map_of_left_inverse fun _ _ => rfl
    rw [line?, hnames, String.toList_ofList, ofDecimal_decimal]
    rfl
  rw [toJson, Json.record, ofJson?, mapM_members_of_left_inverse hline]
  rfl

theorem fits_toJson (m : WriteMap) : Json.Fits 2 m.toJson := by
  refine Json.fits_record fun member hmember => ?_
  obtain ⟨entry, -, rfl⟩ := List.mem_map.mp hmember
  refine Json.fits_array fun item hitem => ?_
  obtain ⟨name, -, rfl⟩ := List.mem_map.mp hitem
  exact Json.fits_text name

end Writes.WriteMap

/-! ## Artifacts -/

namespace Artifact

open Stepwise.Trace

/-- The writes and the trace of an artifact, from its text. -/
def ofText? (t : List Char) : Option (Writes.WriteMap × Log) :=
  match (Json.read t).root with
  | .array [writes, trace] => do return (← Writes.WriteMap.ofJson? writes, ← Log.ofJson? trace)
  | _ => none

/-- An artifact is read from its text, if its numbers have 64 bits. -/
theorem ofText?_toText {a : Artifact} (hsized : a.trace.IsSized) (hplain : a.trace.IsPlain) :
    ofText? a.toText = some (a.writes, a.trace) := by
  have hfits : Json.Fits 4 a.toJson := by
    refine Json.fits_array ?_
    intro j hj
    simp only [List.mem_cons, List.not_mem_nil, or_false] at hj
    rcases hj with rfl | rfl
    · exact a.writes.fits_toJson.mono (by decide)
    · exact Log.fits_toJson hsized
  have hdepth : a.toJson.depth ≤ Json.maxDepth := hfits.depth_le.trans (by decide)
  rw [ofText?, toText, Json.read_write hfits.isExact hdepth]
  show (do return (← Writes.WriteMap.ofJson? a.writes.toJson, ← Log.ofJson? a.trace.toJson)) = _
  rw [a.writes.ofJson?_toJson, Log.ofJson?_toJson hplain]
  rfl

/-- Whether the trace of an artifact is what a tracer recorded, with a limit of
64 bits. The writes may be any. -/
def IsTraced (a : Artifact) : Prop :=
  ∃ (t : Tracer) (events : List (Run.Event Run.Frame)),
    IsSized t.settings.maxSteps ∧ a.trace = (t.run .start events).log

theorem IsTraced.isSized {a : Artifact} (h : a.IsTraced) : a.trace.IsSized := by
  obtain ⟨t, events, hlimit, htrace⟩ := h
  rw [htrace]
  exact t.isSized_run hlimit events

/-- The text of an artifact tells its writes and its trace: they are read from
it, so no other artifact with the same text has other ones. -/
theorem toText_determines {a : Artifact} (htraced : a.IsTraced) (hplain : a.trace.IsPlain) :
    ofText? a.toText = some (a.writes, a.trace) ∧
      ∀ b : Artifact, b.IsTraced → b.trace.IsPlain → b.toText = a.toText →
        b.writes = a.writes ∧ b.trace = a.trace := by
  have hread := ofText?_toText htraced.isSized hplain
  refine ⟨hread, ?_⟩
  intro b htraced' hplain' htext
  have hread' := ofText?_toText htraced'.isSized hplain'
  rw [htext, hread] at hread'
  have hpair := Prod.mk.inj (Option.some.inj hread')
  exact ⟨hpair.1.symm, hpair.2.symm⟩

/-- A call that leaves its loop by a `return`, seen by a tracer. One of its
variables has the name that marks the beginning of a loop elsewhere. -/
def earlyReturn : Artifact :=
  let t : Tracer :=
    ⟨.ofText "def f(é):\n    while é:\n        return é\nx = f('\"')\n".toList,
      .standard, .standard⟩
  let call : Run.Frame := ⟨2, "f", "<string>", [("é", .str "\""), ("begin_loop", .int 0)]⟩
  let outer : Run.Frame := ⟨1, "<module>", "<string>", []⟩
  { writes := .ofList [(3, "x"), (0, "f"), (3, "x")]
    trace := (t.run .start [.line outer 4, .line call 2, .line call 3,
      .leave call 3 (.str "\""), .leave outer 4 .none]).log
    repaired := [] }

theorem toText_earlyReturn : earlyReturn.IsTraced ∧ earlyReturn.trace.IsPlain ∧
    ofText? earlyReturn.toText = some (earlyReturn.writes, earlyReturn.trace) := by
  have htraced : earlyReturn.IsTraced := ⟨_, _, by decide, rfl⟩
  have hplain : earlyReturn.trace.IsPlain := by decide +kernel
  exact ⟨htraced, hplain, (toText_determines htraced hplain).1⟩

end Artifact

end Stepwise
