import Stepwise.Proofs.Moves
import Stepwise.Proofs.Trail

/-!
# Structured runs

A structured run is what the statements of one call do if every loop is left
at its header or at a `break`. It is a tree: a block is made of visits to
lines and of loops, and an iteration of a loop is a block again. The tracer is
shown nothing but the lines, one after the other, and works out the tree from
their indentation.

The end of a loop is noticed at the visit that comes next, not at the last
visit inside. The induction over the tree is therefore about the state in
which the next visit finds the tracer once the loops that are over have been
ended (`Tracer.arrive`). There the active loops are exactly those around the
block.

## Main results

* `trail_structured`: the trail of every line is the one that the tree says.
-/

namespace Stepwise.Trace

open Stepwise.Run

/-! ## Trees -/

/-- A visit to a line of a call. -/
structure Visit where
  frame : Frame
  /-- The line, numbered from one. -/
  number : UInt64

namespace Visit

/-- The line of a visit, numbered from zero. -/
def line (v : Visit) : Nat := v.number.toNat - 1

/-- A visit as an event. -/
def event (v : Visit) : Event Frame := .line v.frame v.number

end Visit

mutual

/-- What a block does in a run. -/
inductive Block where
  | done
  /-- A visit to a line that is no loop header. -/
  | plain (visit : Visit) (rest : Block)
  /-- A loop, from the first visit to its header on. -/
  | loop (first : Visit) (rounds : Rounds) (rest : Block)

/-- The iterations of a loop. -/
inductive Rounds where
  | done
  /-- An iteration, and the visit to the header that follows it. -/
  | round (body : Block) (again : Visit) (rest : Rounds)
  /-- An iteration that ends with a `break`, and the loop with it. -/
  | broken (body : Block) (last : Visit)

end

mutual

/-- The visits of a block, in order. -/
def Block.visits : Block → List Visit
  | .done => []
  | .plain visit rest => visit :: rest.visits
  | .loop first rounds rest => first :: (rounds.visits ++ rest.visits)

/-- The visits of the iterations of a loop. -/
def Rounds.visits : Rounds → List Visit
  | .done => []
  | .round body again rest => body.visits ++ again :: rest.visits
  | .broken body last => body.visits ++ [last]

end

/-- The line that is visited first when a block runs that is followed by a
visit to the line `next`, if it is followed by one at all. -/
def Block.firstLine (next : Option Nat) : Block → Option Nat
  | .done => next
  | .plain visit _ => some visit.line
  | .loop first _ _ => some first.line

/-- Whether a line has neither of the keywords that leave a loop. -/
def IsQuiet (source : Source) (line : Nat) : Prop :=
  Source.isReturn (source.text line) = false ∧ Source.isBreak (source.text line) = false

/-- Whether all visits are to lines that are deeper than a header. -/
def AllDeeper (source : Source) (header : Nat) (visits : List Visit) : Prop :=
  ∀ v ∈ visits, source.indentOf header < source.indentOf v.line

/-- Whether there is a next line and it is outside of a loop. -/
def IsOutside (source : Source) (header : Nat) : Option Nat → Prop
  | none => False
  | some line => line ≠ header ∧ source.indentOf line ≤ source.indentOf header

mutual

/-- Whether the visits of a block are as the text of the program has them, if
the block is followed by a visit to the line `next`, if by any. -/
def Block.Fits (source : Source) (next : Option Nat) : Block → Prop
  | .done => True
  | .plain visit rest =>
      (source.isHeader visit.line = false ∧ IsQuiet source visit.line) ∧ rest.Fits source next
  | .loop first rounds rest =>
      (source.isHeader first.line = true ∧ IsQuiet source first.line ∧
        IsOutside source first.line (rest.firstLine next)) ∧
        rounds.Fits source first.line ∧ rest.Fits source next

/-- Whether iterations are as the text of the program has them. -/
def Rounds.Fits (source : Source) (header : Nat) : Rounds → Prop
  | .done => True
  | .round body again rest =>
      (AllDeeper source header body.visits ∧ again.line = header) ∧
        body.Fits source (some header) ∧ rest.Fits source header
  | .broken body last =>
      (AllDeeper source header (body.visits ++ [last]) ∧ source.isHeader last.line = false ∧
        Source.isReturn (source.text last.line) = false ∧
        Source.isBreak (source.text last.line) = true) ∧
        body.Fits source (some last.line)

end

section Decidable

variable (source : Source)

instance (line : Nat) : Decidable (IsQuiet source line) :=
  inferInstanceAs (Decidable (_ ∧ _))

instance (header : Nat) (visits : List Visit) : Decidable (AllDeeper source header visits) :=
  inferInstanceAs (Decidable (∀ v ∈ visits, _))

instance (header : Nat) : ∀ next, Decidable (IsOutside source header next)
  | none => .isFalse id
  | some _ => inferInstanceAs (Decidable (_ ∧ _))

mutual

/-- Whether a block fits can be computed. -/
def Block.decideFits (next : Option Nat) : (b : Block) → Decidable (b.Fits source next)
  | .done => .isTrue trivial
  | .plain _ rest =>
      have := rest.decideFits next
      inferInstanceAs (Decidable (_ ∧ _))
  | .loop first rounds rest =>
      have := rounds.decideFits first.line
      have := rest.decideFits next
      inferInstanceAs (Decidable (_ ∧ _ ∧ _))

/-- Whether iterations fit can be computed. -/
def Rounds.decideFits (header : Nat) : (r : Rounds) → Decidable (r.Fits source header)
  | .done => .isTrue trivial
  | .round body _ rest =>
      have := body.decideFits (some header)
      have := rest.decideFits header
      inferInstanceAs (Decidable (_ ∧ _ ∧ _))
  | .broken body last =>
      have := body.decideFits (some last.line)
      inferInstanceAs (Decidable (_ ∧ _))

end

instance (next : Option Nat) (b : Block) : Decidable (b.Fits source next) :=
  b.decideFits source next

end Decidable

/-! ## What a tree says -/

/-- Something that a trace has to tell. -/
inductive Cue where
  /-- A visit to a line, at a time and inside certain loops. -/
  | visit (line time : Nat) (loops : Loops)
  /-- The beginning of a loop, which is the last of several. -/
  | begins (header : Nat) (loops : Loops)
  /-- The end of a loop, which is the last of several. -/
  | ends (header : Nat) (loops : Loops)

/-- What is told of it on a line: a visit on the line itself, the beginning and
the end of a loop on the lines of its body. -/
def Cue.on (source : Source) (n : Nat) : Cue → Option Entry
  | visit line time loops => if n = line then some (.step time loops) else none
  | begins header loops =>
      if n ∈ source.loopBody header then some (.beginLoop loops) else none
  | ends header loops => if n ∈ source.loopBody header then some (.endLoop loops) else none

mutual

/-- What a trace tells of a block that starts at a time and inside of loops.
The header of a loop is first visited from outside. -/
def Block.script (time : Nat) (around : Loops) : Block → List Cue
  | .done => []
  | .plain visit rest => .visit visit.line time around :: rest.script (time + 1) around
  | .loop first rounds rest =>
      .visit first.line time around :: .begins first.line (around.inside first.line 0) ::
        (rounds.script first.line 0 (time + 1) around ++
          rest.script (time + 1 + rounds.visits.length) around)

/-- What a trace tells of the iterations of a loop from one of them on, up to
the end of the loop. The visit to the header behind an iteration still belongs
to it. The loop ends with the number of its iterations. -/
def Rounds.script (header iteration time : Nat) (around : Loops) : Rounds → List Cue
  | .done => [.ends header (around.inside header iteration)]
  | .round body again rest =>
      body.script time (around.inside header iteration) ++
        .visit again.line (time + body.visits.length) (around.inside header iteration) ::
        rest.script header (iteration + 1) (time + body.visits.length + 1) around
  | .broken body last =>
      body.script time (around.inside header iteration) ++
        [.visit last.line (time + body.visits.length) (around.inside header iteration),
          .ends header (around.inside header (iteration + 1))]

end

/-! ## What the tracer makes of a tree -/

namespace Tracer

variable (t : Tracer) {context : UInt64} {stack : List Loop} {time : Nat} {told : List Cue}
  {s : State}

/-- Whether visits are to one call, and are recorded. -/
def AllSeen (context : UInt64) (visits : List Visit) : Prop :=
  ∀ v ∈ visits, v.frame.id = context ∧ t.ignores v.frame = false

instance (context : UInt64) (visits : List Visit) : Decidable (t.AllSeen context visits) :=
  inferInstanceAs (Decidable (∀ v ∈ visits, _))

/-- The state with those loops ended that a visit to the next line finds to be
over. -/
def arrive (context : UInt64) : Option Nat → State → State
  | none, s => s
  | some line, s => t.endLeft context line s

/-- Whether a tracer that goes on has recorded what a script says up to some
time, and has certain loops active. -/
structure Stands (stack : List Loop) (time : Nat) (told : List Cue) (s : State) : Prop where
  goesOn : s.halted = false
  loops_eq : s.loops = stack
  time_eq : s.time = time
  trail_eq : ∀ n, s.log.trail (.line n) = told.filterMap (Cue.on t.source n)
  calm : ∀ latest ∈ s.latest, Source.isReturn (t.source.text latest.key.lineNumber) = false

/-- Whether the latest step is a visit to a line of a call. -/
def IsAt (context : UInt64) (line : Nat) (s : State) : Prop :=
  ∃ index, s.latest = some ⟨context, .line line, index⟩

/-- Whether a line is inside the innermost loop, or is its header. -/
def Stays (stack : List Loop) (line : Nat) : Prop :=
  ∀ top ∈ stack.head?, line = top.header ∨
    t.source.indentOf top.header < t.source.indentOf line

/-! ### Ending loops -/

variable {t}

theorem endLeft_of_stays (hs : t.Stands stack time told s) {line : Nat}
    (hline : t.Stays stack line) (context : UInt64) : t.endLeft context line s = s := by
  unfold endLeft
  split
  · next top outer latest hloops hlatest =>
      have hcalm := hs.calm latest (by simp [hlatest])
      have htop := hline top (by rw [← hs.loops_eq, hloops]; rfl)
      dsimp only
      split
      · rfl
      · split
        · next hreturn =>
            rw [hcalm] at hreturn
            simp at hreturn
        · split
          · next hleft => omega
          · rfl
  · rfl

theorem Stands.arrive (hs : t.Stands stack time told s) {next : Option Nat}
    (hnext : ∀ line ∈ next, t.Stays stack line) (context : UInt64) :
    t.Stands stack time told (t.arrive context next s) := by
  cases next with
  | none => exact hs
  | some line =>
      rw [Tracer.arrive, endLeft_of_stays hs (hnext line rfl)]
      exact hs

/-- A line outside of the innermost loop ends it. Its last iteration counts if
it ended with a `break`. -/
theorem Stands.leaveLoop {header iteration line : Nat} {next : Option Nat}
    (hs : t.Stands (⟨context, header, iteration⟩ :: stack) time told s)
    (hat : IsAt context line s) (hnext : IsOutside t.source header next) :
    t.Stands stack time
      (told ++ [.ends header ((loopsOf stack).inside header
        (if Source.isBreak (t.source.text line) then iteration + 1 else iteration))])
      (t.arrive context next s) := by
  cases next with
  | none => exact hnext.elim
  | some next =>
      obtain ⟨index, hlatest⟩ := hat
      have hcalm := hs.calm _ hlatest
      simp only [Key.lineNumber] at hcalm
      have hleft : t.arrive context (some next) s =
          { s with
            loops := stack
            log := t.markEnd (Source.isBreak (t.source.text line))
              ⟨context, header, iteration⟩ stack s.log } := by
        rw [Tracer.arrive]
        unfold endLeft
        rw [hs.loops_eq, hlatest]
        simp [Key.lineNumber, hcalm, hnext.1, hnext.2]
      rw [hleft]
      refine ⟨hs.goesOn, rfl, hs.time_eq, ?_, hs.calm⟩
      intro n
      rw [trail_markEnd, hs.trail_eq, loopsOf_cons, List.filterMap_append]
      congr 1
      simp only [List.filterMap_cons, List.filterMap_nil, Cue.on]
      split <;> rfl

/-! ### Visits -/

theorem stands_preexisting (names : Option (List String)) :
    t.Stands stack time told { s with preexisting := names } ↔ t.Stands stack time told s := by
  constructor <;> exact fun h => ⟨h.goesOn, h.loops_eq, h.time_eq, h.trail_eq, h.calm⟩

theorem Stands.endLeft_notice {line : Nat}
    (hs : t.Stands stack time told (t.endLeft context line s)) (frame : Frame) :
    t.Stands stack time told (t.endLeft context line (notice frame s)) := by
  unfold notice
  split
  · rw [endLeft_preexisting]
    exact (stands_preexisting _).mpr hs
  · exact hs

/-- A visit is recorded with the loops that are active when it comes, and only
then the line is entered. -/
theorem Stands.visit {v : Visit} (hs : t.Stands stack time told (t.endLeft context v.line s))
    (hseen : v.frame.id = context ∧ t.ignores v.frame = false)
    (hlimit : time < t.settings.maxSteps)
    (hreturn : Source.isReturn (t.source.text v.line) = false) :
    ∃ s', (t.step s v.event).1 = t.enter context v.line s' ∧
      t.Stands stack (time + 1) (told ++ [.visit v.line time (loopsOf stack)]) s' ∧
      IsAt context v.line s' := by
  obtain ⟨rfl, hignores⟩ := hseen
  have hgoesOn : s.halted = false := by
    rw [← t.endLeft_halted v.frame.id v.line s]
    exact hs.goesOn
  have hleft := hs.endLeft_notice v.frame
  have hbelow : (t.endLeft v.frame.id v.line (notice v.frame s)).time < t.settings.maxSteps := by
    rw [hleft.time_eq]
    exact hlimit
  refine ⟨t.record v.frame (.line v.line) none
    (t.endLeft v.frame.id v.line (notice v.frame s)), ?_, ?_, ⟨_, rfl⟩⟩
  · have hstep : t.step s v.event = t.visit v.frame v.line (notice v.frame s) := by
      unfold step Visit.event
      rw [if_neg (by simp [hgoesOn])]
      dsimp only
      rw [if_neg (by simp [hignores])]
      rfl
    rw [hstep]
    unfold Tracer.visit withinLimit
    rw [if_pos hbelow]
  · refine ⟨hleft.goesOn, hleft.loops_eq, ?_, ?_, ?_⟩
    · exact congrArg (· + 1) hleft.time_eq
    · intro n
      rw [trail_record, hleft.trail_eq, hleft.time_eq, hleft.loops_eq, List.filterMap_append]
      congr 1
      by_cases hline : n = v.line
      · simp [Cue.on, hline]
      · simp [Cue.on, hline]
    · intro latest hlatest
      obtain rfl := Option.some.inj hlatest
      exact hreturn

/-- A visit to a line that is no header changes no loops. -/
theorem Stands.visitPlain {v : Visit}
    (hs : t.Stands stack time told (t.endLeft context v.line s))
    (hseen : v.frame.id = context ∧ t.ignores v.frame = false)
    (hlimit : time < t.settings.maxSteps) (hplain : t.source.isHeader v.line = false)
    (hreturn : Source.isReturn (t.source.text v.line) = false) :
    t.Stands stack (time + 1) (told ++ [.visit v.line time (loopsOf stack)])
        (t.step s v.event).1 ∧
      IsAt context v.line (t.step s v.event).1 := by
  obtain ⟨s', hstep, hs', hat⟩ := hs.visit hseen hlimit hreturn
  have henter : t.enter context v.line s' = s' := by
    unfold enter
    rw [hplain]
    rfl
  rw [hstep, henter]
  exact ⟨hs', hat⟩

theorem Stands.beginLoop (hs : t.Stands stack time told s) (context : UInt64) (header : Nat) :
    t.Stands (⟨context, header, 0⟩ :: stack) time
      (told ++ [.begins header ((loopsOf stack).inside header 0)])
      (t.beginLoop context header s) := by
  refine ⟨hs.goesOn, congrArg _ hs.loops_eq, hs.time_eq, ?_, hs.calm⟩
  intro n
  rw [trail_beginLoop, hs.trail_eq, hs.loops_eq, loopsOf_cons, List.filterMap_append]
  congr 1
  simp only [List.filterMap_cons, List.filterMap_nil, Cue.on]
  split <;> rfl

/-- The first visit to a header begins the loop. An active loop with that very
header would not be around the line. -/
theorem Stands.visitFirst {v : Visit}
    (hs : t.Stands stack time told (t.endLeft context v.line s))
    (hseen : v.frame.id = context ∧ t.ignores v.frame = false)
    (hlimit : time < t.settings.maxSteps) (hheader : t.source.isHeader v.line = true)
    (hreturn : Source.isReturn (t.source.text v.line) = false)
    (hnew : ∀ top ∈ stack.head?, top.header ≠ v.line) :
    t.Stands (⟨context, v.line, 0⟩ :: stack) (time + 1)
        (told ++ [.visit v.line time (loopsOf stack),
          .begins v.line ((loopsOf stack).inside v.line 0)])
        (t.step s v.event).1 ∧
      IsAt context v.line (t.step s v.event).1 := by
  obtain ⟨s', hstep, hs', hat⟩ := hs.visit hseen hlimit hreturn
  have henter : t.enter context v.line s' = t.beginLoop context v.line s' := by
    rcases t.enter_cases context v.line s' with ⟨hno, -⟩ |
      ⟨-, top, outer, hloops, -, hline, -⟩ | ⟨-, -, heq⟩
    · simp [hheader] at hno
    · exact absurd hline (hnew top (by rw [← hs'.loops_eq, hloops]; rfl))
    · exact heq
  have hbegun := hs'.beginLoop context v.line
  rw [List.append_assoc] at hbegun
  rw [hstep, henter]
  exact ⟨hbegun, hat⟩

/-- Another visit to the header of the innermost loop counts an iteration. -/
theorem Stands.visitAgain {v : Visit} {iteration : Nat}
    (hs : t.Stands (⟨context, v.line, iteration⟩ :: stack) time told
      (t.endLeft context v.line s))
    (hseen : v.frame.id = context ∧ t.ignores v.frame = false)
    (hlimit : time < t.settings.maxSteps) (hheader : t.source.isHeader v.line = true)
    (hreturn : Source.isReturn (t.source.text v.line) = false) :
    t.Stands (⟨context, v.line, iteration + 1⟩ :: stack) (time + 1)
        (told ++ [.visit v.line time ((loopsOf stack).inside v.line iteration)])
        (t.step s v.event).1 ∧
      IsAt context v.line (t.step s v.event).1 := by
  obtain ⟨s', hstep, hs', hat⟩ := hs.visit hseen hlimit hreturn
  have henter : t.enter context v.line s' =
      { s' with loops := ⟨context, v.line, iteration + 1⟩ :: stack } := by
    unfold enter
    rw [hheader, hs'.loops_eq]
    simp
  rw [loopsOf_cons] at hs'
  rw [hstep, henter]
  exact ⟨⟨hs'.goesOn, rfl, hs'.time_eq, hs'.trail_eq, hs'.calm⟩, hat⟩

/-! ### Trees -/

/-- Whether the innermost loop, if there is one, goes on for some visits and up
to the line of the visit behind them. -/
def Encloses (t : Tracer) (stack : List Loop) (visits : List Visit) (next : Option Nat) :
    Prop :=
  (∀ top ∈ stack.head?, AllDeeper t.source top.header visits) ∧
    ∀ line ∈ next, t.Stays stack line

theorem Encloses.firstLine {b : Block} {next : Option Nat}
    (h : t.Encloses stack b.visits next) : ∀ line ∈ b.firstLine next, t.Stays stack line := by
  cases b with
  | done => exact h.2
  | plain visit rest =>
      intro line hline top htop
      obtain rfl : visit.line = line := by simpa [Block.firstLine] using hline
      exact .inr (h.1 top htop visit (by simp [Block.visits]))
  | loop first rounds rest =>
      intro line hline top htop
      obtain rfl : first.line = line := by simpa [Block.firstLine] using hline
      exact .inr (h.1 top htop first (by simp [Block.visits]))

theorem Encloses.mono {visits visits' : List Visit} {next : Option Nat}
    (h : t.Encloses stack visits next) (hsub : visits' ⊆ visits) :
    t.Encloses stack visits' next :=
  ⟨fun top htop v hv => h.1 top htop v (hsub hv), h.2⟩

theorem encloses_cons {header : Nat} {visits : List Visit}
    (hdeeper : AllDeeper t.source header visits) {next iteration : Nat}
    (hnext : next = header ∨ t.source.indentOf header < t.source.indentOf next) :
    t.Encloses (⟨context, header, iteration⟩ :: stack) visits (some next) := by
  refine ⟨?_, ?_⟩
  · intro top htop
    obtain rfl := Option.some.inj htop
    exact hdeeper
  · intro line hline top htop
    obtain rfl := Option.some.inj htop
    obtain rfl := Option.some.inj hline
    exact hnext

mutual

/-- A block leaves the active loops as it finds them, and the trace tells what
its script says. -/
theorem stands_block (b : Block) {s : State} {stack : List Loop} {time : Nat} {told : List Cue}
    {next : Option Nat} (hfits : b.Fits t.source next) (hseen : t.AllSeen context b.visits)
    (hencloses : t.Encloses stack b.visits next)
    (hs : t.Stands stack time told (t.arrive context (b.firstLine next) s))
    (hlimit : time + b.visits.length ≤ t.settings.maxSteps) :
    t.Stands stack (time + b.visits.length) (told ++ b.script time (loopsOf stack))
      (t.arrive context next (t.run s (b.visits.map Visit.event))) := by
  cases b with
  | done =>
      simp only [Block.visits, Block.script, List.append_nil]
      exact hs
  | plain visit rest =>
      simp only [Block.visits, List.length_cons] at hlimit hencloses hseen
      obtain ⟨⟨hplain, hquiet⟩, hrest⟩ := hfits
      obtain ⟨hvisit, hseen⟩ := List.forall_mem_cons.mp hseen
      replace hencloses := hencloses.mono (List.subset_cons_self visit rest.visits)
      have hvisited := (hs.visitPlain hvisit (by omega) hplain hquiet.1).1
      have hend := stands_block rest hrest hseen hencloses
        (hvisited.arrive hencloses.firstLine context) (by omega)
      simp only [Block.visits, Block.script, List.length_cons, List.map_cons]
      rw [show time + (rest.visits.length + 1) = time + 1 + rest.visits.length by omega]
      rw [List.append_assoc] at hend
      exact hend
  | loop first rounds rest =>
      simp only [Block.visits, List.length_cons, List.length_append] at hlimit hencloses hseen
      obtain ⟨⟨hheader, hquiet, hleaves⟩, hrounds, hrest⟩ := hfits
      obtain ⟨hfirst, hseen⟩ := List.forall_mem_cons.mp hseen
      obtain ⟨hseenRounds, hseenRest⟩ := List.forall_mem_append.mp hseen
      have hnew : ∀ top ∈ stack.head?, top.header ≠ first.line := by
        intro top htop hline
        have hdeeper := hencloses.1 top htop first (List.mem_cons_self ..)
        rw [hline] at hdeeper
        omega
      obtain ⟨hbegun, hat⟩ := hs.visitFirst hfirst (by omega) hheader hquiet.1 hnew
      have hended := stands_rounds rounds hrounds hheader hquiet hseenRounds hbegun hat hleaves
        (by omega)
      replace hencloses := hencloses.mono
        (List.subset_cons_of_subset first (List.subset_append_right _ rest.visits))
      have hend := stands_block rest hrest hseenRest hencloses hended (by omega)
      simp only [Block.visits, Block.script, List.length_cons, List.length_append,
        List.map_cons, List.map_append]
      rw [show time + (rounds.visits.length + rest.visits.length + 1) =
        time + 1 + rounds.visits.length + rest.visits.length by omega]
      rw [List.append_assoc, List.append_assoc] at hend
      rw [← run_append] at hend
      exact hend

/-- The iterations of a loop end it, and the trace tells what their script
says. -/
theorem stands_rounds (r : Rounds) {s : State} {stack : List Loop} {time : Nat}
    {told : List Cue} {header iteration : Nat} {next : Option Nat}
    (hfits : r.Fits t.source header)
    (hheader : t.source.isHeader header = true) (hquiet : IsQuiet t.source header)
    (hseen : t.AllSeen context r.visits)
    (hs : t.Stands (⟨context, header, iteration⟩ :: stack) time told s)
    (hat : IsAt context header s) (hnext : IsOutside t.source header next)
    (hlimit : time + r.visits.length ≤ t.settings.maxSteps) :
    t.Stands stack (time + r.visits.length)
      (told ++ r.script header iteration time (loopsOf stack))
      (t.arrive context next (t.run s (r.visits.map Visit.event))) := by
  cases r with
  | done =>
      have hend := hs.leaveLoop hat hnext
      rw [hquiet.2] at hend
      exact hend
  | round body again rest =>
      simp only [Rounds.visits, List.length_append, List.length_cons] at hlimit hseen
      obtain ⟨⟨hdeeper, hagain⟩, hbody, hrest⟩ := hfits
      obtain ⟨hseenBody, hseen⟩ := List.forall_mem_append.mp hseen
      obtain ⟨hseenAgain, hseenRest⟩ := List.forall_mem_cons.mp hseen
      subst hagain
      have hencloses : t.Encloses (⟨context, again.line, iteration⟩ :: stack) body.visits
          (some again.line) := encloses_cons hdeeper (.inl rfl)
      have hround := stands_block body hbody hseenBody hencloses
        (hs.arrive hencloses.firstLine context) (by omega)
      obtain ⟨hagain, hat'⟩ := hround.visitAgain hseenAgain (by omega) hheader hquiet.1
      have hend := stands_rounds rest hrest hheader hquiet hseenRest hagain hat' hnext
        (by omega)
      simp only [Rounds.visits, Rounds.script, List.length_append, List.length_cons,
        List.map_append, List.map_cons]
      rw [show time + (body.visits.length + (rest.visits.length + 1)) =
        time + body.visits.length + 1 + rest.visits.length by omega]
      rw [loopsOf_cons, List.append_assoc, List.append_assoc] at hend
      rw [run_append]
      exact hend
  | broken body last =>
      simp only [Rounds.visits, List.length_append, List.length_singleton] at hlimit hseen
      obtain ⟨⟨hdeeper, hplain, hreturn, hbreak⟩, hbody⟩ := hfits
      obtain ⟨hseenBody, hseen⟩ := List.forall_mem_append.mp hseen
      obtain ⟨hdeeper, hlast⟩ := List.forall_mem_append.mp hdeeper
      have hencloses : t.Encloses (⟨context, header, iteration⟩ :: stack) body.visits
          (some last.line) := encloses_cons hdeeper (.inr (hlast last (by simp)))
      have hround := stands_block body hbody hseenBody hencloses
        (hs.arrive hencloses.firstLine context) (by omega)
      obtain ⟨hvisited, hat'⟩ :=
        hround.visitPlain (hseen last (by simp)) (by omega) hplain hreturn
      have hend := hvisited.leaveLoop hat' hnext
      rw [hbreak, if_pos rfl] at hend
      simp only [Rounds.visits, Rounds.script, List.length_append, List.length_singleton,
        List.map_append, List.map_cons, List.map_nil]
      rw [loopsOf_cons, List.append_assoc, List.append_assoc] at hend
      rw [run_append]
      exact hend

end

theorem stands_start : t.Stands [] 0 [] .start := by
  refine ⟨rfl, rfl, rfl, ?_, ?_⟩
  · intro n
    rfl
  · intro latest hlatest
    simp [State.start] at hlatest

/-- The trail of every line after a structured run is what the tree says, and
no loop is active any more. -/
theorem trail_structured (t : Tracer) (context : UInt64) (b : Block)
    (hseen : t.AllSeen context b.visits) (hfits : b.Fits t.source none)
    (hlimit : b.visits.length ≤ t.settings.maxSteps) :
    (∀ n, (t.run .start (b.visits.map Visit.event)).log.trail (.line n) =
        (b.script 0 ⟨[], []⟩).filterMap (Cue.on t.source n)) ∧
      (t.run .start (b.visits.map Visit.event)).loops = [] := by
  have hencloses : t.Encloses [] b.visits none := by
    constructor
    · simp
    · simp
  have hstart : t.Stands [] 0 [] (t.arrive context (b.firstLine none) .start) :=
    stands_start.arrive (fun _ _ => by simp [Stays]) context
  have hend := stands_block b hfits hseen hencloses hstart (by omega)
  exact ⟨hend.trail_eq, hend.loops_eq⟩

/-- A loop inside of another one. -/
def nestedLoops : Tracer :=
  ⟨.ofText "for a in b:\n    c = a\n    while c:\n        break\nd = c\n".toList,
    .standard, .standard⟩

/-- Two iterations of the outer loop. The inner one is left at once by its
`break` in the first, and is not entered in the second. -/
def nestedRun : Block :=
  let visit (number : UInt64) : Visit := ⟨⟨1, "<module>", "<string>", []⟩, number⟩
  .loop (visit 1)
    (.round (.plain (visit 2) (.loop (visit 3) (.broken .done (visit 4)) .done)) (visit 1)
      (.round (.plain (visit 2) (.loop (visit 3) .done .done)) (visit 1) .done))
    (.plain (visit 5) .done)

theorem trail_nestedRun :
    (nestedLoops.run .start (nestedRun.visits.map Visit.event)).log.trail (.line 3) =
      [.beginLoop ⟨[0], [0]⟩, .beginLoop ⟨[0, 0], [0, 2]⟩, .step 3 ⟨[0, 0], [0, 2]⟩,
        .endLoop ⟨[0, 1], [0, 2]⟩, .beginLoop ⟨[1, 0], [0, 2]⟩, .endLoop ⟨[1, 0], [0, 2]⟩,
        .endLoop ⟨[2], [0]⟩] := by
  have hrun := nestedLoops.trail_structured 1 nestedRun (by decide +kernel) (by decide +kernel)
    (by decide)
  exact (hrun.1 3).trans (by decide +kernel)

end Tracer

end Stepwise.Trace
