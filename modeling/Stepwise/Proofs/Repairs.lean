import Stepwise.Writes.Repair

/-!
# Repairs, one after the other

The repair loop has a budget of one repair for every line. It never runs out,
since a line that is emptied stays empty and an empty line is not repaired. So
the budget can be forgotten: the loop succeeds exactly if there is a list of
lines such that the parser stops at each of them once those in front of it are
empty, and accepts the program once all of them are.

## Main results

* `collectWith_eq_ok_iff`: what the analysis of a program finds, without loop
  and budget.
* `mapError_collect`: what it finds, and the line on which it fails, do not
  depend on how errors are worded.
-/

namespace Stepwise

namespace Source

variable (s : Source)

/-- The program with nothing on several lines. -/
def blankLines (lines : List Nat) : Source := lines.foldl blankLine s

/-- The number of lines with something on them. -/
def filledCount : Nat := s.lines.countP fun line => !line.isEmpty

theorem filledCount_le_length : s.filledCount ≤ s.length := List.countP_le_length

theorem text_blankLine (line n : Nat) :
    (s.blankLine line).text n = if n = line then [] else s.text n := by
  unfold text line? blankLine
  rw [List.getElem?_set]
  by_cases h : line = n
  · subst h
    by_cases hlength : line < s.lines.length
    · simp [hlength]
    · simp [hlength]
  · rw [if_neg h, if_neg (Ne.symm h)]

/-- A line that is not empty is a line of the program. -/
theorem lt_length_of_canBlank {s : Source} {line : Nat} (h : s.canBlank line = true) :
    line < s.lines.length := by
  by_cases hlength : line < s.lines.length
  · exact hlength
  · simp [canBlank, text, line?, hlength] at h

theorem filledCount_blankLine_lt {s : Source} {line : Nat} (h : s.canBlank line = true) :
    (s.blankLine line).filledCount < s.filledCount := by
  have hlength := lt_length_of_canBlank h
  have hfull : (s.lines[line]).isEmpty = false := by
    simpa [canBlank, text, line?, hlength] using h
  have hpos : 0 < s.filledCount := by
    rw [filledCount, List.countP_pos_iff]
    exact ⟨s.lines[line], List.getElem_mem hlength, by simp [hfull]⟩
  unfold filledCount blankLine at *
  rw [List.countP_set hlength, hfull]
  simp only [List.isEmpty_nil, Bool.not_false, Bool.not_true, if_true, Bool.false_eq_true,
    if_false]
  omega

theorem text_blankLines (s : Source) (lines : List Nat) (n : Nat) :
    (s.blankLines lines).text n = if n ∈ lines then [] else s.text n := by
  induction lines generalizing s with
  | nil => simp [blankLines]
  | cons line rest ih =>
      change ((s.blankLine line).blankLines rest).text n = _
      rw [ih, text_blankLine]
      by_cases hrest : n ∈ rest
      · simp [hrest]
      · by_cases hline : n = line
        · simp [hline]
        · simp [hrest, hline]

end Source

namespace Writes

open Stepwise.Grammar Stepwise.Text

variable {parser : Parser} {s : Source}

/-- The writes of a program with a certain tree. -/
def writesOf (s : Source) (program : Module (Fin (byteLength s.toText))) : WriteMap :=
  ofModule (fun place => lineIn s place.val) program

/-- Whether a parser accepts a program as it stands, with certain writes. -/
def Accepts (parser : Parser) (s : Source) (writes : WriteMap) : Prop :=
  ∃ program, parser s.toText = .ok program ∧ writesOf s program = writes

/-- Whether a parser finds the first error of a program on a line. -/
def ErrsOn (parser : Parser) (s : Source) (line : Nat) : Prop :=
  ∃ e, parser s.toText = .error e ∧ lineIn s e.offset = line

/-- Whether lines can be emptied one after the other, each because the first
error of the program is then on it, and the reserved name as well. -/
def Mends (parser : Parser) : Source → List Nat → Prop
  | _, [] => True
  | s, line :: rest =>
      (ErrsOn parser s line ∧ occursIn reservedName.toList (s.text line) = true) ∧
        Mends parser (s.blankLine line) rest

/-- There is something on a line with the reserved name. -/
theorem canBlank_of_occursIn {line : Nat}
    (h : occursIn reservedName.toList (s.text line) = true) : s.canBlank line = true := by
  unfold Source.canBlank
  cases htext : s.text line with
  | nil =>
      rw [htext] at h
      exact absurd h (by decide)
  | cons c rest => rfl

theorem isRepairable_eq (s : Source) (line : Nat) :
    isRepairable s line = occursIn reservedName.toList (s.text line) := by
  unfold isRepairable
  cases hname : occursIn reservedName.toList (s.text line) with
  | false => rfl
  | true => rw [canBlank_of_occursIn hname, Bool.true_and]

/-- A line is mended only if the reserved name was on it from the start. -/
theorem occursIn_of_mends {lines : List Nat} (h : Mends parser s lines) :
    ∀ n ∈ lines, occursIn reservedName.toList (s.text n) = true := by
  induction lines generalizing s with
  | nil => simp
  | cons line rest ih =>
      obtain ⟨⟨-, hname⟩, hrest⟩ := h
      intro n hn
      rcases List.mem_cons.mp hn with rfl | hn
      · exact hname
      · have hafter := ih hrest n hn
        rw [Source.text_blankLine] at hafter
        split at hafter
        · exact absurd hafter (by decide)
        · exact hafter

/-! ## The repair loop -/

theorem repair_of_ok {program : Module (Fin (byteLength s.toText))}
    (h : parser s.toText = .ok program) (budget : Nat) (emptied : List Nat) :
    repair parser budget s emptied = .ok ⟨s, emptied, program⟩ := by
  unfold repair
  rw [h]

theorem repair_of_error {e : ParseError s.toText} (h : parser s.toText = .error e)
    (budget : Nat) (emptied : List Nat) :
    repair parser (budget + 1) s emptied =
      if occursIn reservedName.toList (s.text (lineIn s e.offset)) then
        repair parser budget (s.blankLine (lineIn s e.offset)) (lineIn s e.offset :: emptied)
      else .error ⟨lineIn s e.offset, e.reason⟩ := by
  rw [← isRepairable_eq]
  rw [repair, h]

theorem repair_zero_of_error {e : ParseError s.toText} (h : parser s.toText = .error e)
    (emptied : List Nat) :
    repair parser 0 s emptied = .error ⟨lineIn s e.offset, e.reason⟩ := by
  rw [repair, h]

theorem mends_nil (parser : Parser) (s : Source) : Mends parser s [] := trivial

/-- Nothing is left to mend in a program that is accepted. -/
theorem eq_nil_of_mends {program : Module (Fin (byteLength s.toText))}
    (h : parser s.toText = .ok program) {lines : List Nat} (hmends : Mends parser s lines) :
    lines = [] := by
  cases lines with
  | nil => rfl
  | cons line rest =>
      obtain ⟨⟨⟨e, herror, -⟩, -⟩, -⟩ := hmends
      rw [h] at herror
      cases herror

/-- The only line that can be mended first is that of the first error. -/
theorem mends_cons_of_error {e : ParseError s.toText} (h : parser s.toText = .error e)
    (line : Nat) (rest : List Nat) :
    Mends parser s (line :: rest) ↔
      line = lineIn s e.offset ∧
        occursIn reservedName.toList (s.text (lineIn s e.offset)) = true ∧
        Mends parser (s.blankLine (lineIn s e.offset)) rest := by
  constructor
  · rintro ⟨⟨⟨e', herror, rfl⟩, hname⟩, hrest⟩
    rw [h] at herror
    obtain rfl := Except.error.inj herror
    exact ⟨rfl, hname, hrest⟩
  · rintro ⟨rfl, hname, hrest⟩
    exact ⟨⟨⟨e, h, rfl⟩, hname⟩, hrest⟩

/-- What it means that the loop ends well after some further repairs. -/
def EndsWith (parser : Parser) (s : Source) (emptied : List Nat) (r : Repaired) : Prop :=
  ∃ lines, Mends parser s lines ∧ r.source = s.blankLines lines ∧
    r.emptied = lines.reverse ++ emptied ∧ parser r.source.toText = .ok r.program

theorem endsWith_of_ok {program : Module (Fin (byteLength s.toText))}
    (h : parser s.toText = .ok program) (emptied : List Nat) (r : Repaired) :
    EndsWith parser s emptied r ↔ r = ⟨s, emptied, program⟩ := by
  constructor
  · obtain ⟨source, emptied', program'⟩ := r
    rintro ⟨lines, hmends, rfl, rfl, haccepts⟩
    obtain rfl := eq_nil_of_mends h hmends
    have hprogram := h.symm.trans haccepts
    rw [Except.ok.inj hprogram]
    rfl
  · rintro rfl
    exact ⟨[], mends_nil parser s, rfl, rfl, h⟩

theorem endsWith_of_error {e : ParseError s.toText} (h : parser s.toText = .error e)
    (emptied : List Nat) (r : Repaired) :
    EndsWith parser s emptied r ↔
      occursIn reservedName.toList (s.text (lineIn s e.offset)) = true ∧
        EndsWith parser (s.blankLine (lineIn s e.offset)) (lineIn s e.offset :: emptied) r := by
  constructor
  · rintro ⟨lines, hmends, hsource, hemptied, haccepts⟩
    cases lines with
    | nil =>
        obtain ⟨source, emptied', program'⟩ := r
        obtain rfl : source = s := hsource
        rw [h] at haccepts
        cases haccepts
    | cons line rest =>
        obtain ⟨rfl, hname, hrest⟩ := (mends_cons_of_error h line rest).mp hmends
        refine ⟨hname, rest, hrest, hsource, ?_, haccepts⟩
        simpa using hemptied
  · rintro ⟨hname, rest, hrest, hsource, hemptied, haccepts⟩
    refine ⟨lineIn s e.offset :: rest, ?_, hsource, ?_, haccepts⟩
    · exact (mends_cons_of_error h _ rest).mpr ⟨rfl, hname, hrest⟩
    · simpa using hemptied

/-- With a repair left for every line that is not empty, the budget does not
matter. -/
theorem repair_eq_ok_iff {budget : Nat} (hbudget : s.filledCount ≤ budget)
    (emptied : List Nat) (r : Repaired) :
    repair parser budget s emptied = .ok r ↔ EndsWith parser s emptied r := by
  induction budget generalizing s emptied with
  | zero =>
      cases hparser : parser s.toText with
      | ok program =>
          rw [repair_of_ok hparser, endsWith_of_ok hparser, Except.ok.injEq, eq_comm]
      | error e =>
          rw [repair_zero_of_error hparser, endsWith_of_error hparser]
          refine iff_of_false (fun h => by cases h) ?_
          rintro ⟨hname, -⟩
          have hless := Source.filledCount_blankLine_lt (canBlank_of_occursIn hname)
          omega
  | succ budget ih =>
      cases hparser : parser s.toText with
      | ok program =>
          rw [repair_of_ok hparser, endsWith_of_ok hparser, Except.ok.injEq, eq_comm]
      | error e =>
          rw [repair_of_error hparser, endsWith_of_error hparser]
          by_cases hname : occursIn reservedName.toList (s.text (lineIn s e.offset)) = true
          · have hless := Source.filledCount_blankLine_lt (canBlank_of_occursIn hname)
            rw [if_pos hname, ih (by omega)]
            exact (and_iff_right hname).symm
          · rw [if_neg hname]
            exact iff_of_false (fun h => by cases h) fun h => hname h.1

/-- The analysis of a program succeeds exactly if a list of lines can be
emptied, one after the other, after which the parser accepts the program. -/
theorem collectWith_eq_ok_iff (parser : Parser) (s : Source) (c : Collection) :
    collectWith parser s = .ok c ↔
      Mends parser s c.repaired ∧ Accepts parser (s.blankLines c.repaired) c.writes := by
  have hrepair (r : Repaired) : repair parser s.length s [] = .ok r ↔
      EndsWith parser s [] r := repair_eq_ok_iff s.filledCount_le_length [] r
  unfold collectWith
  constructor
  · intro h
    cases hr : repair parser s.length s [] with
    | error e =>
        rw [hr] at h
        cases h
    | ok r =>
        rw [hr] at h
        obtain rfl := Except.ok.inj h
        obtain ⟨lines, hmends, hsource, hemptied, haccepts⟩ := (hrepair r).mp hr
        have hlines : r.collection.repaired = lines := by
          simp [Repaired.collection, hemptied]
        rw [hlines, ← hsource]
        exact ⟨hmends, r.program, haccepts, rfl⟩
  · rintro ⟨hmends, program, haccepts, hwrites⟩
    have hr := (hrepair ⟨s.blankLines c.repaired, c.repaired.reverse, program⟩).mpr
      ⟨c.repaired, hmends, rfl, by simp, haccepts⟩
    rw [hr]
    have hcollection : Repaired.collection
        ⟨s.blankLines c.repaired, c.repaired.reverse, program⟩ = c := by
      obtain ⟨writes, repaired⟩ := c
      simp only [Repaired.collection, List.reverse_reverse, Collection.mk.injEq, and_true]
      exact hwrites
    exact congrArg Except.ok hcollection

/-! ## Wording -/

private theorem mapError_repair (wording wording' : Wording) (budget : Nat) (s : Source)
    (emptied : List Nat) :
    (repair (.ofGrammar wording) budget s emptied).mapError SyntaxError.line =
      (repair (.ofGrammar wording') budget s emptied).mapError SyntaxError.line := by
  induction budget generalizing s emptied with
  | zero =>
      cases hparse : parse s.toText with
      | ok program =>
          rw [repair_of_ok (Parser.ofGrammar_of_ok hparse wording),
            repair_of_ok (Parser.ofGrammar_of_ok hparse wording')]
      | error offset =>
          rw [repair_zero_of_error (Parser.ofGrammar_of_error hparse wording),
            repair_zero_of_error (Parser.ofGrammar_of_error hparse wording')]
          rfl
  | succ budget ih =>
      cases hparse : parse s.toText with
      | ok program =>
          rw [repair_of_ok (Parser.ofGrammar_of_ok hparse wording),
            repair_of_ok (Parser.ofGrammar_of_ok hparse wording')]
      | error offset =>
          rw [repair_of_error (Parser.ofGrammar_of_error hparse wording),
            repair_of_error (Parser.ofGrammar_of_error hparse wording')]
          split
          · exact ih _ _
          · rfl

/-- Only the errors themselves tell how they are worded. -/
theorem mapError_collect (wording wording' : Wording) (s : Source) :
    (collect wording s).mapError SyntaxError.line =
      (collect wording' s).mapError SyntaxError.line := by
  have hmap : ∀ x : Except SyntaxError Repaired,
      (x.map Repaired.collection).mapError SyntaxError.line =
        (x.mapError SyntaxError.line).map Repaired.collection := by
    rintro (e | r) <;> rfl
  unfold collect collectWith
  rw [hmap, hmap, mapError_repair wording wording']

end Writes

end Stepwise
