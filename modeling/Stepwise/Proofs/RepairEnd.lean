import Stepwise.Artifact
import Stepwise.Proofs.LineNumber
import Stepwise.Proofs.Repairs

/-!
# How the repairs of a program end

The repair loop stops at the first program that the parser accepts, or whose
first error is on a line without the reserved name. Which one that is does not
depend on a budget: the parser decides what is repaired next, so all repairs
that can be made one after the other are in front of a single list, and that
list has no line twice.

The artifact is then made from the program at which the loop stopped. It empties
the same lines in a copy of its own, and the copy is the program that the
parser accepted.

## Main results

* `repair_stops`: the loop does as many repairs as there are to do.
* `analysis_ends`: what the analysis comes to for any parser and any program,
  and what the host is asked.
-/

namespace Stepwise.Writes

open Stepwise.Grammar Stepwise.Text

variable {parser : Parser} {s : Source}

/-- Whether there is nothing more to repair in a program, and what the loop
returns for it. -/
inductive Stops (parser : Parser) (s : Source) (emptied : List Nat) :
    Except SyntaxError Repaired → Prop where
  | accepted (program : Module (Fin (byteLength s.toText)))
      (haccepts : parser s.toText = .ok program) :
      Stops parser s emptied (.ok ⟨s, emptied, program⟩)
  | refused (e : ParseError s.toText) (herror : parser s.toText = .error e)
      (hname : occursIn reservedName.toList (s.text (lineIn s e.offset)) = false) :
      Stops parser s emptied (.error ⟨lineIn s e.offset, e.reason⟩)

/-- With a repair left for every line that is not empty, the loop goes on until
there is nothing more to repair. -/
theorem repair_stops {budget : Nat} (hbudget : s.filledCount ≤ budget) (emptied : List Nat) :
    ∃ lines, Mends parser s lines ∧
      Stops parser (s.blankLines lines) (lines.reverse ++ emptied)
        (repair parser budget s emptied) := by
  induction budget generalizing s emptied with
  | zero =>
      refine ⟨[], mends_nil parser s, ?_⟩
      cases hparser : parser s.toText with
      | ok program =>
          rw [repair_of_ok hparser]
          exact .accepted program hparser
      | error e =>
          cases hname : occursIn reservedName.toList (s.text (lineIn s e.offset)) with
          | true =>
              have hless := Source.filledCount_blankLine_lt (canBlank_of_occursIn hname)
              omega
          | false =>
              rw [repair_zero_of_error hparser]
              exact .refused e hparser hname
  | succ budget ih =>
      cases hparser : parser s.toText with
      | ok program =>
          rw [repair_of_ok hparser]
          exact ⟨[], mends_nil parser s, .accepted program hparser⟩
      | error e =>
          rw [repair_of_error hparser]
          cases hname : occursIn reservedName.toList (s.text (lineIn s e.offset)) with
          | true =>
              have hless := Source.filledCount_blankLine_lt (canBlank_of_occursIn hname)
              obtain ⟨rest, hrest, hstops⟩ := ih (s := s.blankLine (lineIn s e.offset)) (by omega)
                (lineIn s e.offset :: emptied)
              refine ⟨lineIn s e.offset :: rest, ?_, ?_⟩
              · exact (mends_cons_of_error hparser _ rest).mpr ⟨rfl, hname, hrest⟩
              · rw [List.reverse_cons, List.append_assoc]
                exact hstops
          | false =>
              exact ⟨[], mends_nil parser s, .refused e hparser hname⟩

/-- The parser decides what is repaired next, up to the end of the repairs. -/
theorem starts_of_mends {lines more emptied : List Nat} {result : Except SyntaxError Repaired}
    (hlines : Mends parser s lines) (hstops : Stops parser (s.blankLines lines) emptied result)
    (hmore : Mends parser s more) : more <+: lines := by
  induction lines generalizing s more with
  | nil =>
      cases more with
      | nil => exact List.prefix_refl _
      | cons line more =>
          cases hstops with
          | accepted program haccepts =>
              have hnil := eq_nil_of_mends haccepts hmore
              cases hnil
          | refused e herror hname =>
              obtain ⟨-, hname', -⟩ := (mends_cons_of_error herror line more).mp hmore
              exact absurd hname' (by simpa using hname)
  | cons line rest ih =>
      obtain ⟨⟨⟨e, herror, rfl⟩, -⟩, hrest⟩ := hlines
      cases more with
      | nil => exact List.nil_prefix
      | cons line more =>
          obtain ⟨rfl, -, hmore⟩ := (mends_cons_of_error herror line more).mp hmore
          exact List.cons_prefix_cons.mpr ⟨rfl, ih hrest hstops hmore⟩

/-- A line that has been emptied is not repaired again. -/
theorem nodup_of_mends {lines : List Nat} (h : Mends parser s lines) : lines.Nodup := by
  induction lines generalizing s with
  | nil => exact List.nodup_nil
  | cons line rest ih =>
      obtain ⟨-, hrest⟩ := h
      refine List.nodup_cons.mpr ⟨fun hline => ?_, ih hrest⟩
      have hname := occursIn_of_mends hrest line hline
      rw [Source.text_blankLine, if_pos rfl] at hname
      exact absurd hname (by decide)

theorem lt_length_of_mends {lines : List Nat} (h : Mends parser s lines) :
    ∀ n ∈ lines, n < s.length :=
  fun n hn => Source.lt_length_of_canBlank (canBlank_of_occursIn (occursIn_of_mends h n hn))

theorem length_blankLines (s : Source) (lines : List Nat) :
    (s.blankLines lines).length = s.length := by
  induction lines generalizing s with
  | nil => rfl
  | cons line rest ih => exact (ih (s.blankLine line)).trans (s.length_blankLine line)

/-- Whether certain lines are all that is repaired in a program, in order. -/
structure IsRepair (parser : Parser) (s : Source) (lines : List Nat) : Prop where
  mends : Mends parser s lines
  /-- Whatever can be repaired one after the other is in front of these lines,
  so the loop ends with them. -/
  complete : ∀ more, Mends parser s more → more <+: lines
  nodup : lines.Nodup
  lt_length : ∀ n ∈ lines, n < s.length
  named : ∀ n ∈ lines, occursIn reservedName.toList (s.text n) = true

/-- Whether a program is another one with nothing on certain lines. -/
structure IsEmptied (s : Source) (lines : List Nat) (emptied : Source) : Prop where
  length_eq : emptied.length = s.length
  text_eq : ∀ n, emptied.text n = if n ∈ lines then [] else s.text n

end Stepwise.Writes

namespace Stepwise.Artifact

open Stepwise.Grammar Stepwise.Run Stepwise.Text Stepwise.Writes

/-- For any parser and any program, the repairs end. If the parser accepts the
program that they leave, the writes are those of its tree, and the host is asked
to run that very text. If it does not, its error is reported with the line that
the error is on, which does not have the reserved name, and the host is not asked. -/
theorem analysis_ends (parser : Parser) (s : Source) :
    ∃ lines left, IsRepair parser s lines ∧ IsEmptied s lines left ∧
      ((∃ program, parser left.toText = .ok program ∧
          collectWith parser s = .ok ⟨writesOf left program, lines⟩ ∧
          ∀ settings text, Settings.load settings text = s →
            ∀ (ε : Type) (host : Host Trace.State ε), buildWith parser settings host text =
              match host left.toText
                (Trace.Tracer.step ⟨left, settings.tracer, .standard⟩) .start with
              | .error e => .error (.run e)
              | .ok final => .ok ⟨writesOf left program, final.log, lines⟩) ∨
        ∃ e line, parser left.toText = .error e ∧
          line = lineFeedsBefore e.offset left.toText ∧
          occursIn reservedName.toList (left.text line) = false ∧
          collectWith parser s = .error ⟨line, e.reason⟩ ∧
          ∀ settings text, Settings.load settings text = s →
            ∀ (ε : Type) (host : Host Trace.State ε),
              buildWith parser settings host text = .error (.analysis ⟨line, e.reason⟩)) := by
  have hends : ∃ lines, Mends parser s lines ∧
      Stops parser (s.blankLines lines) lines.reverse (repair parser s.length s []) := by
    simpa using repair_stops s.filledCount_le_length []
  obtain ⟨lines, hmends, hstops⟩ := hends
  refine ⟨lines, s.blankLines lines, ?_, ?_, ?_⟩
  · exact ⟨hmends, fun _ => starts_of_mends hmends hstops, nodup_of_mends hmends,
      lt_length_of_mends hmends, occursIn_of_mends hmends⟩
  · exact ⟨length_blankLines s lines, s.text_blankLines lines⟩
  · generalize hresult : repair parser s.length s [] = result at hstops
    cases hstops with
    | accepted program haccepts =>
        have hcollect : collectWith parser s =
            .ok ⟨writesOf (s.blankLines lines) program, lines⟩ := by
          rw [collectWith, hresult]
          simp [Except.map, Repaired.collection, writesOf, lineIn]
        refine .inl ⟨program, haccepts, hcollect, ?_⟩
        rintro settings text rfl ε host
        rw [buildWith, hcollect]
        rfl
    | refused e herror hname =>
        have hcollect : collectWith parser s =
            .error ⟨lineIn (s.blankLines lines) e.offset, e.reason⟩ := by
          rw [collectWith, hresult]
          rfl
        refine .inr ⟨e, _, herror, LineIndex.lineOf_ofText _ _, hname, hcollect, ?_⟩
        rintro settings text rfl ε host
        rw [buildWith, hcollect]
        rfl

end Stepwise.Artifact
