import Mathlib.Data.List.Forall2
import Stepwise.Proofs.Repairs
import Stepwise.Source.Prepare

/-!
# What preparation does to a program

Preparation knows lines, and nothing of the grammar. A line of code stays as
it is up to its comment, and any other line below the first one is replaced by
an assignment. A program can be broken by either. A number sign inside of a
string literal that spans lines is no comment, but a line is judged as if it
stood alone. An assignment that is filled in can end a statement that goes on
below it, and then the error is on the line below, where it is not repaired.

What is lost is exactly what the repairs cannot bring back.

## Main results

* `text_prepare`: what becomes of each line.
* `keepsWrites_iff`: when the analysis of a program survives its preparation.
-/

namespace Stepwise

open Stepwise.Text

theorem Writes.occursIn_iff (part t : List Char) : occursIn part t = true ↔ part <:+: t := by
  induction t with
  | nil => simp [occursIn]
  | cons c rest ih =>
      rw [occursIn, Bool.or_eq_true, ih, List.isPrefixOf_iff_prefix, List.infix_cons_iff]

namespace Source

/-! ## Lines within a text -/

theorem stripCommentFrom_starts (w : Within) (line : List Char) :
    stripCommentFrom w line <+: line := by
  induction line generalizing w with
  | nil => exact List.prefix_refl _
  | cons c rest ih =>
      simp only [stripCommentFrom]
      split
      · exact List.nil_prefix
      · exact (List.cons_prefix_cons).mpr ⟨rfl, ih (w.next c)⟩

/-- The first line of a text is in front of the rest, and every line is in it
somewhere. -/
theorem splitLines_within (text : List Char) :
    (∀ line ∈ (splitLines text).head?, line <+: text) ∧
      ∀ line ∈ splitLines text, line <:+: text := by
  induction text with
  | nil => simp [splitLines]
  | cons c rest ih =>
      have hrest : ∀ line ∈ splitLines rest, line <:+: c :: rest := fun line hline =>
        (ih.2 line hline).trans (List.suffix_cons c rest).isInfix
      unfold splitLines
      split
      · refine ⟨by simp, ?_⟩
        intro line hline
        rcases List.mem_cons.mp hline with rfl | hline
        · exact List.nil_infix
        · exact hrest line hline
      · split
        · next hreturn =>
            refine ⟨?_, hrest⟩
            cases rest with
            | nil => simp at hreturn
            | cons d rest =>
                obtain rfl : d = '\n' := by simpa using hreturn.2
                simp [splitLines]
        · split
          · next d below line lines _ hlines =>
              rw [hlines] at ih hrest
              have hfirst : c :: line <+: c :: d :: below :=
                List.cons_prefix_cons.mpr ⟨rfl, ih.1 line rfl⟩
              refine ⟨by simpa using hfirst, ?_⟩
              intro line' hline
              rcases List.mem_cons.mp hline with rfl | hline
              · exact hfirst.isInfix
              · exact hrest line' (List.mem_cons_of_mem _ hline)
          · refine ⟨by simp, ?_⟩
            intro line hline
            rcases List.mem_cons.mp hline with rfl | hline
            · have hfirst (below : List Char) : [c] <+: c :: below :=
                List.cons_prefix_cons.mpr ⟨rfl, List.nil_prefix⟩
              exact (hfirst _).isInfix
            · exact hrest line hline

/-! ## The two passes -/

theorem isBlank_append (t more : List Char) :
    isBlank (t ++ more) = (isBlank t && isBlank more) := by
  simp [isBlank]

theorem isBlank_leadingBlank (line : List Char) : isBlank (leadingBlank line) = true := by
  unfold isBlank leadingBlank
  exact List.all_takeWhile

/-- What the pass from above makes of a line. -/
def Indents (line out : List Char) : Prop :=
  if isBlank line = true then isBlank out = true else out = line

/-- What both passes make of a line. -/
def Fills (line out : List Char) : Prop :=
  if isBlank line = true then ∃ indent, isBlank indent = true ∧ out = filler indent
  else out = line

theorem indents_indentBlanks {block : Option (List Char)} (lines : List (List Char))
    (hblock : ∀ indent ∈ block, isBlank indent = true) :
    List.Forall₂ Indents lines (indentBlanks block lines) := by
  induction lines generalizing block with
  | nil => exact .nil
  | cons line rest ih =>
      unfold indentBlanks
      by_cases hblank : isBlank line = true
      · rw [if_pos hblank]
        refine .cons ?_ (ih hblock)
        rw [Indents, if_pos hblank]
        cases block with
        | none => exact hblank
        | some indent =>
            rw [isBlank_append, hblock indent rfl]
            decide
      · rw [if_neg hblank]
        have hline : Indents line line := by rw [Indents, if_neg hblank]
        split
        · refine .cons hline (ih ?_)
          intro indent hindent
          obtain rfl := Option.some.inj hindent
          exact isBlank_leadingBlank line
        · exact .cons hline (ih (by simp))

theorem isBlank_longer {indent below : List Char} (hindent : isBlank indent = true)
    (hbelow : isBlank below = true) : isBlank (longer indent below) = true := by
  unfold longer
  split
  · exact hindent
  · exact hbelow

/-- The pass from below fills what the pass from above has left blank. -/
theorem fills_fillBlanks {lines indented : List (List Char)}
    (h : List.Forall₂ Indents lines indented) :
    List.Forall₂ Fills lines (fillBlanks indented).1 ∧
      isBlank (fillBlanks indented).2 = true := by
  induction h with
  | nil => exact ⟨.nil, rfl⟩
  | @cons line out lines indented hline _ ih =>
      obtain ⟨hfills, hbelow⟩ := ih
      simp only [fillBlanks]
      by_cases hblank : isBlank line = true
      · have hout : isBlank out = true := by
          rw [Indents, if_pos hblank] at hline
          exact hline
        rw [if_pos hout]
        refine ⟨.cons ?_ hfills, hbelow⟩
        rw [Fills, if_pos hblank]
        exact ⟨_, isBlank_longer hout hbelow, rfl⟩
      · obtain rfl : out = line := by
          rw [Indents, if_neg hblank] at hline
          exact hline
        rw [if_neg hblank]
        refine ⟨.cons ?_ hfills, isBlank_leadingBlank out⟩
        rw [Fills, if_neg hblank]

/-- The pass from above leaves the first line alone. -/
theorem indentBlanks_cons (first : List Char) (rest : List (List Char)) :
    ∃ block : Option (List Char), (∀ indent ∈ block, isBlank indent = true) ∧
      indentBlanks none (first :: rest) = first :: indentBlanks block rest := by
  simp only [indentBlanks.eq_def none (first :: rest)]
  split
  · exact ⟨none, by simp, rfl⟩
  · split
    · refine ⟨some (leadingBlank first), ?_, rfl⟩
      intro indent hindent
      obtain rfl := Option.some.inj hindent
      exact isBlank_leadingBlank first
    · exact ⟨none, by simp, rfl⟩

/-- The first line of a program loses its comment, and so do the others, but
those with nothing else are filled. -/
theorem fills_prepare {text first : List Char} {rest : List (List Char)}
    (h : splitLines text = first :: rest) :
    ∃ filled, (prepare text).lines = stripComment first :: filled ∧
      List.Forall₂ Fills (rest.map stripComment) filled := by
  obtain ⟨block, hblock, hcons⟩ :=
    indentBlanks_cons (stripComment first) (rest.map stripComment)
  refine ⟨(fillBlanks (indentBlanks block (rest.map stripComment))).1, ?_, ?_⟩
  · rw [prepare, h, List.map_cons, hcons]
    rfl
  · exact (fills_fillBlanks (indents_indentBlanks _ hblock)).1

/-- Whether preparation fills a line: it is below the first one, and there is
nothing on it but a comment. -/
def IsFilled (text : List Char) (n : Nat) : Prop :=
  0 < n ∧ n < (ofText text).length ∧ isBlank (stripComment ((ofText text).text n)) = true

theorem text_ofText_of_lines {text first : List Char} {rest : List (List Char)}
    (h : splitLines text = first :: rest) (n : Nat) :
    (ofText text).text (n + 1) = rest[n]?.getD [] := by
  simp [Source.text, line?, ofText, h]

/-- A line that is not filled keeps its code, and there is nothing behind the
last line. -/
theorem text_prepare_succ {text first : List Char} {rest filled : List (List Char)}
    (hrest : splitLines text = first :: rest)
    (hlines : (prepare text).lines = stripComment first :: filled)
    (hfills : List.Forall₂ Fills (rest.map stripComment) filled) (n : Nat) :
    if n < rest.length then
      Fills (stripComment ((ofText text).text (n + 1))) ((prepare text).text (n + 1))
    else (ofText text).text (n + 1) = [] ∧ (prepare text).text (n + 1) = [] := by
  have hprepared : (prepare text).text (n + 1) = filled[n]?.getD [] := by
    simp [Source.text, line?, hlines]
  have hlength : rest.length = filled.length := by
    simpa using hfills.length_eq
  rw [text_ofText_of_lines hrest, hprepared]
  split
  · next hn =>
      have hfill := hfills.get (by simpa using hn) (by rwa [← hlength])
      simpa [List.getElem?_eq_getElem hn, List.getElem?_eq_getElem (hlength ▸ hn)] using hfill
  · next hn =>
      rw [Nat.not_lt] at hn
      rw [List.getElem?_eq_none hn, List.getElem?_eq_none (hlength ▸ hn)]
      exact ⟨rfl, rfl⟩

/-- What becomes of the lines of a program: they lose their comments, and those
that have nothing else are filled, but for the first one. -/
theorem text_prepare (text : List Char) (n : Nat) :
    (IsFilled text n → ∃ indent, isBlank indent = true ∧
      (prepare text).text n = filler indent) ∧
    (¬ IsFilled text n → (prepare text).text n = stripComment ((ofText text).text n)) := by
  cases hsplit : splitLines text with
  | nil =>
      have hlines : (prepare text).lines = [] := by
        rw [prepare, hsplit]
        rfl
      have hempty : (ofText text).lines = [] := hsplit
      refine ⟨?_, fun _ => ?_⟩
      · rintro ⟨-, hn, -⟩
        simp [Source.length, hempty] at hn
      · simp [Source.text, line?, hlines, hempty, stripComment, stripCommentFrom]
  | cons first rest =>
      obtain ⟨filled, hlines, hfills⟩ := fills_prepare hsplit
      cases n with
      | zero =>
          refine ⟨fun h => absurd h.1 (Nat.lt_irrefl 0), fun _ => ?_⟩
          simp [Source.text, line?, hlines, ofText, hsplit]
      | succ n =>
          have hline := text_prepare_succ hsplit hlines hfills n
          have hlength : (ofText text).length = rest.length + 1 := by
            simp [Source.length, ofText, hsplit]
          unfold IsFilled
          rw [hlength]
          by_cases hn : n < rest.length
          · rw [if_pos hn, Fills] at hline
            split at hline
            · next hblank =>
                refine ⟨fun _ => hline, fun h => absurd ⟨?_, ?_, hblank⟩ h⟩
                · exact Nat.succ_pos n
                · exact Nat.succ_lt_succ hn
            · next hcode => exact ⟨fun h => absurd h.2.2 hcode, fun _ => hline⟩
          · rw [if_neg hn] at hline
            refine ⟨fun h => absurd (Nat.lt_of_succ_lt_succ h.2.1) hn, fun _ => ?_⟩
            rw [hline.1, hline.2]
            rfl

/-- A line that contains the reserved name was filled, if the program as it was
written does not contain that name. -/
theorem isFilled_of_occursIn {text : List Char}
    (htext : Writes.occursIn reservedName.toList text = false) {n : Nat}
    (h : Writes.occursIn reservedName.toList ((prepare text).text n) = true) :
    IsFilled text n := by
  by_cases hfilled : IsFilled text n
  · exact hfilled
  · rw [(text_prepare text n).2 hfilled, Writes.occursIn_iff] at h
    have hline := h.trans (stripCommentFrom_starts .code _).isInfix
    have hoccurs : (ofText text).text n <:+: text := by
      unfold Source.text line?
      cases hget : (ofText text).lines[n]? with
      | none => exact List.nil_infix
      | some line => exact (splitLines_within text).2 line (List.mem_of_getElem? hget)
    have hname := (Writes.occursIn_iff _ _).mpr (hline.trans hoccurs)
    rw [htext] at hname
    cases hname

end Source

namespace Writes

open Source

/-- Whether the analysis of a program that is accepted as written finds the
same writes in it once it is prepared. -/
def KeepsWrites (parser : Parser) (text : List Char) : Prop :=
  ∀ writes, Accepts parser (ofText text) writes →
    ∃ c, collectWith parser (prepare text) = .ok c ∧ c.writes = writes

/-- Preparation keeps the writes of a program exactly if there are lines that
can be emptied, one after the other, because the first error is on them, after
which the parser accepts the program with the writes that it had. All these
lines have been filled, if the program does not contain the reserved name. -/
theorem keepsWrites_iff (parser : Parser) (text : List Char) :
    KeepsWrites parser text ↔
      ∀ writes, Accepts parser (ofText text) writes →
        ∃ emptied, Mends parser (prepare text) emptied ∧
          Accepts parser ((prepare text).blankLines emptied) writes ∧
          (occursIn reservedName.toList text = false → ∀ n ∈ emptied, IsFilled text n) := by
  constructor
  · intro h writes hwritten
    obtain ⟨c, hcollect, rfl⟩ := h writes hwritten
    obtain ⟨hmends, haccepts⟩ := (collectWith_eq_ok_iff parser (prepare text) c).mp hcollect
    refine ⟨c.repaired, hmends, haccepts, fun hname n hn => ?_⟩
    exact isFilled_of_occursIn hname (occursIn_of_mends hmends n hn)
  · intro h writes hwritten
    obtain ⟨emptied, hmends, haccepts, -⟩ := h writes hwritten
    have hcollect := (collectWith_eq_ok_iff parser (prepare text) ⟨writes, emptied⟩).mpr
      ⟨hmends, haccepts⟩
    exact ⟨⟨writes, emptied⟩, hcollect, rfl⟩

deriving instance DecidableEq for Collection

/-- What the analysis finds does not depend on how errors are worded. -/
theorem toOption_collect (wording wording' : Wording) (s : Source) :
    (collect wording s).toOption = (collect wording' s).toOption := by
  have hforget : ∀ x : Except SyntaxError Collection,
      (x.mapError SyntaxError.line).toOption = x.toOption := by
    rintro (e | c) <;> rfl
  rw [← hforget, mapError_collect wording wording', hforget]

/-- A program that is accepted as it is written but not once it is prepared. -/
private theorem not_keepsWrites {wording : Wording} {text : List Char} {writes : WriteMap}
    (hwritten : (collect wording (ofText text)).toOption = some ⟨writes, []⟩)
    (hprepared : (collect wording (prepare text)).toOption = none) (wording' : Wording) :
    ¬ KeepsWrites (.ofGrammar wording') text := by
  rw [toOption_collect wording wording'] at hwritten hprepared
  intro h
  have hcollect : collectWith (.ofGrammar wording') (ofText text) = .ok ⟨writes, []⟩ := by
    change collect wording' (ofText text) = _
    cases hresult : collect wording' (ofText text) with
    | error e => simp [hresult, Except.toOption] at hwritten
    | ok c => simpa [hresult, Except.toOption] using hwritten
  have haccepts := ((collectWith_eq_ok_iff (.ofGrammar wording') (ofText text) _).mp hcollect).2
  obtain ⟨c, hkept, -⟩ := h writes haccepts
  rw [show collect wording' (prepare text) = .ok c from hkept] at hprepared
  cases hprepared

/-- A number sign on the second line of a string literal. -/
def quotedMark : List Char := "x = '''\n#'''\n".toList

/-- A blank line between a block and an `else`. -/
def blankAboveElse : List Char := "if a:\n    x = 1\n\nelse:\n    x = 2\n".toList

/-- Preparation can break a program: it removes a part of a literal, or it ends
a statement that goes on below a blank line. -/
theorem not_forall_keepsWrites :
    (∀ wording, ¬ KeepsWrites (.ofGrammar wording) quotedMark) ∧
      ∀ wording, ¬ KeepsWrites (.ofGrammar wording) blankAboveElse := by
  constructor
  · have hwritten : (collect (fun _ _ => "") (ofText quotedMark)).toOption =
        some ⟨⟨[(0, ["x"])]⟩, []⟩ := by decide +kernel
    have hprepared : (collect (fun _ _ => "") (prepare quotedMark)).toOption = none := by
      decide +kernel
    exact not_keepsWrites hwritten hprepared
  · have hwritten : (collect (fun _ _ => "") (ofText blankAboveElse)).toOption =
        some ⟨⟨[(1, ["x"]), (4, ["x"])]⟩, []⟩ := by decide +kernel
    have hprepared : (collect (fun _ _ => "") (prepare blankAboveElse)).toOption = none := by
      decide +kernel
    exact not_keepsWrites hwritten hprepared

end Writes

end Stepwise
