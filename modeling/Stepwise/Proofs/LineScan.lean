import Mathlib.Data.List.TakeWhile
import Stepwise.Proofs.Preparation

/-!
# What a scan of a line passes

A line is scanned three times: for its comment, for its words, and for the shape
of a loop header. The scans meet in one place. Where the first one stands in code,
what is in front and what is behind can be scanned apart, and so it can by the
second, unless a word goes on there.

A scan that has met a comment is at its end. So there is a state behind a text
only if the text has no comment, and a text that has one is scanned like the part
in front of the comment.

## Main results

* `stripCommentFrom_append`, `wordsFrom_append`: the scans of a text in two parts.
* `stripComment_stripComment`: there is one comment to remove.
* `opensBlock_of_isLoopHeader`: a loop header opens a block.
-/

namespace Stepwise

namespace Text

variable {c : Char} {t front behind : List Char}

/-! ## White space -/

/-- White space is not a part of words, and it has no meaning for a scan. -/
theorem plain_of_isBlankChar (h : isBlankChar c = true) :
    isWordChar c = false ∧ c ≠ '#' ∧ c ≠ '\'' ∧ c ≠ '"' := by
  have hall : ∀ run ∈ blankRuns, ∀ n ∈ List.range' run.1 (run.2 + 1 - run.1),
      isWordChar (Char.ofNat n) = false ∧ Char.ofNat n ≠ '#' ∧ Char.ofNat n ≠ '\'' ∧
        Char.ofNat n ≠ '"' := by
    decide +kernel
  simp only [isBlankChar, inRuns, List.any_eq_true, Bool.and_eq_true, decide_eq_true_eq] at h
  obtain ⟨run, hrun, hlow, hhigh⟩ := h
  have hmem : c.toNat ∈ List.range' run.1 (run.2 + 1 - run.1) := by
    rw [List.mem_range'_1]
    omega
  simpa only [Char.ofNat_toNat] using hall run hrun c.toNat hmem

theorem isBlank_cons : isBlank (c :: t) = true ↔ isBlankChar c = true ∧ isBlank t = true := by
  simp [isBlank]

theorem isBlank_reverse (t : List Char) : isBlank t.reverse = isBlank t := by
  simp [isBlank]

theorem trimStart_eq_nil_iff : trimStart t = [] ↔ isBlank t = true := by
  rw [trimStart, List.dropWhile_eq_nil_iff, isBlank, List.all_eq_true]

theorem trimStart_append_of_isBlank (h : isBlank front = true) (t : List Char) :
    trimStart (front ++ t) = trimStart t :=
  List.dropWhile_append_of_pos (List.all_eq_true.mp h)

/-- Only the front of a text is trimmed at the front, if there is anything on it. -/
theorem trimStart_append (h : isBlank t = false) (behind : List Char) :
    trimStart (t ++ behind) = trimStart t ++ behind := by
  have hrest : ¬ (t.dropWhile isBlankChar).isEmpty = true := by
    intro hnil
    have hblank : isBlank t = true := trimStart_eq_nil_iff.mp (List.isEmpty_iff.mp hnil)
    rw [h] at hblank
    cases hblank
  rw [trimStart, List.dropWhile_append, if_neg hrest, trimStart]

/-- The same if there is anything on a character behind the text. -/
theorem trimStart_append_cons (h : isBlankChar c = false) (t more : List Char) :
    trimStart (t ++ c :: more) = trimStart t ++ c :: more := by
  cases hblank : isBlank t with
  | true =>
      have hstop : trimStart (c :: more) = c :: more := List.dropWhile_cons_of_neg (by simp [h])
      rw [trimStart_append_of_isBlank hblank, hstop, trimStart_eq_nil_iff.mpr hblank,
        List.nil_append]
  | false => exact trimStart_append hblank _

theorem trimEnd_eq_reverse (t : List Char) : trimEnd t = (trimStart t.reverse).reverse := rfl

theorem trimEnd_eq_nil_iff : trimEnd t = [] ↔ isBlank t = true := by
  rw [trimEnd_eq_reverse, List.reverse_eq_nil_iff, trimStart_eq_nil_iff, isBlank_reverse]

theorem trimEnd_append (h : isBlank t = false) (front : List Char) :
    trimEnd (front ++ t) = front ++ trimEnd t := by
  have hreverse : isBlank t.reverse = false := (isBlank_reverse t).trans h
  rw [trimEnd_eq_reverse, List.reverse_append, trimStart_append hreverse, List.reverse_append,
    List.reverse_reverse, trimEnd_eq_reverse]

/-- White space at both ends of a text is trimmed with that of the text. -/
theorem trim_append_of_isBlank (hfront : isBlank front = true) (hbehind : isBlank behind = true)
    (t : List Char) : trim (front ++ t ++ behind) = trim t := by
  have hstart : trimStart (front ++ t ++ behind) = trimStart (t ++ behind) := by
    rw [List.append_assoc, trimStart_append_of_isBlank hfront]
  have hend (t : List Char) : trimEnd (t ++ behind) = trimEnd t := by
    have hreverse : isBlank behind.reverse = true := (isBlank_reverse behind).trans hbehind
    rw [trimEnd_eq_reverse, List.reverse_append, trimStart_append_of_isBlank hreverse,
      trimEnd_eq_reverse]
  rw [trim, hstart]
  cases hblank : isBlank t with
  | true =>
      have hboth : isBlank (t ++ behind) = true := by
        rw [Source.isBlank_append, hblank, hbehind, Bool.true_and]
      rw [trimStart_eq_nil_iff.mpr hboth, trim, trimStart_eq_nil_iff.mpr hblank]
  | false => rw [trimStart_append hblank, hend, trim]

end Text

namespace Source

open Stepwise.Text

/-! ## Comments -/

/-- The state of a scan behind a text, for a scan that is under way. There is none
if there is a comment in the text. -/
def scanFrom : Within → List Char → Option Within
  | w, [] => some w
  | w, c :: rest => if w = .code ∧ c = '#' then none else scanFrom (w.next c) rest

/-- The state of a scan behind a text. -/
def scan (t : List Char) : Option Within := scanFrom .code t

variable {w w' : Within} {c : Char} {t : List Char}

theorem scanFrom_cons_eq (w : Within) (c : Char) (t : List Char) :
    scanFrom w (c :: t) = if w = .code ∧ c = '#' then none else scanFrom (w.next c) t := rfl

theorem scanFrom_cons (h : ¬ (w = .code ∧ c = '#')) (t : List Char) :
    scanFrom w (c :: t) = scanFrom (w.next c) t := if_neg h

theorem scanFrom_append (w : Within) (t more : List Char) :
    scanFrom w (t ++ more) = (scanFrom w t).bind fun w' => scanFrom w' more := by
  induction t generalizing w with
  | nil => rfl
  | cons c t ih =>
      rw [List.cons_append, scanFrom_cons_eq, scanFrom_cons_eq]
      split
      · rfl
      · exact ih _

/-- A text without a comment is kept in front of anything. -/
theorem stripCommentFrom_append (h : scanFrom w t = some w') (more : List Char) :
    stripCommentFrom w (t ++ more) = t ++ stripCommentFrom w' more := by
  induction t generalizing w with
  | nil =>
      obtain rfl := Option.some.inj h
      rfl
  | cons c t ih =>
      rw [scanFrom_cons_eq] at h
      split at h
      · cases h
      · next hcode => rw [List.cons_append, stripCommentFrom, if_neg hcode, ih h, List.cons_append]

theorem stripCommentFrom_eq_self (h : scanFrom w t = some w') : stripCommentFrom w t = t := by
  simpa [stripCommentFrom] using stripCommentFrom_append h []

/-- Nothing matters behind a comment, and the scan is in code where it begins. -/
theorem stripCommentFrom_of_comment (h : scanFrom w t = none) :
    scanFrom w (stripCommentFrom w t) = some .code ∧
      ∀ more, stripCommentFrom w (t ++ more) = stripCommentFrom w t := by
  induction t generalizing w with
  | nil => cases h
  | cons c t ih =>
      rw [scanFrom_cons_eq] at h
      simp only [List.cons_append, stripCommentFrom]
      split at h
      · next hcomment =>
          rw [if_pos hcomment]
          exact ⟨congrArg some hcomment.1, fun _ => if_pos hcomment⟩
      · next hcode =>
          obtain ⟨hscan, hmore⟩ := ih h
          simp only [if_neg hcode]
          exact ⟨by rw [scanFrom_cons hcode, hscan], fun more => by rw [hmore]⟩

/-- There is no second comment in front of the first one. -/
theorem stripComment_stripComment (line : List Char) :
    stripComment (stripComment line) = stripComment line := by
  unfold stripComment
  cases hscan : scanFrom .code line with
  | none => exact stripCommentFrom_eq_self (stripCommentFrom_of_comment hscan).1
  | some w => rw [stripCommentFrom_eq_self hscan, stripCommentFrom_eq_self hscan]

theorem stripCommentFrom_of_not_mem (h : '#' ∉ t) (w : Within) : stripCommentFrom w t = t := by
  induction t generalizing w with
  | nil => rfl
  | cons c t ih =>
      rw [List.mem_cons, not_or] at h
      rw [stripCommentFrom, if_neg fun hcomment => h.1 hcomment.2.symm, ih h.2]

theorem next_of_isBlankChar (h : isBlankChar c = true) : Within.code.next c = .code := by
  obtain ⟨_, _, hsingle, hdouble⟩ := plain_of_isBlankChar h
  simp [Within.next, hsingle, hdouble]

/-- White space does not move a scan of code. -/
theorem scanFrom_of_isBlank (h : isBlank t = true) : scanFrom .code t = some .code := by
  induction t with
  | nil => rfl
  | cons c t ih =>
      obtain ⟨hc, ht⟩ := isBlank_cons.mp h
      have hcomment : c ≠ '#' := (plain_of_isBlankChar hc).2.1
      rw [scanFrom_cons (fun hboth => hcomment hboth.2), next_of_isBlankChar hc, ih ht]

/-! ## Words -/

theorem wordsFrom_code_nil (word : List Char) :
    wordsFrom .code word [] = if word.isEmpty then [] else [word.reverse] := rfl

theorem wordsFrom_code_cons (word : List Char) (c : Char) (t : List Char) :
    wordsFrom .code word (c :: t) =
      if isWordChar c then wordsFrom .code (c :: word) t
      else if word.isEmpty then wordsFrom (Within.code.next c) [] t
      else word.reverse :: wordsFrom (Within.code.next c) [] t := rfl

/-- A character that is not a part of words ends the word in front of it, and the
words behind it are those of a text of their own. -/
theorem wordsFrom_append (hscan : scanFrom w t = some .code) (hc : isWordChar c = false)
    (word more : List Char) :
    wordsFrom w word (t ++ c :: more) =
      wordsFrom w word t ++ wordsFrom (Within.code.next c) [] more := by
  induction t generalizing w word with
  | nil =>
      obtain rfl := Option.some.inj hscan
      simp only [List.nil_append, wordsFrom_code_nil, wordsFrom_code_cons, hc,
        Bool.false_eq_true, if_false]
      split
      · rfl
      · rfl
  | cons d t ih =>
      rw [scanFrom_cons_eq] at hscan
      split at hscan
      · cases hscan
      · cases w with
        | literal mark escaped => exact ih hscan word
        | code =>
            simp only [List.cons_append, wordsFrom_code_cons]
            split
            · next hd =>
                have hquote : ¬ (d = '\'' ∨ d = '"') := by
                  rintro (rfl | rfl) <;> exact absurd hd (by decide)
                have hnext : Within.code.next d = .code := if_neg hquote
                rw [hnext] at hscan
                exact ih hscan (d :: word)
            · split
              · exact ih hscan []
              · rw [ih hscan [], List.cons_append]

theorem wordsFrom_of_isBlank (h : isBlank t = true) (more : List Char) :
    wordsFrom .code [] (t ++ more) = wordsFrom .code [] more := by
  induction t with
  | nil => rfl
  | cons c t ih =>
      obtain ⟨hc, ht⟩ := isBlank_cons.mp h
      have hword : isWordChar c = false := (plain_of_isBlankChar hc).1
      have hstep := wordsFrom_append (w := .code) (t := []) rfl hword [] (t ++ more)
      rw [List.cons_append, ← List.nil_append (c :: (t ++ more)), hstep, next_of_isBlankChar hc,
        ih ht]
      rfl

/-! ## Loop headers -/

theorem stripFront?_eq_some_iff {front t rest : List Char} :
    stripFront? front t = some rest ↔ t = front ++ rest := by
  induction front generalizing t with
  | nil => simp [stripFront?]
  | cons c front ih =>
      cases t with
      | nil => simp [stripFront?]
      | cons d t =>
          rw [stripFront?, List.cons_append, List.cons.injEq]
          split
          · next heq => rw [ih, and_iff_right heq.symm]
          · next hne => exact iff_of_false nofun fun hboth => hne hboth.1.symm

theorem dropAsync_isSuffix (t : List Char) : dropAsync t <:+ t := by
  unfold dropAsync
  split
  · next c rest hasync =>
      split
      · have hrest : c :: rest <:+ t := ⟨_, (stripFront?_eq_some_iff.mp hasync).symm⟩
        exact (List.dropWhile_suffix _).trans hrest
      · exact List.suffix_refl t
  · exact List.suffix_refl t

/-- A loop header opens a block, since it ends in a colon. -/
theorem opensBlock_of_isLoopHeader {line : List Char} (h : isLoopHeader line = true) :
    opensBlock (stripComment line) = true := by
  simp only [isLoopHeader, Bool.and_eq_true, beq_iff_eq] at h
  obtain ⟨-, hcolon⟩ := h
  have hlast : (trim (stripComment line)).getLast? = some ':' := by
    obtain ⟨front, hfront⟩ := dropAsync_isSuffix (trim (stripComment line))
    rw [← hfront, List.getLast?_append, hcolon, Option.some_or]
  have htrim : trimEnd (stripComment line) =
      leadingBlank (stripComment line) ++ trim (stripComment line) := by
    have hcode : isBlank (trimStart (stripComment line)) = false := by
      rw [← Bool.not_eq_true]
      intro hblank
      rw [trim, trimEnd_eq_nil_iff.mpr hblank] at hlast
      cases hlast
    rw [trim, ← trimEnd_append hcode, leadingBlank_append_trimStart]
  rw [opensBlock, htrim, List.getLast?_append, hlast, Option.some_or]
  rfl

end Source

end Stepwise
