import Stepwise.Proofs.RepairEnd
import Stepwise.Proofs.WriteSites

/-!
# Places on lines

Lines are numbered twice. A program has a list of lines, and an index of its
text has the offsets at which lines start. What is reported is a line of the
index and is shown as a line of the program, so the two have to be the same
lines: the byte at an offset has to be found on the line that the index gives,
at its distance from the start of that line.

They are the same since no line of a program has a line feed on it. The text is
then taken apart line by line, and the index with it. A program without lines
has the text of a program with one empty line, and is treated as that.

The end of the text is behind the last line feed, and so it is no place on any
line of the program. An error that is found only there counts as one on the line
that would be next.

## Main results

* `starts_ofText_toText`: the lines of an index start where those of the program
  do.
* `isPartitionPoint_iff`: a line can be searched for in any way.
* `isOn_lineFeedsBefore`: the byte at an offset is on its line.
* `reported_lines`: errors and writes are where they are reported to be.
-/

namespace Stepwise

open Stepwise.Text

/-! ## The first line of a text -/

namespace Text

variable {line : List Char}

theorem bytes_line (line rest : List Char) :
    bytes (line ++ '\n' :: rest) = bytes line ++ 10 :: bytes rest := bytes_append line _

theorem byteLength_line (line rest : List Char) :
    byteLength (line ++ '\n' :: rest) = byteLength line + 1 + byteLength rest := by
  rw [byteLength_append, Nat.add_assoc]
  rfl

theorem count_bytes_line (hline : '\n' ∉ line) : (bytes line).count 10 = 0 := by
  rw [Source.count_bytes, List.count_eq_zero]
  exact hline

/-- No line feed is in front of an offset on the first line. -/
theorem lineFeedsBefore_of_le (hline : '\n' ∉ line) {offset : Nat} (h : offset ≤ byteLength line)
    (rest : List Char) : lineFeedsBefore offset (line ++ rest) = 0 := by
  have hcount := (List.take_sublist offset (bytes line)).count_le 10
  rw [count_bytes_line hline] at hcount
  rw [lineFeedsBefore, bytes_append, List.take_append_of_le_length (by rwa [length_bytes])]
  exact Nat.le_zero.mp hcount

/-- Behind the first line there is one line feed more than behind its end. -/
theorem lineFeedsBefore_behind (hline : '\n' ∉ line) (distance : Nat) (rest : List Char) :
    lineFeedsBefore (byteLength line + 1 + distance) (line ++ '\n' :: rest) =
      lineFeedsBefore distance rest + 1 := by
  have htake : (bytes (line ++ '\n' :: rest)).take (byteLength line + 1 + distance) =
      bytes line ++ 10 :: (bytes rest).take distance := by
    rw [bytes_line, ← length_bytes, Nat.add_assoc, List.take_length_add_append, Nat.add_comm 1,
      List.take_succ_cons]
  rw [lineFeedsBefore, htake, List.count_append, count_bytes_line hline, List.count_cons_self,
    Nat.zero_add]
  rfl

end Text

/-! ## Offsets and the lines of a program -/

namespace Source

/-- The number of bytes in front of a line: those of the lines in front of it,
and a line feed behind each of them. -/
def lineStart (s : Source) : Nat → Nat
  | 0 => 0
  | n + 1 => s.lineStart n + byteLength (s.text n) + 1

/-- Whether an offset into the text of a program is on a line: the byte there is
one of the line, at its distance from the start of the line, or it is the line
feed that ends the line. A program without lines has one empty line here. -/
inductive IsOn (s : Source) (offset line : Nat) : Prop where
  | byte (distance : Nat) (hoffset : offset = s.lineStart line + distance)
      (hdistance : distance < byteLength (s.text line))
      (hbyte : (bytes s.toText)[offset]? = (bytes (s.text line))[distance]?)
  | lineFeed (hline : line < max 1 s.length)
      (hoffset : offset = s.lineStart line + byteLength (s.text line))
      (hbyte : (bytes s.toText)[offset]? = some 10)

theorem lineStart_cons (line : List Char) (rest : List (List Char)) (n : Nat) :
    lineStart ⟨line :: rest⟩ (n + 1) = byteLength line + 1 + lineStart ⟨rest⟩ n := by
  induction n with
  | zero =>
      show 0 + byteLength line + 1 = byteLength line + 1 + 0
      omega
  | succ n ih =>
      have htext : text ⟨line :: rest⟩ (n + 1) = text ⟨rest⟩ n := rfl
      rw [lineStart, ih, htext, lineStart]
      omega

theorem toText_cons (line next : List Char) (rest : List (List Char)) :
    toText ⟨line :: next :: rest⟩ = line ++ '\n' :: toText ⟨next :: rest⟩ := by
  simp [toText, List.intercalate_cons_cons]

theorem toText_singleton (line : List Char) : toText ⟨[line]⟩ = line ++ '\n' :: [] := by
  simp [toText, List.intercalate]

/-- A place on a line is on the same line if another line is put in front. -/
theorem IsOn.cons {next : List Char} {rest : List (List Char)} {offset n : Nat}
    (h : IsOn ⟨next :: rest⟩ offset n) (line : List Char) :
    IsOn ⟨line :: next :: rest⟩ (byteLength line + 1 + offset) (n + 1) := by
  have hbytes : (bytes (toText ⟨line :: next :: rest⟩))[byteLength line + 1 + offset]? =
      (bytes (toText ⟨next :: rest⟩))[offset]? := by
    rw [toText_cons, bytes_line, ← length_bytes, Nat.add_assoc,
      List.getElem?_append_right (Nat.le_add_right _ _), Nat.add_sub_cancel_left, Nat.add_comm 1,
      List.getElem?_cons_succ]
  cases h with
  | byte distance hoffset hdistance hbyte =>
      refine .byte distance ?_ hdistance (hbytes.trans hbyte)
      rw [lineStart_cons, hoffset, Nat.add_assoc _ _ distance]
  | lineFeed hn hoffset hbyte =>
      have hlength : n + 1 < max 1 (length ⟨line :: next :: rest⟩) := by
        simp only [length, List.length_cons] at hn ⊢
        omega
      refine .lineFeed hlength ?_ (hbytes.trans hbyte)
      have htext : text ⟨line :: next :: rest⟩ (n + 1) = text ⟨next :: rest⟩ n := rfl
      rw [lineStart_cons, htext, hoffset, Nat.add_assoc _ (lineStart _ n)]

/-- What is in front of the end of the first line is on the first line. -/
theorem isOn_first {line : List Char} {rest : List (List Char)} {offset : Nat}
    (h : offset ≤ byteLength line) {behind : List Char}
    (htext : toText ⟨line :: rest⟩ = line ++ '\n' :: behind) :
    IsOn ⟨line :: rest⟩ offset 0 := by
  have hstart : lineStart ⟨line :: rest⟩ 0 = 0 := rfl
  have hline : text ⟨line :: rest⟩ 0 = line := rfl
  rcases Nat.lt_or_eq_of_le h with hlt | rfl
  · refine .byte offset (by rw [hstart, Nat.zero_add]) hlt ?_
    rw [htext, hline, bytes_line, List.getElem?_append_left (by rwa [length_bytes])]
  · refine .lineFeed (Nat.le_max_left 1 _) (by rw [hstart, hline, Nat.zero_add]) ?_
    rw [htext, bytes_line, ← length_bytes, List.getElem?_append_right (Nat.le_refl _),
      Nat.sub_self]
    rfl

/-- The byte at an offset is on the line that has as many line feeds in front. -/
theorem isOn_lineFeedsBefore {s : Source} (h : s.IsSplit) {offset : Nat}
    (hoffset : offset < byteLength s.toText) : s.IsOn offset (lineFeedsBefore offset s.toText) := by
  obtain ⟨lines⟩ := s
  cases lines with
  | nil =>
      have hzero : offset = 0 := Nat.lt_one_iff.mp hoffset
      subst hzero
      exact .lineFeed Nat.one_pos rfl rfl
  | cons line rest =>
      -- The line is the first one, or the offset is behind its line feed.
      induction rest generalizing line offset with
      | nil =>
          obtain ⟨hline, -⟩ := areLines_cons.mp h
          rw [toText_singleton, byteLength_line] at hoffset
          have hle : offset ≤ byteLength line := Nat.lt_succ_iff.mp hoffset
          have hzero : lineFeedsBefore offset (toText ⟨[line]⟩) = 0 := by
            rw [toText_singleton]
            exact lineFeedsBefore_of_le hline hle _
          rw [hzero]
          exact isOn_first hle (toText_singleton line)
      | cons next rest ih =>
          obtain ⟨hline, hrest⟩ := areLines_cons.mp h
          rw [toText_cons, byteLength_line] at hoffset
          by_cases hle : offset ≤ byteLength line
          · have hzero : lineFeedsBefore offset (toText ⟨line :: next :: rest⟩) = 0 := by
              rw [toText_cons]
              exact lineFeedsBefore_of_le hline hle _
            rw [hzero]
            exact isOn_first hle (toText_cons line next rest)
          · obtain ⟨distance, rfl⟩ : ∃ distance, offset = byteLength line + 1 + distance :=
              Nat.exists_eq_add_of_le (by omega)
            rw [toText_cons, lineFeedsBefore_behind hline]
            exact (ih next hrest (by omega)).cons line

/-- In front of the end of the text there is a line feed for every line. -/
theorem lineFeedsBefore_end {s : Source} (h : s.IsSplit) :
    lineFeedsBefore (byteLength s.toText) s.toText = max 1 s.length := by
  have hcount : (bytes s.toText).count 10 = s.lines.length - 1 + 1 := by
    rw [count_bytes, toText, List.count_append, count_intercalate h]
    rfl
  have hlength : s.lines.length = s.length := rfl
  rw [lineFeedsBefore, List.take_of_length_le (Nat.le_of_eq (length_bytes _)), hcount]
  omega

end Source

/-! ## The starts of an index -/

namespace Writes.LineIndex

open Stepwise.Source

theorem startsBehind_line {line : List Char} (hline : '\n' ∉ line) (base : Nat)
    (rest : List Char) :
    startsBehind base (line ++ '\n' :: rest) =
      (base + byteLength line + 1) :: startsBehind (base + byteLength line + 1) rest := by
  induction line generalizing base with
  | nil => rfl
  | cons c line ih =>
      obtain ⟨hc, hline⟩ := not_or.mp (List.mem_cons.not.mp hline)
      rw [List.cons_append, startsBehind, if_neg (Ne.symm hc), ih hline, byteLength,
        Nat.add_assoc base]

theorem startsBehind_toText {line : List Char} {rest : List (List Char)}
    (h : AreLines (line :: rest)) (base : Nat) :
    startsBehind base (toText ⟨line :: rest⟩) =
      (List.range (rest.length + 1)).map fun n => base + lineStart ⟨line :: rest⟩ (n + 1) := by
  obtain ⟨hline, hrest⟩ := areLines_cons.mp h
  induction rest generalizing line base with
  | nil =>
      rw [toText_singleton, startsBehind_line hline]
      simp [startsBehind, lineStart, text, line?, Nat.add_assoc]
  | cons next rest ih =>
      obtain ⟨hnext, hbehind⟩ := areLines_cons.mp hrest
      rw [toText_cons, startsBehind_line hline, ih hrest _ hnext hbehind, List.length_cons,
        List.range_succ_eq_map (n := rest.length + 1), List.map_cons, List.map_map]
      refine congrArg₂ _ ?_ (List.map_congr_left fun n _ => ?_)
      · rw [lineStart_cons]
        rfl
      · show _ = base + lineStart ⟨line :: next :: rest⟩ (n + 1 + 1)
        rw [lineStart_cons line]
        omega

/-- The lines of an index start where those of the program do, and there is one
more start at the end of the text. -/
theorem starts_ofText_toText {s : Source} (h : s.IsSplit) :
    (ofText s.toText).starts = (List.range (max 1 s.length + 1)).map s.lineStart := by
  obtain ⟨lines⟩ := s
  cases lines with
  | nil => rfl
  | cons line rest =>
      have hlength : max 1 (length ⟨line :: rest⟩) = rest.length + 1 :=
        Nat.max_eq_right (Nat.succ_le_succ (Nat.zero_le _))
      rw [hlength, List.range_succ_eq_map, List.map_cons, List.map_map]
      refine congrArg₂ _ rfl ((startsBehind_toText h 0).trans ?_)
      exact List.map_congr_left fun n _ => Nat.zero_add _

theorem pairwise_startsBehind (base : Nat) (t : List Char) :
    (startsBehind base t).Pairwise (· < ·) := by
  induction t generalizing base with
  | nil => exact List.Pairwise.nil
  | cons c rest ih =>
      unfold startsBehind
      split
      · exact List.pairwise_cons.mpr ⟨fun _ => lt_of_mem_startsBehind, ih _⟩
      · exact ih _

/-- The starts of lines rise. -/
theorem pairwise_starts (t : List Char) : (ofText t).starts.Pairwise (· < ·) :=
  List.pairwise_cons.mpr ⟨fun _ => lt_of_mem_startsBehind, pairwise_startsBehind 0 t⟩

/-- Whether so many starts are at or in front of an offset, and all others behind
it. This is what is searched for, in whatever way. -/
structure IsPartitionPoint (starts : List Nat) (offset count : Nat) : Prop where
  le_length : count ≤ starts.length
  front : ∀ start ∈ starts.take count, start ≤ offset
  behind : ∀ start ∈ starts.drop count, offset < start

/-- There is only one such point, and if the starts rise there is one. -/
theorem isPartitionPoint_iff {starts : List Nat} (h : starts.Pairwise (· < ·))
    (offset count : Nat) :
    IsPartitionPoint starts offset count ↔ count = (starts.takeWhile (· ≤ offset)).length := by
  induction starts generalizing count with
  | nil =>
      refine ⟨fun hpoint => Nat.le_zero.mp hpoint.le_length, ?_⟩
      rintro rfl
      exact ⟨Nat.le_refl 0, by simp, by simp⟩
  | cons start rest ih =>
      obtain ⟨hstart, hrest⟩ := List.pairwise_cons.mp h
      by_cases hle : start ≤ offset
      · rw [List.takeWhile_cons_of_pos (by simpa using hle), List.length_cons]
        constructor
        · rintro ⟨hlength, hfront, hbehind⟩
          cases count with
          | zero =>
              have hlt := hbehind start List.mem_cons_self
              omega
          | succ count =>
              refine congrArg (· + 1) ((ih hrest count).mp ⟨Nat.le_of_succ_le_succ hlength, ?_, ?_⟩)
              · exact fun other hother => hfront other (List.mem_cons_of_mem _ hother)
              · exact hbehind
        · rintro rfl
          obtain ⟨hlength, hfront, hbehind⟩ := (ih hrest _).mpr rfl
          exact ⟨Nat.succ_le_succ hlength, List.forall_mem_cons.mpr ⟨hle, hfront⟩, hbehind⟩
      · rw [List.takeWhile_cons_of_neg (by simpa using hle), List.length_nil]
        constructor
        · rintro ⟨-, hfront, -⟩
          cases count with
          | zero => rfl
          | succ count => exact absurd (hfront start List.mem_cons_self) hle
        · rintro rfl
          refine ⟨Nat.zero_le _, by simp, List.forall_mem_cons.mpr ⟨Nat.lt_of_not_le hle, ?_⟩⟩
          intro other hother
          have hlt := hstart other hother
          omega

/-- The line of an offset is found by any search. -/
theorem isPartitionPoint_ofText_iff (t : List Char) (offset count : Nat) :
    IsPartitionPoint (ofText t).starts offset count ↔ count = (ofText t).lineOf offset + 1 := by
  have hfirst : ((ofText t).starts.takeWhile (· ≤ offset)).length =
      (ofText t).lineOf offset + 1 := by
    rw [lineOf, ofText, List.takeWhile_cons_of_pos (by simp), List.length_cons,
      Nat.add_sub_cancel]
  rw [isPartitionPoint_iff (pairwise_starts t), hfirst]

end Writes.LineIndex

/-! ## What is reported -/

namespace Source

/-- Whether a program is a text, as it was written or prepared, with nothing on
some lines. -/
inductive IsMade : Source → Prop where
  | ofText (text : List Char) : IsMade (ofText text)
  | prepare (text : List Char) : IsMade (prepare text)
  | blankLine {s : Source} (h : IsMade s) (n : Nat) : IsMade (s.blankLine n)

theorem IsMade.isSplit {s : Source} (h : s.IsMade) : s.IsSplit := by
  induction h with
  | ofText text => exact isSplit_ofText text
  | prepare text => exact isSplit_prepare text
  | blankLine _ n ih => exact isSplit_blankLine ih n

end Source

namespace Writes

open Stepwise.Grammar Stepwise.Source

variable {parser : Parser} {s : Source}

/-- Whether an index finds the lines of a program. -/
structure FindsLines (s : Source) (index : LineIndex) : Prop where
  /-- The last start is at the end of the text. -/
  starts_eq : index.starts = (List.range (max 1 s.length + 1)).map s.lineStart
  /-- Any search comes to the same line. -/
  found_iff : ∀ offset count,
    LineIndex.IsPartitionPoint index.starts offset count ↔ count = index.lineOf offset + 1
  lineOf_eq : ∀ offset, index.lineOf offset = lineFeedsBefore offset s.toText
  isOn : ∀ offset < byteLength s.toText, s.IsOn offset (index.lineOf offset)

theorem findsLines_ofText (h : s.IsSplit) : FindsLines s (.ofText s.toText) where
  starts_eq := LineIndex.starts_ofText_toText h
  found_iff := LineIndex.isPartitionPoint_ofText_iff s.toText
  lineOf_eq := LineIndex.lineOf_ofText s.toText
  isOn offset hoffset := by
    rw [LineIndex.lineOf_ofText]
    exact isOn_lineFeedsBefore h hoffset

/-- The end of an empty program is behind its line feed. -/
example : (LineIndex.ofText (Source.ofText []).toText).starts = [0, 1] := rfl

/-- The analysis fails with the first error in a program that has been repaired as far
as possible, and with its line. -/
theorem exists_of_collectWith_eq_error {e : SyntaxError} (h : collectWith parser s = .error e) :
    ∃ lines failure, Mends parser s lines ∧ parser (s.blankLines lines).toText = .error failure ∧
      e = ⟨lineIn (s.blankLines lines) failure.offset, failure.reason⟩ := by
  obtain ⟨lines, hmends, hstops⟩ : ∃ lines, Mends parser s lines ∧
      Stops parser (s.blankLines lines) (lines.reverse ++ []) (repair parser s.length s []) :=
    repair_stops s.filledCount_le_length []
  rw [collectWith] at h
  generalize repair parser s.length s [] = result at h hstops
  cases hstops with
  | accepted program haccepts => cases h
  | refused failure herror hname => exact ⟨lines, failure, hmends, herror, (Except.error.inj h).symm⟩

/-- For any program, the index of its text finds its lines. Every write that is
reported is on the line that is reported for it, and so is an error, unless it
is at the end of the text; then it is reported on the line behind the last. What the
parser says about an error is reported as it is. -/
theorem reported_lines (h : s.IsMade) (parser : Parser) :
    FindsLines s (.ofText s.toText) ∧
    (∀ c, collectWith parser s = .ok c →
      ∃ program, parser (s.blankLines c.repaired).toText = .ok program ∧
        ∀ write ∈ c.writes.pairs, ∃ place, (place, write.2) ∈ program.writes ∧
          (s.blankLines c.repaired).IsOn place.val write.1) ∧
    ∀ e, collectWith parser s = .error e →
      ∃ lines failure, Mends parser s lines ∧
        parser (s.blankLines lines).toText = .error failure ∧ e.reason = failure.reason ∧
        ((s.blankLines lines).IsOn failure.offset.val e.line ∨
          failure.offset.val = byteLength (s.blankLines lines).toText ∧
            e.line = max 1 s.length) := by
  refine ⟨findsLines_ofText h.isSplit, fun c hcollect => ?_, fun e hcollect => ?_⟩
  · obtain ⟨-, program, hparses, hwrites⟩ := (collectWith_eq_ok_iff parser s c).mp hcollect
    refine ⟨program, hparses, fun write hwrite => ?_⟩
    rw [← hwrites] at hwrite
    obtain ⟨place, hplace, hline⟩ := mem_pairs_writesOf_iff.mp hwrite
    have hfinds := findsLines_ofText (isSplit_blankLines h.isSplit c.repaired)
    exact ⟨place, hplace, hline ▸ hfinds.isOn place.val place.isLt⟩
  · obtain ⟨lines, failure, hmends, herror, rfl⟩ := exists_of_collectWith_eq_error hcollect
    refine ⟨lines, failure, hmends, herror, rfl, ?_⟩
    have hsplit := isSplit_blankLines h.isSplit lines
    rcases Nat.lt_or_eq_of_le (Nat.le_of_lt_succ failure.offset.isLt) with hlt | hend
    · exact .inl ((findsLines_ofText hsplit).isOn failure.offset.val hlt)
    · refine .inr ⟨hend, ?_⟩
      rw [lineIn, LineIndex.lineOf_ofText, hend, lineFeedsBefore_end hsplit, length_blankLines]

/-- A prepared program with an error below a line that was emptied. -/
def brokenBelow : Source := (prepare "é = 'ü'\n\nx = = 1".toList).blankLine 1

/-- What to say about a character that stands in the place of an expression. -/
def expectedExpression : Wording := fun _ offset =>
  "Expected an expression at byte range " ++ toString offset.val ++ ".." ++
    toString (offset.val + 1)

theorem reported_lines_brokenBelow :
    brokenBelow.IsMade ∧ FindsLines brokenBelow (.ofText brokenBelow.toText) ∧
      collect expectedExpression brokenBelow =
        .error ⟨2, "Expected an expression at byte range 15..16"⟩ ∧
      ∃ lines offset, Mends (.ofGrammar expectedExpression) brokenBelow lines ∧
        (brokenBelow.blankLines lines).IsOn offset 2 := by
  have hmade : brokenBelow.IsMade := .blankLine (.prepare _) 1
  have hcollect : collect expectedExpression brokenBelow =
      .error ⟨2, "Expected an expression at byte range 15..16"⟩ := by
    have hfails : (match collect expectedExpression brokenBelow with
        | .ok _ => none
        | .error e => some e) = some ⟨2, "Expected an expression at byte range 15..16"⟩ := by
      decide +kernel
    cases hresult : collect expectedExpression brokenBelow with
    | ok c => simp [hresult] at hfails
    | error e =>
        rw [hresult] at hfails
        exact congrArg Except.error (Option.some.inj hfails)
  obtain ⟨hfinds, -, herror⟩ := reported_lines hmade (.ofGrammar expectedExpression)
  obtain ⟨lines, failure, hmends, -, -, hplace⟩ := herror _ hcollect
  refine ⟨hmade, hfinds, hcollect, lines, failure.offset.val, hmends, hplace.resolve_right ?_⟩
  rintro ⟨-, hline⟩
  exact absurd hline (by decide +kernel)

end Writes

end Stepwise
