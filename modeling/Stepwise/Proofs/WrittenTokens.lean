import Mathlib.Data.Nat.Digits.Defs
import Stepwise.Json.Token
import Stepwise.Json.Write

/-!
# The tokens of written numbers and texts

A written number or text is read as one token, and the token holds the number
or the text. A text in quotation marks ends by itself. A numeral does not: it
goes on until something comes that cannot be part of it, so something has to be
known about what follows. Behind an item of a written tree there is nothing, a
comma or a closing bracket, and each of these ends a numeral.

## Main results

* `tokensFrom_signed`: an integer is one token, and with no more than 64 bits the
  token holds it.
* `tokensFrom_writeText`: so is a text, whatever its characters are.
-/

namespace Stepwise.Json

open Stepwise.Text

theorem run_append (m : Mode) (s t : List Char) :
    run m (s ++ t) = ((run (run m s).1 t).1, (run m s).2 ++ (run (run m s).1 t).2) := by
  induction s generalizing m with
  | nil => rfl
  | cons c rest ih => simp [run, ih]

/-! ## Digits -/

/-- The characters of digits. -/
def digitText (ds : List Nat) : List Char := ds.map Nat.digitChar

/-- The number that digits stand for behind a number, first digit first. -/
def valueFrom (n : Nat) (ds : List Nat) : Nat := ds.foldl (fun n d => n * 10 + d) n

theorem digitText_append (ds es : List Nat) : digitText (ds ++ es) = digitText ds ++ digitText es :=
  List.map_append

theorem length_digitText (ds : List Nat) : (digitText ds).length = ds.length := List.length_map _

theorem digitText_zeros (k : Nat) : digitText (List.replicate k 0) = List.replicate k '0' :=
  List.map_replicate

theorem valueFrom_append (n : Nat) (ds es : List Nat) :
    valueFrom n (ds ++ es) = valueFrom (valueFrom n ds) es :=
  List.foldl_append

/-- The digits of a number, first one first. -/
structure IsDecimal (n : Nat) (ds : List Nat) : Prop where
  text : decimal n = digitText ds
  value : valueFrom 0 ds = n
  lt_ten : ∀ d ∈ ds, d < 10
  /-- Only zero begins with a zero, and ends with it. -/
  leading : ∃ d rest, ds = d :: rest ∧ (d = 0 → n = 0 ∧ rest = [])

theorem exists_isDecimal (n : Nat) : ∃ ds, IsDecimal n ds := by
  -- The last digit is split off, so that the first one is met at the bottom.
  induction n using Nat.strong_induction_on with
  | _ n ih =>
    by_cases hsmall : n < 10
    · refine ⟨[n], ?_, ?_, ?_, n, [], rfl, fun hzero => ⟨hzero, rfl⟩⟩
      · rw [decimal, Nat.toDigits_of_lt_base hsmall]
        rfl
      · simp [valueFrom]
      · simpa using hsmall
    · obtain ⟨ds, htext, hvalue, hlt, d, rest, hcons, hleading⟩ := ih (n / 10) (by omega)
      have hlast : n % 10 < 10 := Nat.mod_lt n (by omega)
      have hsplit : decimal n = decimal (n / 10) ++ [Nat.digitChar (n % 10)] :=
        Nat.toDigits_of_base_le (by omega) (by omega)
      refine ⟨ds ++ [n % 10], ?_, ?_, ?_, d, rest ++ [n % 10], ?_, ?_⟩
      · rw [hsplit, htext, digitText_append]
        rfl
      · rw [valueFrom_append, hvalue]
        show n / 10 * 10 + n % 10 = n
        omega
      · intro d' hd'
        rcases List.mem_append.mp hd' with hfront | hback
        · exact hlt d' hfront
        · rw [List.mem_singleton.mp hback]
          exact hlast
      · rw [hcons]
        rfl
      · intro hzero
        have hfront := (hleading hzero).1
        omega

theorem IsDecimal.leading_ne_zero {c : Nat} {ds : List Nat} (h : IsDecimal c ds) (hc : c ≠ 0) :
    ∃ d rest, ds = d :: rest ∧ d ≠ 0 := by
  obtain ⟨d, rest, hcons, hleading⟩ := h.leading
  exact ⟨d, rest, hcons, fun hzero => hc (hleading hzero).1⟩

/-! ## Numerals -/

/-- What can follow an item of a written tree: nothing, or a character that
ends the item. -/
def EndsItem (rest : List Char) : Prop :=
  ∀ c ∈ rest.head?, c = ',' ∨ c = ']' ∨ c = '\x7d'

theorem endsItem_nil : EndsItem [] := by
  intro c hc
  cases hc

namespace Numeral

/-- A numeral without fraction and exponent. The digits come last first. -/
def ofWhole (negative : Bool) (digits : List Nat) : Numeral :=
  { start negative with whole := digits }

theorem digit?_digitChar {d : Nat} (h : d < 10) : digit? (Nat.digitChar d) = some d := by
  revert d
  decide

theorem ofDigits_reverse_append (ds before : List Nat) :
    ofDigits (ds.reverse ++ before) = valueFrom (ofDigits before) ds := by
  induction ds generalizing before with
  | nil => rfl
  | cons d rest ih =>
      rw [List.reverse_cons, List.append_assoc, List.singleton_append, ih]
      rfl

theorem ofDigits_reverse (ds : List Nat) : ofDigits ds.reverse = valueFrom 0 ds := by
  have happend := ofDigits_reverse_append ds []
  rwa [List.append_nil] at happend

theorem number?_ofWhole {digits : List Nat} (h : ofDigits digits < Nat.pow 2 64) :
    (ofWhole false digits).number? = some (.int (ofDigits digits)) := by
  show (if ofDigits digits < Nat.pow 2 64 then some (Number.int (ofDigits digits)) else _) = _
  rw [if_pos h]

theorem number?_ofWhole_negative {digits : List Nat} (hpos : 0 < ofDigits digits)
    (h : ofDigits digits ≤ Nat.pow 2 63) :
    (ofWhole true digits).number? = some (.int (-ofDigits digits)) := by
  show (if 0 < ofDigits digits ∧ ofDigits digits ≤ Nat.pow 2 63 then
    some (Number.int (-ofDigits digits)) else _) = _
  rw [if_pos ⟨hpos, h⟩]

/-- What ends an item stops a numeral that can end. -/
theorem next_of_ends (n : Numeral) {part : Part} (hend : part.canEnd = true) {c : Char}
    (h : c = ',' ∨ c = ']' ∨ c = '\x7d') : n.next part c = .stop := by
  rcases h with rfl | rfl | rfl
  · cases part <;> first | rfl | cases hend
  · cases part <;> first | rfl | cases hend
  · cases part <;> first | rfl | cases hend

end Numeral

/-- A numeral without sign begins where an item can begin. -/
theorem step_between_digitChar : ∀ d < 10, step .between (Nat.digitChar d) =
    step (.numeral (.start false) .sign) (Nat.digitChar d) := by
  decide

/-- Digits are gathered, wherever a numeral gathers digits. -/
theorem run_digits {part : Numeral.Part} {gather : List Nat → Numeral}
    (hnext : ∀ before d, d < 10 →
      (gather before).next part (Nat.digitChar d) = .more (gather (d :: before)) part)
    {ds : List Nat} (hds : ∀ d ∈ ds, d < 10) (before : List Nat) :
    run (.numeral (gather before) part) (digitText ds) =
      (.numeral (gather (ds.reverse ++ before)) part, []) := by
  induction ds generalizing before with
  | nil => rfl
  | cons d rest ih =>
      have hstep : step (.numeral (gather before) part) (Nat.digitChar d) =
          (.numeral (gather (d :: before)) part, []) := by
        rw [step, hnext before d (hds d List.mem_cons_self)]
      have hrest := ih (fun d' hd' => hds d' (List.mem_cons_of_mem _ hd')) (d :: before)
      rw [List.reverse_cons, List.append_assoc, List.singleton_append]
      show run _ (Nat.digitChar d :: digitText rest) = _
      simp only [run, hstep, hrest, List.append_nil]

/-- The digits of a whole part lead into a numeral. The first one may be met in
any mode in which it begins a numeral. -/
theorem run_whole {m : Mode} {negative : Bool}
    (hbegins : ∀ d < 10, step m (Nat.digitChar d) =
      step (.numeral (.start negative) .sign) (Nat.digitChar d))
    {d : Nat} {rest : List Nat} (hlt : ∀ d' ∈ d :: rest, d' < 10) (hzero : d = 0 → rest = []) :
    ∃ part, (part = .zero ∨ part = .whole) ∧ run m (digitText (d :: rest)) =
      (.numeral (.ofWhole negative (d :: rest).reverse) part, []) := by
  have hfirst : step m (Nat.digitChar d) =
      (.numeral (.ofWhole negative [d]) (if d = 0 then .zero else .whole), []) := by
    rw [hbegins d (hlt d List.mem_cons_self)]
    simp only [step, Numeral.next, Numeral.digit?_digitChar (hlt d List.mem_cons_self)]
    rfl
  have htext : digitText (d :: rest) = Nat.digitChar d :: digitText rest := rfl
  by_cases hd : d = 0
  · refine ⟨.zero, .inl rfl, ?_⟩
    rw [htext, hzero hd, run, hfirst, if_pos hd]
    rfl
  · refine ⟨.whole, .inr rfl, ?_⟩
    have hnext : ∀ before d', d' < 10 → (Numeral.ofWhole negative before).next .whole
        (Nat.digitChar d') = .more (.ofWhole negative (d' :: before)) .whole := by
      intro before d' hd'
      simp only [Numeral.next, Numeral.digit?_digitChar hd']
      rfl
    have hrest := run_digits hnext (fun d' hd' => hlt d' (List.mem_cons_of_mem _ hd')) [d]
    rw [htext, run, hfirst, if_neg hd, hrest, List.reverse_cons]
    rfl

/-- The digits of a number lead into a numeral that stands for it. -/
theorem run_decimal {m : Mode} {negative : Bool}
    (hbegins : ∀ d < 10, step m (Nat.digitChar d) =
      step (.numeral (.start negative) .sign) (Nat.digitChar d)) (n : Nat) :
    ∃ digits part, part.canEnd = true ∧
      run m (decimal n) = (.numeral (.ofWhole negative digits) part, []) ∧
      Numeral.ofDigits digits = n := by
  obtain ⟨ds, htext, hvalue, hlt, d, rest, rfl, hleading⟩ := exists_isDecimal n
  obtain ⟨part, hpart, hrun⟩ := run_whole hbegins hlt fun hzero => (hleading hzero).2
  refine ⟨(d :: rest).reverse, part, ?_, ?_, ?_⟩
  · rcases hpart with rfl | rfl
    · rfl
    · rfl
  · rw [htext, hrun]
  · rw [Numeral.ofDigits_reverse, hvalue]

/-- A numeral is complete where an item can end. -/
theorem tokensFrom_numeral (n : Numeral) {part : Numeral.Part} (hend : part.canEnd = true)
    {rest : List Char} (h : EndsItem rest) :
    tokensFrom (.numeral n part) rest = .number n.number? :: tokensFrom .between rest := by
  cases rest with
  | nil =>
      show (if part.canEnd then [Token.number n.number?] else [.invalid]) = _
      rw [if_pos hend]
      rfl
  | cons c rest =>
      have hstop := n.next_of_ends hend (h c rfl)
      simp only [tokensFrom, step, hstop, List.cons_append]

/-- An integer is read as one number, and with no more than 64 bits as itself. -/
theorem tokensFrom_signed (n : Int) :
    ∃ found, (-Int.pow 2 63 ≤ n ∧ n < Int.pow 2 64 → found = some (.int n)) ∧
      ∀ rest, EndsItem rest →
        tokensFrom .between (signed n ++ rest) = .number found :: tokensFrom .between rest := by
  have hsmall : Int.pow 2 63 = 9223372036854775808 := by decide
  have hbig : Int.pow 2 64 = 18446744073709551616 := by decide
  by_cases hneg : n < 0
  · have hbegins : ∀ d < 10, step (.numeral (.start true) .sign) (Nat.digitChar d) =
        step (.numeral (.start true) .sign) (Nat.digitChar d) := fun _ _ => rfl
    obtain ⟨digits, part, hend, hrun, hdigits⟩ := run_decimal hbegins n.natAbs
    refine ⟨(Numeral.ofWhole true digits).number?, ?_, fun rest hrest => ?_⟩
    · rintro ⟨hlow, -⟩
      rw [Numeral.number?_ofWhole_negative (by omega) (by rw [hdigits]; norm_num; omega), hdigits]
      congr 2
      omega
    · rw [signed, if_pos hneg]
      show tokensFrom (.numeral (.start true) .sign) (decimal n.natAbs ++ rest) = _
      rw [tokensFrom_append, hrun, List.nil_append, tokensFrom_numeral _ hend hrest]
  · obtain ⟨digits, part, hend, hrun, hdigits⟩ := run_decimal step_between_digitChar n.natAbs
    refine ⟨(Numeral.ofWhole false digits).number?, ?_, fun rest hrest => ?_⟩
    · rintro ⟨-, hhigh⟩
      rw [Numeral.number?_ofWhole (by rw [hdigits]; norm_num; omega), hdigits]
      congr 2
      omega
    · rw [signed, if_neg hneg, tokensFrom_append, hrun, List.nil_append,
        tokensFrom_numeral _ hend hrest]

/-! ## Texts -/

theorem hexDigit?_digitChar {d : Nat} (h : d < 16) : hexDigit? (Nat.digitChar d) = some d := by
  revert d
  decide

theorem padded_of_control {n : Nat} (h : n < 0x20) :
    padded 4 n = ['0', '0', Nat.digitChar (n / 16), Nat.digitChar (n % 16)] := by
  revert n
  decide

/-- A unit that is no half of a pair stands for a character by itself. -/
theorem ofPieces_unit {n : Nat} (hlead : isLead n = false) (htrail : isTrail n = false)
    (rest : List Piece) : ofPieces (.unit n :: rest) = (ofPieces rest).map (Char.ofNat n :: ·) := by
  rw [ofPieces.eq_def]
  simp only [hlead, htrail, Bool.false_eq_true, if_false]

/-- A control character that is written by its number is read as that number. -/
theorem run_control (pieces : List Piece) {n : Nat} (h : n < 0x20) :
    run (.quoted pieces .plain) ('\\' :: 'u' :: padded 4 n) =
      (.quoted (.unit n :: pieces) .plain, []) := by
  have hhigh : hexDigit? (Nat.digitChar (n / 16)) = some (n / 16) :=
    hexDigit?_digitChar (by omega)
  have hlow : hexDigit? (Nat.digitChar (n % 16)) = some (n % 16) :=
    hexDigit?_digitChar (by omega)
  have hzero : hexDigit? '0' = some 0 := by decide
  have hvalue : n / 16 * 16 + n % 16 = n := by omega
  rw [padded_of_control h]
  simp [run, step, stepQuoted, hzero, hhigh, hlow, hvalue]

/-- A character is escaped by a letter, or by its number, or not at all. -/
theorem escape_cases (c : Char) :
    (∃ letter, escape c = ['\\', letter] ∧ letter ≠ 'u' ∧ unescape? letter = some c) ∨
    (c.toNat < 0x20 ∧ escape c = '\\' :: 'u' :: padded 4 c.toNat) ∨
    (escape c = [c] ∧ c ≠ '"' ∧ c ≠ '\\' ∧ ¬c.toNat < 0x20) := by
  unfold escape
  iterate 7
    split
    · next h => exact .inl ⟨_, rfl, by decide, by rw [h]; rfl⟩
  split
  · next hcontrol => exact .inr (.inl ⟨hcontrol, rfl⟩)
  · next hquote hslash _ _ _ _ _ hplain => exact .inr (.inr ⟨rfl, hquote, hslash, hplain⟩)

/-- An escaped character is read as one piece, which stands for the character. -/
theorem run_escape (pieces : List Piece) (c : Char) :
    ∃ piece, run (.quoted pieces .plain) (escape c) = (.quoted (piece :: pieces) .plain, []) ∧
      ∀ rest, ofPieces (piece :: rest) = (ofPieces rest).map (c :: ·) := by
  -- Only a control character comes back as a unit, and no unit that small is
  -- half of a pair.
  rcases escape_cases c with ⟨letter, hescape, hletter, hvalue⟩ | ⟨hcontrol, hescape⟩ |
    ⟨hescape, hquote, hslash, hplain⟩
  · refine ⟨.char c, ?_, fun _ => rfl⟩
    rw [hescape]
    simp [run, step, stepQuoted, hletter, hvalue]
  · refine ⟨.unit c.toNat, ?_, fun rest => ?_⟩
    · rw [hescape]
      exact run_control pieces hcontrol
    · have hlead : isLead c.toNat = false := by
        rw [isLead, Bool.and_eq_false_iff]
        exact .inl (decide_eq_false (by omega))
      have htrail : isTrail c.toNat = false := by
        rw [isTrail, Bool.and_eq_false_iff]
        exact .inl (decide_eq_false (by omega))
      rw [ofPieces_unit hlead htrail, Char.ofNat_toNat]
  · refine ⟨.char c, ?_, fun _ => rfl⟩
    rw [hescape]
    simp [run, step, stepQuoted, hquote, hslash, hplain]

/-- Escaped characters are read as pieces that stand for them. -/
theorem run_flatMap_escape (pieces : List Piece) (s : List Char) :
    ∃ found, run (.quoted pieces .plain) (s.flatMap escape) =
        (.quoted (found.reverse ++ pieces) .plain, []) ∧ ofPieces found = some s := by
  induction s generalizing pieces with
  | nil => exact ⟨[], rfl, rfl⟩
  | cons c rest ih =>
      obtain ⟨piece, hfirst, hpiece⟩ := run_escape pieces c
      obtain ⟨found, hrest, hfound⟩ := ih (piece :: pieces)
      refine ⟨piece :: found, ?_, ?_⟩
      · rw [List.flatMap_cons, run_append, hfirst, hrest]
        simp
      · rw [hpiece found, hfound]
        rfl

/-- A written text is read as one text. -/
theorem tokensFrom_writeText (s rest : List Char) :
    tokensFrom .between (writeText s ++ rest) =
      .text (some (String.ofList s)) :: tokensFrom .between rest := by
  obtain ⟨found, hrun, hfound⟩ := run_flatMap_escape [] s
  have hend : endQuoted found.reverse = .text (some (String.ofList s)) := by
    rw [endQuoted, List.reverse_reverse, hfound]
    rfl
  have hquoted : tokensFrom (.quoted found.reverse .plain) ('"' :: rest) =
      endQuoted found.reverse :: tokensFrom .between rest := rfl
  rw [List.append_nil] at hrun
  rw [writeText, List.cons_append, List.cons_append, List.append_assoc]
  show tokensFrom (.quoted [] .plain) (s.flatMap escape ++ '"' :: rest) = _
  rw [tokensFrom_append, hrun, List.nil_append, hquoted, hend]

end Stepwise.Json
