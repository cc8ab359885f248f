import Stepwise.Proofs.LiteralReader
import Stepwise.Proofs.ReadBack
import Stepwise.Value.Repr

/-!
# Values are read back from their texts

The text that shows a value of plain data is a literal, and the literal stands for that
value and for no other. Plain data are `None`, truth values, integers and strings, and
the lists, tuples, sets and dictionaries of plain data. Other values have texts that are
no literals, or that may be the text of anything else.

As the reader works on a stack of open displays, the induction on the value is about a
text with something behind it: the reader gets through the text of an item and is then
where it has that item and reads on.

## Main results

* `tokensFrom_strRepr`: the text of a string is one token, which holds the string.
* `readItem_repr`: the reader gets through the text of a value, on any stack.
* `repr_readable`: plain data are read back, and told apart by their texts.
-/

namespace Stepwise

open Stepwise.Text

namespace Literal

open Stepwise.Json

/-- What can follow an item: nothing, or a character that ends numbers and words. -/
def EndsItem (rest : List Char) : Prop :=
  ∀ c ∈ rest.head?, c = ',' ∨ c = ':' ∨ ∃ b : Bracket, c = b.closer

theorem endsItem_nil : EndsItem [] := by
  intro c hc
  cases hc

theorem endsItem_comma (rest : List Char) : EndsItem (',' :: rest) := by
  intro c hc
  obtain rfl := Option.some.inj hc
  exact .inl rfl

theorem endsItem_colon (rest : List Char) : EndsItem (':' :: rest) := by
  intro c hc
  obtain rfl := Option.some.inj hc
  exact .inr (.inl rfl)

theorem endsItem_closer (b : Bracket) (rest : List Char) : EndsItem (b.closer :: rest) := by
  intro c hc
  obtain rfl := Option.some.inj hc
  exact .inr (.inr ⟨b, rfl⟩)

theorem isWordChar_of_ends {c : Char} (h : c = ',' ∨ c = ':' ∨ ∃ b : Bracket, c = b.closer) :
    isWordChar c = false ∧ Numeral.digit? c = none := by
  rcases h with rfl | rfl | ⟨_ | _ | _, rfl⟩ <;> exact ⟨rfl, rfl⟩

/-! ## Words and numbers -/

/-- A step that finds nothing only moves the machine on. -/
theorem tokensFrom_of_step {m m' : Mode} {c : Char} (h : step m c = (m', [])) (rest : List Char) :
    tokensFrom m (c :: rest) = tokensFrom m' rest := by
  rw [tokensFrom, h, List.nil_append]

theorem tokensFrom_word (letters : List Char) {rest : List Char} (h : EndsItem rest) :
    tokensFrom (.word letters) rest = ofWord letters.reverse :: tokensFrom .between rest := by
  cases rest with
  | nil => rfl
  | cons c rest =>
      obtain ⟨hword, -⟩ := isWordChar_of_ends (h c rfl)
      simp [tokensFrom, step, hword]

theorem tokensFrom_none {rest : List Char} (h : EndsItem rest) :
    tokensFrom .between (Value.none.repr ++ rest) = .none :: tokensFrom .between rest :=
  tokensFrom_word ['e', 'n', 'o', 'N'] h

theorem tokensFrom_bool (b : Bool) {rest : List Char} (h : EndsItem rest) :
    tokensFrom .between ((Value.bool b).repr ++ rest) = .bool b :: tokensFrom .between rest := by
  cases b with
  | true => exact tokensFrom_word ['e', 'u', 'r', 'T'] h
  | false => exact tokensFrom_word ['e', 's', 'l', 'a', 'F'] h

theorem tokensFrom_number (digits : List Nat) {rest : List Char} (h : EndsItem rest) :
    tokensFrom (.number digits) rest = ofDigits digits :: tokensFrom .between rest := by
  cases rest with
  | nil => rfl
  | cons c rest =>
      obtain ⟨-, hdigit⟩ := isWordChar_of_ends (h c rfl)
      simp [tokensFrom, step, hdigit]

theorem tokensFrom_digits {ds : List Nat} (hds : ∀ d ∈ ds, d < 10) (before : List Nat)
    (rest : List Char) :
    tokensFrom (.number before) (digitText ds ++ rest) =
      tokensFrom (.number (ds.reverse ++ before)) rest := by
  induction ds generalizing before with
  | nil => rfl
  | cons d ds ih =>
      have hd := Numeral.digit?_digitChar (hds d List.mem_cons_self)
      have hstep : step (.number before) (Nat.digitChar d) = (.number (d :: before), []) := by
        simp [step, hd]
      rw [List.reverse_cons, List.append_assoc, List.singleton_append,
        ← ih fun d' hd' => hds d' (List.mem_cons_of_mem _ hd')]
      exact tokensFrom_of_step hstep _

theorem step_between_digitChar : ∀ d < 10, step .between (Nat.digitChar d) = (.number [d], []) := by
  decide

/-- A written number is one token, which holds the number. -/
theorem tokensFrom_decimal (n : Nat) {rest : List Char} (h : EndsItem rest) :
    tokensFrom .between (decimal n ++ rest) = .number n :: tokensFrom .between rest := by
  obtain ⟨ds, htext, hvalue, hlt, d, more, rfl, hleading⟩ := exists_isDecimal n
  have hdigits : Numeral.ofDigits (d :: more).reverse = n := by
    rw [Numeral.ofDigits_reverse, hvalue]
  have htoken : ofDigits (d :: more).reverse = .number n := by
    have hfirst : (d :: more).reverse.getLast? = some d := by simp
    rw [ofDigits, hdigits, hfirst]
    refine if_neg ?_
    rintro ⟨hzero, hn⟩
    exact hn (hleading (Option.some.inj hzero)).1
  have hmore := tokensFrom_digits (fun d' hd' => hlt d' (List.mem_cons_of_mem _ hd')) [d] rest
  rw [← List.reverse_cons] at hmore
  rw [htext]
  show tokensFrom .between (Nat.digitChar d :: (digitText more ++ rest)) = _
  rw [tokensFrom_of_step (step_between_digitChar d (hlt d List.mem_cons_self)), hmore,
    tokensFrom_number _ h, htoken]

/-- The text of an integer is read as the integer. -/
theorem readItem_signed (n : Int64) (stack : List Pending) {rest : List Char} (h : EndsItem rest) :
    readItem stack (tokensFrom .between (signed n.toInt ++ rest)) =
      readOn stack (.int n) (tokensFrom .between rest) := by
  have hbound : Nat.pow 2 63 = 9223372036854775808 := by decide
  have hlow := n.le_toInt
  have hhigh := n.toInt_lt
  by_cases hneg : n.toInt < 0
  · have hvalue : -(n.toInt.natAbs : Int) = n.toInt := by omega
    rw [signed, if_pos hneg]
    show readItem stack (.minus :: tokensFrom .between (decimal n.toInt.natAbs ++ rest)) = _
    rw [tokensFrom_decimal _ h, readItem, if_pos (by omega), hvalue, Int64.ofInt_toInt]
  · have hvalue : (n.toInt.natAbs : Int) = n.toInt := by omega
    rw [signed, if_neg hneg, tokensFrom_decimal _ h, readItem, if_pos (by omega), hvalue,
      Int64.ofInt_toInt]

/-! ## Strings -/

theorem char?_toNat (c : Char) : char? c.toNat = some c := by
  have hvalid : c.toNat.isValidChar := c.valid
  rw [char?, if_pos hvalid, Char.ofNat_toNat]

theorem padded_two {n : Nat} (h : n < 0x100) :
    padded 2 n = [Nat.digitChar (n / 16), Nat.digitChar (n % 16)] := by
  revert n
  decide +kernel

theorem lt_of_isControl {c : Char} (h : Value.isControl c = true) : c.toNat < 0x100 := by
  have hlt := Value.isControl_iff.mp h
  omega

/-- A character is escaped by another one, or by its number, or not at all. -/
theorem escape_cases (mark c : Char) :
    (∃ letter, Value.escape mark c = ['\\', letter] ∧ unescape? letter = some c) ∨
    (c.toNat < 0x100 ∧ Value.escape mark c = '\\' :: 'x' :: padded 2 c.toNat) ∨
    (Value.escape mark c = [c] ∧ c ≠ '\\' ∧ (mark = '\'' → c ≠ '\'') ∧
      Value.isControl c = false) := by
  unfold Value.escape
  -- The backslash and the three control characters that have letters.
  iterate 4
    split
    · next h => exact .inl ⟨_, rfl, by rw [h]; rfl⟩
  split
  · next h => exact .inl ⟨_, rfl, by rw [h.1]; rfl⟩
  · split
    · next hcontrol => exact .inr (.inl ⟨lt_of_isControl hcontrol, rfl⟩)
    · next hslash _ _ _ hquote hplain =>
        exact .inr (.inr ⟨rfl, hslash, fun hmark hc => hquote ⟨hc, hmark⟩,
          Bool.eq_false_iff.mpr hplain⟩)

theorem isBarred_of_not_isControl {c : Char} (h : Value.isControl c = false) :
    isBarred c = false := by
  rw [isBarred, Bool.or_eq_false_iff, Bool.or_eq_false_iff]
  refine ⟨⟨?_, ?_⟩, ?_⟩
  all_goals
    rw [beq_eq_false_iff_ne]
    rintro rfl
    revert h
    decide

/-- A mark that sets a string, and does not occur in it without a backslash. -/
def SetsOff (mark : Char) (s : List Char) : Prop := mark = '\'' ∨ (mark = '"' ∧ '"' ∉ s)

theorem setsOff_quoteFor (s : List Char) : SetsOff (Value.quoteFor s) s := by
  rw [Value.quoteFor]
  split
  · next h => exact .inr ⟨rfl, h.2⟩
  · exact .inl rfl

/-- Two hexadecimal digits are read as the character with their number. -/
theorem tokensFrom_code (mark : Char) (chars : List Char) {c : Char} (h : c.toNat < 0x100)
    (rest : List Char) :
    tokensFrom (.quoted mark chars (.code 2 0)) (padded 2 c.toNat ++ rest) =
      tokensFrom (.quoted mark (c :: chars) .plain) rest := by
  have hhigh : hexDigit? (Nat.digitChar (c.toNat / 16)) = some (c.toNat / 16) :=
    hexDigit?_digitChar (by omega)
  have hlow : hexDigit? (Nat.digitChar (c.toNat % 16)) = some (c.toNat % 16) :=
    hexDigit?_digitChar (by omega)
  have hvalue : c.toNat / 16 * 16 + c.toNat % 16 = c.toNat := by omega
  have hfirst : step (.quoted mark chars (.code 2 0)) (Nat.digitChar (c.toNat / 16)) =
      (.quoted mark chars (.code 1 (c.toNat / 16)), []) := by
    simp [step, stepQuoted, hhigh]
  have hsecond : step (.quoted mark chars (.code 1 (c.toNat / 16)))
      (Nat.digitChar (c.toNat % 16)) = (.quoted mark (c :: chars) .plain, []) := by
    simp [step, stepQuoted, hlow, hvalue, char?_toNat]
  rw [padded_two h, List.cons_append, List.cons_append, List.nil_append,
    tokensFrom_of_step hfirst, tokensFrom_of_step hsecond]

/-- An escaped character is read as itself. -/
theorem tokensFrom_escape {mark c : Char} {s : List Char} (hmark : SetsOff mark (c :: s))
    (chars rest : List Char) :
    tokensFrom (.quoted mark chars .plain) (Value.escape mark c ++ rest) =
      tokensFrom (.quoted mark (c :: chars) .plain) rest := by
  have hback : step (.quoted mark chars .plain) '\\' = (.quoted mark chars .escaped, []) := by
    rcases hmark with rfl | ⟨rfl, -⟩ <;> rfl
  rcases escape_cases mark c with ⟨letter, hescape, hletter⟩ | ⟨hlt, hescape⟩ |
    ⟨hescape, hslash, hquote, hplain⟩
  · have hstep : step (.quoted mark chars .escaped) letter =
        (.quoted mark (c :: chars) .plain, []) := by
      simp [step, stepQuoted, stepEscaped, hletter]
    rw [hescape, List.cons_append, List.cons_append, List.nil_append, tokensFrom_of_step hback,
      tokensFrom_of_step hstep]
  · have hcode : step (.quoted mark chars .escaped) 'x' = (.quoted mark chars (.code 2 0), []) :=
      rfl
    rw [hescape, List.cons_append, List.cons_append, tokensFrom_of_step hback,
      tokensFrom_of_step hcode, tokensFrom_code mark chars hlt]
  · -- Only the single mark is ever escaped, so a double one must not occur in the string.
    have hne : c ≠ mark := by
      rcases hmark with rfl | ⟨rfl, hs⟩
      · exact hquote rfl
      · rintro rfl
        exact hs List.mem_cons_self
    have hstep : step (.quoted mark chars .plain) c = (.quoted mark (c :: chars) .plain, []) := by
      simp [step, stepQuoted, stepPlain, hne, hslash, isBarred_of_not_isControl hplain]
    rw [hescape, List.cons_append, List.nil_append, tokensFrom_of_step hstep]

theorem tokensFrom_flatMap_escape {mark : Char} {s : List Char} (hmark : SetsOff mark s)
    (chars rest : List Char) :
    tokensFrom (.quoted mark chars .plain) (s.flatMap (Value.escape mark) ++ rest) =
      tokensFrom (.quoted mark (s.reverse ++ chars) .plain) rest := by
  induction s generalizing chars with
  | nil => rfl
  | cons c s ih =>
      have hs : SetsOff mark s :=
        hmark.imp_right fun ⟨hmark, hmem⟩ => ⟨hmark, fun h => hmem (List.mem_cons_of_mem _ h)⟩
      rw [List.flatMap_cons, List.append_assoc, tokensFrom_escape hmark, ih hs,
        List.reverse_cons, List.append_assoc, List.singleton_append]

/-- The text of a string is one token, which holds the string. -/
theorem tokensFrom_strRepr (s rest : List Char) :
    tokensFrom .between (Value.strRepr s ++ rest) =
      .text (String.ofList s) :: tokensFrom .between rest := by
  have hmark := setsOff_quoteFor s
  have hopen : step .between (Value.quoteFor s) = (.quoted (Value.quoteFor s) [] .plain, []) := by
    rcases hmark with h | ⟨h, -⟩ <;> rw [h] <;> rfl
  have hclose : tokensFrom (.quoted (Value.quoteFor s) s.reverse .plain)
      (Value.quoteFor s :: rest) = .text (String.ofList s) :: tokensFrom .between rest := by
    simp [tokensFrom, step, stepQuoted, stepPlain]
  have hcontent := tokensFrom_flatMap_escape hmark [] (Value.quoteFor s :: rest)
  rw [List.append_nil, hclose] at hcontent
  rw [Value.strRepr, ← hcontent]
  simp [tokensFrom, hopen]

/-! ## Displays -/

/-- Texts, each behind a comma and a blank: what stands behind the first item of a
display. -/
def followers (texts : List (List Char)) : List Char := texts.flatMap fun t => ',' :: ' ' :: t

theorem commaSeparated_cons (t : List Char) (texts : List (List Char)) :
    Value.commaSeparated (t :: texts) = t ++ followers texts :=
  intercalate_cons [',', ' '] t texts

theorem endsItem_followers (texts : List (List Char)) (b : Bracket) (rest : List Char) :
    EndsItem (followers texts ++ b.closer :: rest) := by
  cases texts with
  | nil => exact endsItem_closer b rest
  | cons t texts => exact endsItem_comma _

theorem tokensFrom_opener (b : Bracket) (rest : List Char) :
    tokensFrom .between (b.opener :: rest) = .opening b :: tokensFrom .between rest := by
  cases b <;> rfl

theorem tokensFrom_closer (b : Bracket) (rest : List Char) :
    tokensFrom .between (b.closer :: rest) = .closing b :: tokensFrom .between rest := by
  cases b <;> rfl

theorem tokensFrom_comma (rest : List Char) :
    tokensFrom .between (',' :: ' ' :: rest) = .comma :: tokensFrom .between rest := rfl

theorem tokensFrom_colon (rest : List Char) :
    tokensFrom .between (':' :: ' ' :: rest) = .colon :: tokensFrom .between rest := rfl

/-- The text of a display in brackets, in front of another text. -/
theorem enclosed_append (b : Bracket) (t : List Char) (texts : List (List Char))
    (rest : List Char) :
    b.opener :: Value.commaSeparated (t :: texts) ++ [b.closer] ++ rest =
      b.opener :: (t ++ (followers texts ++ b.closer :: rest)) := by
  simp [commaSeparated_cons]

/-- Whether tokens do not begin with the end of a display. -/
def Opens (tokens : List Token) : Prop := ∀ b : Bracket, tokens.head? ≠ some (.closing b)

variable {tokens : List Token} {stack : List Pending}

theorem opens_cons (token : Token) (h : ∀ b, token ≠ .closing b) : Opens (token :: tokens) :=
  fun b hhead => h b (Option.some.inj hhead)

theorem readItem_opening (h : Opens tokens) (b : Bracket) :
    readItem stack (.opening b :: tokens) = readItem (.items b [] :: stack) tokens := by
  rw [readItem]
  rintro b' rest rfl
  exact h b' rfl

theorem readOn_comma (h : Opens tokens) (b : Bracket) (items : List Value) (v : Value) :
    readOn (.items b items :: stack) v (.comma :: tokens) =
      readItem (.items b (v :: items) :: stack) tokens := by
  rw [readOn]
  rintro b' rest rfl
  exact h b' rfl

theorem readOn_comma_pair (h : Opens tokens) (pairs : List (Value × Value)) (key v : Value) :
    readOn (.value pairs key :: stack) v (.comma :: tokens) =
      readItem (.key ((key, v) :: pairs) :: stack) tokens := by
  rw [readOn]
  rintro rest rfl
  exact h .curly rfl

end Literal

namespace Value

open Stepwise.Literal

/-! ## Values -/

mutual

/-- Whether a value is plain data, to any depth. -/
def isPlain : Value → Bool
  | none | bool _ | int _ | str _ => true
  | list items | tuple items | set items => allPlain items
  | dict pairs => pairsPlain pairs
  | float _ | function _ | module _ | object _ _ => false

/-- `isPlain` on lists. -/
def allPlain : List Value → Bool
  | [] => true
  | v :: items => isPlain v && allPlain items

/-- `isPlain` on lists of pairs. -/
def pairsPlain : List (Value × Value) → Bool
  | [] => true
  | (k, v) :: pairs => isPlain k && isPlain v && pairsPlain pairs

end

/-- No text of plain data begins with the end of a display. -/
theorem opens_tokensFrom_repr : {v : Value} → v.isPlain = true → {rest : List Char} →
    EndsItem rest → Opens (tokensFrom .between (v.repr ++ rest))
  | none, _, rest, hrest => by
      rw [tokensFrom_none hrest]
      exact opens_cons _ fun _ => Token.noConfusion
  | bool b, _, rest, hrest => by
      rw [tokensFrom_bool b hrest]
      exact opens_cons _ fun _ => Token.noConfusion
  | int n, _, rest, hrest => by
      show Opens (tokensFrom .between (signed n.toInt ++ rest))
      rw [signed]
      split
      · exact opens_cons .minus fun _ => Token.noConfusion
      · rw [tokensFrom_decimal _ hrest]
        exact opens_cons _ fun _ => Token.noConfusion
  | str s, _, rest, _ => by
      show Opens (tokensFrom .between (strRepr s.toList ++ rest))
      rw [tokensFrom_strRepr]
      exact opens_cons _ fun _ => Token.noConfusion
  | set [], _, _, _ => opens_cons .set fun _ => Token.noConfusion
  | list _, _, _, _ => opens_cons (.opening .square) fun _ => Token.noConfusion
  | tuple [], _, _, _ | tuple [_], _, _, _ | tuple (_ :: _ :: _), _, _, _ =>
      opens_cons (.opening .round) fun _ => Token.noConfusion
  | dict _, _, _, _ | set (_ :: _), _, _, _ =>
      opens_cons (.opening .curly) fun _ => Token.noConfusion
  | float _, h, _, _ | function _, h, _, _ | module _, h, _, _ | object _ _, h, _, _ => by
      simp [isPlain] at h

/-- The reader gets through the text of a value on a stack, and has that value then. -/
def GetsThrough (stack : List Pending) (v : Value) : Prop :=
  ∀ rest, EndsItem rest → readItem stack (tokensFrom .between (v.repr ++ rest)) =
    readOn stack v (tokensFrom .between rest)

/-- The reader gets through a display, if it gets through its first item and then
through the others. -/
theorem readItem_display (b : Bracket) {v : Value} {items : List Value} {stack : List Pending}
    {rest : List Char} (hplain : v.isPlain = true) (hitem : GetsThrough (.items b [] :: stack) v)
    (hitems : readOn (.items b [] :: stack) v
        (tokensFrom .between (followers (reprs items) ++ b.closer :: rest)) =
      readOn stack (b.enclose (v :: items)) (tokensFrom .between rest)) :
    readItem stack (tokensFrom .between
        (b.opener :: commaSeparated (reprs (v :: items)) ++ [b.closer] ++ rest)) =
      readOn stack (b.enclose (v :: items)) (tokensFrom .between rest) := by
  have hbehind := endsItem_followers (reprs items) b rest
  rw [reprs, enclosed_append, tokensFrom_opener,
    readItem_opening (opens_tokensFrom_repr hplain hbehind), hitem _ hbehind, hitems]

/-- The reader gets through pairs where a key has to follow, if it gets through the first
pair and then through the others. -/
theorem readItem_pairs {p : Pending} {k v : Value} {before pairs : List (Value × Value)}
    {stack : List Pending} {rest : List Char}
    (hcolon : ∀ tokens, readOn (p :: stack) k (.colon :: tokens) =
      readItem (.value before k :: stack) tokens)
    (hkey : GetsThrough (p :: stack) k) (hvalue : GetsThrough (.value before k :: stack) v)
    (hpairs : readOn (.value before k :: stack) v
        (tokensFrom .between (followers (pairReprs pairs) ++ '\x7d' :: rest)) =
      readOn stack (.dict (before.reverse ++ (k, v) :: pairs)) (tokensFrom .between rest)) :
    readItem (p :: stack) (tokensFrom .between
        (k.repr ++ ':' :: ' ' :: (v.repr ++ (followers (pairReprs pairs) ++ '\x7d' :: rest)))) =
      readOn stack (.dict (before.reverse ++ (k, v) :: pairs)) (tokensFrom .between rest) := by
  have hbehind := endsItem_followers (pairReprs pairs) .curly rest
  rw [hkey _ (endsItem_colon _), tokensFrom_colon, hcolon]
  exact (hvalue _ hbehind).trans hpairs

mutual

/-- The reader gets through the text of plain data, whatever is open. -/
theorem readItem_repr : (v : Value) → v.isPlain = true → (stack : List Pending) →
    GetsThrough stack v
  | none, _, stack => fun rest hrest => by rw [tokensFrom_none hrest, readItem]
  | bool b, _, stack => fun rest hrest => by rw [tokensFrom_bool b hrest, readItem]
  | int n, _, stack => fun _ hrest => readItem_signed n stack hrest
  | str s, _, stack => fun rest _ => by
      show readItem stack (tokensFrom .between (strRepr s.toList ++ rest)) = _
      rw [tokensFrom_strRepr, String.ofList_toList, readItem]
  | list [], _, stack => fun rest _ => by
      show readItem stack (.opening .square :: .closing .square :: tokensFrom .between rest) = _
      rw [readItem]
      rfl
  | list (v :: items), h, stack => fun rest _ => by
      simp only [isPlain, allPlain, Bool.and_eq_true] at h
      exact readItem_display .square h.1 (readItem_repr v h.1 _)
        (readOn_items items h.2 .square v [] stack rest)
  | tuple [], _, stack => fun rest _ => by
      show readItem stack (.opening .round :: .closing .round :: tokensFrom .between rest) = _
      rw [readItem]
      rfl
  | tuple [v], h, stack => fun rest _ => by
      simp only [isPlain, allPlain, Bool.and_eq_true] at h
      have htext : (tuple [v]).repr ++ rest =
          Bracket.round.opener :: (v.repr ++ ',' :: ')' :: rest) := by
        show '(' :: v.repr ++ [',', ')'] ++ rest = _
        simp [Bracket.opener]
      have hcomma := endsItem_comma (')' :: rest)
      rw [htext, tokensFrom_opener, readItem_opening (opens_tokensFrom_repr h.1 hcomma),
        readItem_repr v h.1 _ _ hcomma]
      -- Only the comma tells the tuple from its item.
      show readOn (.items .round [] :: stack) v
        (.comma :: .closing .round :: tokensFrom .between rest) = _
      rw [readOn]
      rfl
  | tuple (v :: w :: items), h, stack => fun rest _ => by
      simp only [isPlain, allPlain, Bool.and_eq_true] at h
      exact readItem_display .round h.1 (readItem_repr v h.1 _)
        (readOn_items (w :: items) (by simp [allPlain, h.2]) .round v [] stack rest)
  | dict [], _, stack => fun rest _ => by
      show readItem stack (.opening .curly :: .closing .curly :: tokensFrom .between rest) = _
      rw [readItem]
      rfl
  | dict ((k, v) :: pairs), h, stack => fun rest _ => by
      simp only [isPlain, pairsPlain, Bool.and_eq_true] at h
      have htext : (dict ((k, v) :: pairs)).repr ++ rest = Bracket.curly.opener ::
          (k.repr ++ ':' :: ' ' :: (v.repr ++ (followers (pairReprs pairs) ++ '\x7d' :: rest))) := by
        show Bracket.curly.opener :: commaSeparated ((k.repr ++ ':' :: ' ' :: v.repr) ::
          pairReprs pairs) ++ [Bracket.curly.closer] ++ rest = _
        rw [enclosed_append, List.append_assoc]
        rfl
      rw [htext, tokensFrom_opener,
        readItem_opening (opens_tokensFrom_repr h.1.1 (endsItem_colon _))]
      exact readItem_pairs (fun _ => by rw [readOn]) (readItem_repr k h.1.1 _)
        (readItem_repr v h.1.2 _) (readOn_pairs pairs h.2 k v [] stack rest)
  | set [], _, stack => fun rest _ => by
      show readItem stack
        (.set :: .opening .round :: .closing .round :: tokensFrom .between rest) = _
      rw [readItem]
  | set (v :: items), h, stack => fun rest _ => by
      simp only [isPlain, allPlain, Bool.and_eq_true] at h
      exact readItem_display .curly h.1 (readItem_repr v h.1 _)
        (readOn_items items h.2 .curly v [] stack rest)
  | float _, h, _ | function _, h, _ | module _, h, _ | object _ _, h, _ => by simp [isPlain] at h

/-- The reader gets through the items behind a complete one and closes the display. -/
theorem readOn_items : (items : List Value) → allPlain items = true → (b : Bracket) →
    (v : Value) → (before : List Value) → (stack : List Pending) → (rest : List Char) →
    readOn (.items b before :: stack) v
        (tokensFrom .between (followers (reprs items) ++ b.closer :: rest)) =
      readOn stack (b.enclose (before.reverse ++ v :: items)) (tokensFrom .between rest)
  | [], _, b, v, before, stack, rest => by
      show readOn (.items b before :: stack) v (tokensFrom .between (b.closer :: rest)) = _
      rw [tokensFrom_closer, readOn, if_pos rfl, List.reverse_cons]
  | w :: items, h, b, v, before, stack, rest => by
      simp only [allPlain, Bool.and_eq_true] at h
      have hbehind := endsItem_followers (reprs items) b rest
      have htext : followers (reprs (w :: items)) ++ b.closer :: rest =
          ',' :: ' ' :: (w.repr ++ (followers (reprs items) ++ b.closer :: rest)) := by
        simp [reprs, followers]
      have hitem := readItem_repr w h.1 (.items b (v :: before) :: stack) _ hbehind
      have hitems := readOn_items items h.2 b w (v :: before) stack rest
      rw [htext, tokensFrom_comma, readOn_comma (opens_tokensFrom_repr h.1 hbehind), hitem, hitems,
        List.reverse_cons, List.append_assoc, List.singleton_append]

/-- The reader gets through the pairs behind a complete one and closes the dictionary. -/
theorem readOn_pairs : (pairs : List (Value × Value)) → pairsPlain pairs = true →
    (key v : Value) → (before : List (Value × Value)) → (stack : List Pending) →
    (rest : List Char) →
    readOn (.value before key :: stack) v
        (tokensFrom .between (followers (pairReprs pairs) ++ '\x7d' :: rest)) =
      readOn stack (.dict (before.reverse ++ (key, v) :: pairs)) (tokensFrom .between rest)
  | [], _, key, v, before, stack, rest => by
      show readOn (.value before key :: stack) v (.closing .curly :: tokensFrom .between rest) = _
      rw [readOn, List.reverse_cons]
  | (k, w) :: pairs, h, key, v, before, stack, rest => by
      simp only [pairsPlain, Bool.and_eq_true] at h
      have htext : followers (pairReprs ((k, w) :: pairs)) ++ '\x7d' :: rest =
          ',' :: ' ' :: (k.repr ++ ':' :: ' ' ::
            (w.repr ++ (followers (pairReprs pairs) ++ '\x7d' :: rest))) := by
        simp [pairReprs, followers]
      have hpairs := readItem_pairs (fun _ => by rw [readOn])
        (readItem_repr k h.1.1 (.key ((key, v) :: before) :: stack)) (readItem_repr w h.1.2 _)
        (readOn_pairs pairs h.2 k w ((key, v) :: before) stack rest)
      rw [htext, tokensFrom_comma,
        readOn_comma_pair (opens_tokensFrom_repr h.1.1 (endsItem_colon _)), hpairs,
        List.reverse_cons, List.append_assoc, List.singleton_append]

end

/-- Plain data are read back from their texts, and values with one text are the same. -/
theorem repr_readable {v : Value} (h : v.isPlain = true) :
    read? v.repr = some v ∧ ∀ w : Value, w.isPlain = true → w.repr = v.repr → w = v := by
  have hread : ∀ w : Value, w.isPlain = true → read? w.repr = some w := by
    intro w hw
    have hthrough := readItem_repr w hw [] [] endsItem_nil
    rw [List.append_nil] at hthrough
    rw [read?, hthrough]
    rfl
  refine ⟨hread v h, fun w hw hsame => ?_⟩
  have hboth := hread w hw
  rw [hsame, hread v h] at hboth
  exact (Option.some.inj hboth).symm

/-- A dictionary with an item under a key that has all kinds of characters. -/
def keyed (item : Value) : Value :=
  .dict [(.tuple [.str "it's", .str "'\"\\\n\x00\x85"], item), (.none, .set [.set [], .dict []])]

/-- A list and the tuple that holds it are told apart, deep inside a value. -/
theorem repr_readable_keyed :
    (keyed (.list [.int (-1)])).isPlain = true ∧
      (keyed (.tuple [.list [.int (-1)]])).isPlain = true ∧
      read? (keyed (.list [.int (-1)])).repr = some (keyed (.list [.int (-1)])) ∧
      (keyed (.tuple [.list [.int (-1)]])).repr ≠ (keyed (.list [.int (-1)])).repr := by
  have hlist : (keyed (.list [.int (-1)])).isPlain = true := rfl
  have htuple : (keyed (.tuple [.list [.int (-1)]])).isPlain = true := rfl
  obtain ⟨hread, hsame⟩ := repr_readable hlist
  refine ⟨hlist, htuple, hread, fun htext => ?_⟩
  have heq := hsame _ htuple htext
  simp [keyed] at heq

end Value

end Stepwise
