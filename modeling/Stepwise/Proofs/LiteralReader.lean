import Stepwise.Json.Token
import Stepwise.Value.Basic

/-!
# Reading literals

What a program means by a literal: `None`, `True` and `False`, integers, texts in
quotation marks, and displays in brackets of these and of other displays. `set()`
counts as a literal, because an empty set has no display. Items and pairs are read in
the order in which they stand, and none is left out because an equal one was there.

The reader is stricter than the language. It refuses all other numbers, texts with
letters in front of them or of several parts, texts over several lines, characters by
name, comments and line breaks. What it accepts is read as the language reads it:

* Inside quotation marks a backslash and a character that has no meaning behind it stand
  for themselves.
* A single item in parentheses is that item, unless a comma follows it.
* In all other displays a comma behind the last item changes nothing.
* Braces are a set, unless they are empty or there is a colon behind the first item.

A text is cut into tokens by a machine that sees one character at a time, and the tokens
are read with a stack of the displays that are still open.
-/

namespace Stepwise.Literal

open Stepwise.Json

/-! ## Tokens -/

/-- A pair of brackets. -/
inductive Bracket where
  | square
  | round
  | curly
  deriving DecidableEq

/-- The character that opens a display. -/
def Bracket.opener : Bracket → Char
  | square => '['
  | round => '('
  | curly => '\x7b'

/-- The character that closes a display. -/
def Bracket.closer : Bracket → Char
  | square => ']'
  | round => ')'
  | curly => '\x7d'

inductive Token where
  | none
  | bool (b : Bool)
  /-- The name of the type of sets. -/
  | set
  | minus
  | number (n : Nat)
  | text (s : String)
  | opening (b : Bracket)
  | closing (b : Bracket)
  | comma
  | colon
  | invalid
  deriving DecidableEq

/-- A character that is a token by itself. -/
def sign? (c : Char) : Option Token :=
  match c with
  | '-' => some .minus
  | ',' => some .comma
  | ':' => some .colon
  | '[' => some (.opening .square)
  | ']' => some (.closing .square)
  | '(' => some (.opening .round)
  | ')' => some (.closing .round)
  | '\x7b' => some (.opening .curly)
  | '\x7d' => some (.closing .curly)
  | _ => none

/-- The token that a word is. -/
def ofWord (word : List Char) : Token :=
  if word = ['N', 'o', 'n', 'e'] then .none
  else if word = ['T', 'r', 'u', 'e'] then .bool true
  else if word = ['F', 'a', 'l', 's', 'e'] then .bool false
  else if word = ['s', 'e', 't'] then .set
  else .invalid

/-- The token of decimal digits, last one first. Only zero may begin with a zero. -/
def ofDigits (digits : List Nat) : Token :=
  let n := Numeral.ofDigits digits
  if digits.getLast? = some 0 ∧ n ≠ 0 then .invalid else .number n

/-- Whether a character can stand in a word. -/
def isWordChar (c : Char) : Bool := c.isAlphanum || c == '_'

/-! ### Texts -/

/-- What comes next inside quotation marks. -/
inductive Awaiting where
  | plain
  /-- The character behind a backslash. -/
  | escaped
  /-- Hexadecimal digits of a character: how many, and what those in front say. -/
  | code (missing value : Nat)
  /-- At most so many more octal digits of a character, behind some. -/
  | octal (missing value : Nat)
  deriving DecidableEq

/-- What a character behind a backslash stands for. -/
def unescape? (c : Char) : Option Char :=
  match c with
  | '\\' | '\'' | '"' => some c
  | 'a' => some '\x07'
  | 'b' => some '\x08'
  | 'f' => some '\x0c'
  | 'n' => some '\n'
  | 'r' => some '\r'
  | 't' => some '\t'
  | 'v' => some '\x0b'
  | _ => none

/-- How many hexadecimal digits follow a letter behind a backslash. -/
def codeLength? (c : Char) : Option Nat :=
  match c with
  | 'x' => some 2
  | 'u' => some 4
  | 'U' => some 8
  | _ => none

/-- The value of an octal digit. -/
def octalDigit? (c : Char) : Option Nat := (Numeral.digit? c).filter (· < 8)

/-- The character with a number, if there is one. -/
def char? (n : Nat) : Option Char := if n.isValidChar then some (.ofNat n) else none

/-- Whether a character cannot stand inside quotation marks. -/
def isBarred (c : Char) : Bool := c == '\n' || c == '\r' || c == '\x00'

/-! ### The machine -/

/-- Where the machine stands. What has been gathered comes last first. -/
inductive Mode where
  | between
  | word (letters : List Char)
  | number (digits : List Nat)
  /-- Inside quotation marks, behind some characters. -/
  | quoted (mark : Char) (chars : List Char) (next : Awaiting)
  /-- Behind something that is no literal. -/
  | lost
  deriving DecidableEq

/-- Stops at a character that is no literal. -/
def getLost : Mode × List Token := (.lost, [.invalid])

/-- One more character outside everything else. -/
def stepBetween (c : Char) : Mode × List Token :=
  if c = ' ' ∨ c = '\t' ∨ c = '\x0c' then (.between, [])
  else if c = '\'' ∨ c = '"' then (.quoted c [] .plain, [])
  else match sign? c, Numeral.digit? c with
    | some token, _ => (.between, [token])
    | none, some d => (.number [d], [])
    | none, none => if isWordChar c then (.word [c], []) else getLost

/-- One more character of a text, behind no backslash. -/
def stepPlain (mark : Char) (chars : List Char) (c : Char) : Mode × List Token :=
  if c = mark then (.between, [.text (String.ofList chars.reverse)])
  else if c = '\\' then (.quoted mark chars .escaped, [])
  else if isBarred c then getLost
  else (.quoted mark (c :: chars) .plain, [])

/-- One more character of a text, directly behind a backslash. -/
def stepEscaped (mark : Char) (chars : List Char) (c : Char) : Mode × List Token :=
  match unescape? c, codeLength? c, octalDigit? c with
  | some d, _, _ => (.quoted mark (d :: chars) .plain, [])
  | none, some missing, _ => (.quoted mark chars (.code missing 0), [])
  | none, none, some d => (.quoted mark chars (.octal 2 d), [])
  | none, none, none =>
      if c = 'N' ∨ isBarred c then getLost else (.quoted mark (c :: '\\' :: chars) .plain, [])

/-- One more character of a text. -/
def stepQuoted (mark : Char) (chars : List Char) (next : Awaiting) (c : Char) :
    Mode × List Token :=
  match next with
  | .plain => stepPlain mark chars c
  | .escaped => stepEscaped mark chars c
  | .code missing value =>
      match hexDigit? c with
      | none => getLost
      | some d =>
          if 1 < missing then (.quoted mark chars (.code (missing - 1) (value * 16 + d)), [])
          else match char? (value * 16 + d) with
            | some e => (.quoted mark (e :: chars) .plain, [])
            | none => getLost
  | .octal missing value =>
      match octalDigit? c with
      | none => stepPlain mark (.ofNat value :: chars) c
      | some d =>
          if 1 < missing then (.quoted mark chars (.octal (missing - 1) (value * 8 + d)), [])
          else (.quoted mark (.ofNat (value * 8 + d) :: chars) .plain, [])

/-- One more character: where the machine stands then, and what it has found. -/
def step (m : Mode) (c : Char) : Mode × List Token :=
  match m with
  | .between => stepBetween c
  | .word letters =>
      if isWordChar c then (.word (c :: letters), [])
      else ((stepBetween c).1, ofWord letters.reverse :: (stepBetween c).2)
  | .number digits =>
      match Numeral.digit? c with
      | some d => (.number (d :: digits), [])
      | none => ((stepBetween c).1, ofDigits digits :: (stepBetween c).2)
  | .quoted mark chars next => stepQuoted mark chars next c
  | .lost => (.lost, [])

/-- What is found at the end of the text. -/
def finish : Mode → List Token
  | .between | .lost => []
  | .word letters => [ofWord letters.reverse]
  | .number digits => [ofDigits digits]
  | .quoted _ _ _ => [.invalid]

/-- The tokens up to the end of the text, for a machine that is under way. -/
def tokensFrom : Mode → List Char → List Token
  | m, [] => finish m
  | m, c :: rest => (step m c).2 ++ tokensFrom (step m c).1 rest

/-! ## Displays -/

/-- A display that is still open. Complete items come last first. -/
inductive Pending where
  | items (b : Bracket) (items : List Value)
  /-- Behind a comma between the pairs of a dictionary. -/
  | key (pairs : List (Value × Value))
  /-- Behind the colon of a pair. -/
  | value (pairs : List (Value × Value)) (key : Value)

/-- The value of a display without items. -/
def Bracket.empty : Bracket → Value
  | square => .list []
  | round => .tuple []
  | curly => .dict []

/-- The value of a display with items. -/
def Bracket.display : Bracket → List Value → Value
  | square, items => .list items
  | round, items => .tuple items
  | curly, items => .set items

/-- The value of items in brackets without a comma behind them. -/
def Bracket.enclose : Bracket → List Value → Value
  | round, [v] => v
  | b, items => b.display items

mutual

/-- Reads on where an item has to follow. -/
def readItem : List Pending → List Token → Option Value
  | stack, .none :: rest => readOn stack .none rest
  | stack, .bool b :: rest => readOn stack (.bool b) rest
  | stack, .number n :: rest =>
      if n < Nat.pow 2 63 then readOn stack (.int (.ofInt n)) rest else none
  | stack, .minus :: .number n :: rest =>
      if n ≤ Nat.pow 2 63 then readOn stack (.int (.ofInt (-n))) rest else none
  | stack, .text s :: rest => readOn stack (.str s) rest
  | stack, .set :: .opening .round :: .closing .round :: rest => readOn stack (.set []) rest
  | stack, .opening b :: .closing b' :: rest =>
      if b = b' then readOn stack b.empty rest else none
  | stack, .opening b :: rest => readItem (.items b [] :: stack) rest
  | _, _ => none

/-- Reads on behind an item. -/
def readOn : List Pending → Value → List Token → Option Value
  | [], v, [] => some v
  | .items b items :: stack, v, .comma :: .closing b' :: rest =>
      if b = b' then readOn stack (b.display (v :: items).reverse) rest else none
  | .items b items :: stack, v, .comma :: rest => readItem (.items b (v :: items) :: stack) rest
  | .items b items :: stack, v, .closing b' :: rest =>
      if b = b' then readOn stack (b.enclose (v :: items).reverse) rest else none
  | .items .curly [] :: stack, key, .colon :: rest => readItem (.value [] key :: stack) rest
  | .key pairs :: stack, key, .colon :: rest => readItem (.value pairs key :: stack) rest
  | .value pairs key :: stack, v, .comma :: .closing .curly :: rest =>
      readOn stack (.dict ((key, v) :: pairs).reverse) rest
  | .value pairs key :: stack, v, .comma :: rest =>
      readItem (.key ((key, v) :: pairs) :: stack) rest
  | .value pairs key :: stack, v, .closing .curly :: rest =>
      readOn stack (.dict ((key, v) :: pairs).reverse) rest
  | _, _, _ => none

end

/-- The value of a text, if it is a literal. -/
def read? (t : List Char) : Option Value := readItem [] (tokensFrom .between t)

end Stepwise.Literal
