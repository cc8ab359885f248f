import Stepwise.Json.Numeral

/-!
# Tokens of JSON

A text is cut into tokens by a machine that sees one character at a time. A
numeral has no end of its own: the character behind it ends it and is then
looked at again, as the first of what follows.

The first character that is no JSON gives the token `invalid`, and nothing is
read behind it.

## Main results

* `tokensFrom_append`: a text may be cut into tokens in parts.
-/

namespace Stepwise.Json

/-- A piece of a text in quotation marks. -/
inductive Piece where
  | char (c : Char)
  /-- A unit of UTF-16, given by its number. -/
  | unit (n : Nat)
  deriving DecidableEq

/-- Whether a unit is the first half of a pair. -/
def isLead (n : Nat) : Bool := 0xd800 ≤ n && n < 0xdc00

/-- Whether a unit is the second half of a pair. -/
def isTrail (n : Nat) : Bool := 0xdc00 ≤ n && n < 0xe000

/-- The text of pieces. Halves of pairs have to come in pairs. -/
def ofPieces : List Piece → Option (List Char)
  | [] => some []
  | .char c :: rest => (ofPieces rest).map (c :: ·)
  | .unit n :: rest =>
      if isLead n then
        match rest with
        | .unit m :: rest' =>
            if isTrail m then
              (ofPieces rest').map
                (Char.ofNat (0x10000 + (n - 0xd800) * 0x400 + (m - 0xdc00)) :: ·)
            else none
        | _ => none
      else if isTrail n then none
      else (ofPieces rest).map (Char.ofNat n :: ·)

inductive Token where
  | openArray
  | closeArray
  | openObject
  | closeObject
  | comma
  | colon
  | null
  | bool (b : Bool)
  | number (n : Option Number)
  | text (s : Option String)
  | invalid
  deriving DecidableEq

/-- What comes next inside quotation marks. -/
inductive Quoting where
  | plain
  /-- The character behind a backslash. -/
  | escaped
  /-- Hexadecimal digits of a unit: how many, and what those in front say. -/
  | digits (missing value : Nat)
  deriving DecidableEq

/-- Where the machine stands. -/
inductive Mode where
  | between
  /-- Inside a word, in front of its last letters. -/
  | word (rest : List Char) (token : Token)
  | numeral (n : Numeral) (part : Numeral.Part)
  /-- Inside quotation marks, behind some pieces, last first. -/
  | quoted (pieces : List Piece) (next : Quoting)
  /-- Behind a character that is no JSON. -/
  | lost
  deriving DecidableEq

/-- The end of a text in quotation marks. -/
def endQuoted (pieces : List Piece) : Token :=
  .text ((ofPieces pieces.reverse).map String.ofList)

/-- What a letter behind a backslash stands for. -/
def unescape? (c : Char) : Option Char :=
  if c = '"' ∨ c = '\\' ∨ c = '/' then some c
  else if c = 'b' then some '\x08'
  else if c = 'f' then some '\x0c'
  else if c = 'n' then some '\n'
  else if c = 'r' then some '\r'
  else if c = 't' then some '\t'
  else none

/-- The value of a hexadecimal digit. -/
def hexDigit? (c : Char) : Option Nat :=
  if c.isDigit then some (c.toNat - '0'.toNat)
  else if 'a' ≤ c ∧ c ≤ 'f' then some (c.toNat - 'a'.toNat + 10)
  else if 'A' ≤ c ∧ c ≤ 'F' then some (c.toNat - 'A'.toNat + 10)
  else none

/-- Stops at a character that is no JSON. -/
def getLost : Mode × List Token := (.lost, [.invalid])

/-- One more character outside everything else. -/
def stepBetween (c : Char) : Mode × List Token :=
  if c = ' ' ∨ c = '\n' ∨ c = '\t' ∨ c = '\r' then (.between, [])
  else if c = '[' then (.between, [.openArray])
  else if c = ']' then (.between, [.closeArray])
  else if c = '\x7b' then (.between, [.openObject])
  else if c = '\x7d' then (.between, [.closeObject])
  else if c = ',' then (.between, [.comma])
  else if c = ':' then (.between, [.colon])
  else if c = '"' then (.quoted [] .plain, [])
  else if c = 'n' then (.word ['u', 'l', 'l'] .null, [])
  else if c = 't' then (.word ['r', 'u', 'e'] (.bool true), [])
  else if c = 'f' then (.word ['a', 'l', 's', 'e'] (.bool false), [])
  else if c = '-' then (.numeral (.start true) .sign, [])
  else match (Numeral.start false).next .sign c with
    | .more n part => (.numeral n part, [])
    | _ => getLost

/-- One more character inside quotation marks. -/
def stepQuoted (pieces : List Piece) (next : Quoting) (c : Char) : Mode × List Token :=
  match next with
  | .plain =>
      if c = '"' then (.between, [endQuoted pieces])
      else if c = '\\' then (.quoted pieces .escaped, [])
      else if c.toNat < 0x20 then getLost
      else (.quoted (.char c :: pieces) .plain, [])
  | .escaped =>
      if c = 'u' then (.quoted pieces (.digits 4 0), [])
      else match unescape? c with
        | some d => (.quoted (.char d :: pieces) .plain, [])
        | none => getLost
  | .digits missing value =>
      match hexDigit? c with
      | some d =>
          if missing ≤ 1 then (.quoted (.unit (value * 16 + d) :: pieces) .plain, [])
          else (.quoted pieces (.digits (missing - 1) (value * 16 + d)), [])
      | none => getLost

/-- One more character: where the machine stands then, and what it has found. -/
def step (m : Mode) (c : Char) : Mode × List Token :=
  match m with
  | .between => stepBetween c
  | .word [d] token => if c = d then (.between, [token]) else getLost
  | .word (d :: rest) token => if c = d then (.word rest token, []) else getLost
  | .word [] _ => getLost
  | .numeral n part =>
      match n.next part c with
      | .more n part => (.numeral n part, [])
      | .stop =>
          let after := stepBetween c
          (after.1, .number n.number? :: after.2)
      | .fail => getLost
  | .quoted pieces next => stepQuoted pieces next c
  | .lost => (.lost, [])

/-- What is found at the end of the text. -/
def finish : Mode → List Token
  | .between | .lost => []
  | .numeral n part => if part.canEnd then [.number n.number?] else [.invalid]
  | .word _ _ | .quoted _ _ => [.invalid]

/-- The tokens up to the end of the text, for a machine that is under way. -/
def tokensFrom : Mode → List Char → List Token
  | m, [] => finish m
  | m, c :: rest => (step m c).2 ++ tokensFrom (step m c).1 rest

/-- The tokens of a text. -/
def tokens (t : List Char) : List Token := tokensFrom .between t

/-- Where the machine stands behind a text, and what it has found in it. -/
def run : Mode → List Char → Mode × List Token
  | m, [] => (m, [])
  | m, c :: rest =>
      let after := run (step m c).1 rest
      (after.1, (step m c).2 ++ after.2)

theorem tokensFrom_append (m : Mode) (s t : List Char) :
    tokensFrom m (s ++ t) = (run m s).2 ++ tokensFrom (run m s).1 t := by
  induction s generalizing m with
  | nil => rfl
  | cons c rest ih => simp [tokensFrom, run, ih]

end Stepwise.Json
