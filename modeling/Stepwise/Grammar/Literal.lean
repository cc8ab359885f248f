import Stepwise.Grammar.Number
import Stepwise.Text.CharacterName

/-!
# String literals

Where a literal ends, and whether what it holds is well formed. The two
questions are separate: the end is found by quotes and backslashes alone, and
a malformed escape is only reported when the grammar comes to the literal. A
literal without a closing quote ends with its line, and the text goes on
behind it. A literal with interpolated fields is cut at its braces, and each piece of text
between them is judged like a literal of its own.
-/

namespace Stepwise.Grammar

open Stepwise.Text

variable {α : Type}

/-- What the letters in front of a literal say about it. -/
structure Flavor where
  raw : Bool
  bytes : Bool
  /-- Whether the literal has interpolated fields. -/
  template : Bool
  /-- Whether its fields are kept apart instead of being joined to a text. -/
  deferred : Bool
  deriving DecidableEq

/-- The meaning of a single letter in front of a quote. -/
def Flavor.ofLetter? (c : Char) : Option Flavor :=
  match c.toLower with
  | 'f' => some ⟨false, false, true, false⟩
  | 't' => some ⟨false, false, true, true⟩
  | 'u' => some ⟨false, false, false, false⟩
  | 'b' => some ⟨false, true, false, false⟩
  | 'r' => some ⟨true, false, false, false⟩
  | _ => none

/-- The meaning of two letters in front of a quote: one of them is `r`. -/
def Flavor.ofLetters? (c d : Char) : Option Flavor :=
  match c.toLower, d.toLower with
  | 'r', 'f' | 'f', 'r' => some ⟨true, false, true, false⟩
  | 'r', 't' | 't', 'r' => some ⟨true, false, true, true⟩
  | 'r', 'b' | 'b', 'r' => some ⟨true, true, false, false⟩
  | _, _ => none

/-- How a literal is delimited. -/
structure Quote where
  mark : Char
  triple : Bool
  deriving DecidableEq

/-- Whether a text starts with two marks. -/
def startsWithTwo (mark : Char) (t : List (Located α)) : Bool :=
  match t with
  | x :: y :: _ => x.char == mark && y.char == mark
  | _ => false

/-- The quote whose first mark has been read, and what follows it. -/
def openQuote (mark : Char) (t : List (Located α)) : Quote × List (Located α) :=
  if startsWithTwo mark t then (⟨mark, true⟩, t.drop 2) else (⟨mark, false⟩, t)

/-- Puts characters in front of the first part of a split, if there is one. -/
def before {β : Type} (front : List (Located α)) :
    Option (List (Located α) × β) → Option (List (Located α) × β)
  | none => none
  | some (taken, behind) => some (front ++ taken, behind)

/-- A literal behind its opening quote. -/
structure Body (α : Type) where
  content : List (Located α)
  /-- The place of the closing quote, if there is one. -/
  stop : Option α
  /-- The text behind the literal. -/
  rest : List (Located α)

/-- A literal with more characters in front. -/
def Body.behind (front : List (Located α)) (b : Body α) : Body α :=
  { b with content := front ++ b.content }

/-- The literal at the head of a text, from behind its opening quote. It is
not closed if the text, or a line of a literal that may not span lines, ends
first. A backslash takes the character behind it along. -/
def Body.ofText (q : Quote) : List (Located α) → Body α
  | [] => ⟨[], none, []⟩
  | x :: rest =>
      if x.char == '\\' then
        match rest with
        | [] => ⟨[x], none, []⟩
        | y :: rest' =>
            match rest' with
            | z :: rest'' =>
                if y.char == '\r' && z.char == '\n' then
                  (ofText q rest'').behind [x, y, z]
                else (ofText q (z :: rest'')).behind [x, y]
            | [] => ⟨[x, y], none, []⟩
      else if x.char == q.mark then
        if q.triple then
          if startsWithTwo q.mark rest then ⟨[], some x.place, rest.drop 2⟩
          else (ofText q rest).behind [x]
        else ⟨[], some x.place, rest⟩
      else if !q.triple && (x.char == '\n' || x.char == '\r') then ⟨[], none, x :: rest⟩
      else (ofText q rest).behind [x]

/-! ## Escapes -/

/-- What a scan for malformed escapes waits for. -/
inductive Awaiting (α : Type) where
  /-- Any character. -/
  | any
  /-- The character behind a backslash. -/
  | escaped
  /-- So many more hexadecimal digits, after digits of this value. -/
  | hex (count : Nat) (value : Nat)
  /-- The brace in front of a character's name. -/
  | nameBrace
  /-- More of a character's name, which starts at this place; what has been
  read of it, last first. -/
  | name (start : α) (word : List Char)

/-- The value of a hexadecimal digit. -/
def hexValue (c : Char) : Nat :=
  if c.isDigit then c.toNat - '0'.toNat
  else if 'a' ≤ c then c.toNat - 'a'.toNat + 10
  else c.toNat - 'A'.toNat + 10

/-- The place of the first malformed escape in the characters of a literal
that ends at `stop`. Escapes by code point and by name are no escapes in a
bytes literal. -/
def escapeDefect? (bytes : Bool) (stop : α) :
    Awaiting α → List (Located α) → Option α
  | .any, [] => none
  | .escaped, [] => none
  | .hex _ _, [] => some stop
  | .nameBrace, [] => some stop
  | .name _ _, [] => some stop
  | .any, x :: rest =>
      escapeDefect? bytes stop (if x.char == '\\' then .escaped else .any) rest
  | .escaped, x :: rest =>
      let next : Awaiting α :=
        if x.char == 'x' then .hex 2 0
        else if bytes then .any
        else if x.char == 'u' then .hex 4 0
        else if x.char == 'U' then .hex 8 0
        else if x.char == 'N' then .nameBrace
        else .any
      escapeDefect? bytes stop next rest
  | .hex count value, x :: rest =>
      if isHexDigit x.char then
        let value' := 16 * value + hexValue x.char
        if count ≤ 1 then
          if value' ≤ 0x10FFFF then escapeDefect? bytes stop .any rest
          else some (match rest with | y :: _ => y.place | [] => stop)
        else escapeDefect? bytes stop (.hex (count - 1) value') rest
      else some x.place
  | .nameBrace, x :: rest =>
      if x.char == '{' then
        escapeDefect? bytes stop
          (.name (match rest with | y :: _ => y.place | [] => stop) []) rest
      else some x.place
  | .name start word, x :: rest =>
      if x.char == '}' then
        if namesCharacter word.reverse then escapeDefect? bytes stop .any rest
        else some start
      else escapeDefect? bytes stop (.name start (x.char :: word)) rest

/-- The place of the first character outside ASCII. -/
def nonAscii? (t : List (Located α)) : Option α :=
  (t.find? fun x => decide (127 < x.char.toNat)).map Located.place

/-- The first defect of a literal without fields. A bytes literal holds ASCII
only, and a raw literal has no escapes. -/
def literalDefect? (f : Flavor) (stop : α) (body : List (Located α)) : Option α :=
  match (if f.bytes then nonAscii? body else none) with
  | some place => some place
  | none => if f.raw then none else escapeDefect? f.bytes stop .any body

/-! ## Text between fields -/

/-- The characters up to the next brace or closing quote, and what follows
them. Outside a format specification a doubled brace is a character. There is
none if the text, or the line of a literal that may not span lines, ends
first. The flag says that a character's name is being spelled, whose closing
brace is no field's. -/
def templateText? (q : Quote) (raw inSpec : Bool) :
    Bool → List (Located α) → Option (List (Located α) × List (Located α))
  | _, [] => none
  | named, x :: rest =>
      if !q.triple && (x.char == '\n' || x.char == '\r') then none
      else if x.char == '\\' then
        match rest with
        | [] => none
        | y :: rest' =>
            if y.char == '{' || y.char == '}' then
              before [x] (templateText? q raw inSpec named (y :: rest'))
            else
              match rest' with
              | [] => none
              | z :: rest'' =>
                  if !raw && y.char == 'N' && z.char == '{' then
                    before [x, y, z] (templateText? q raw inSpec true rest'')
                  else if y.char == '\r' && z.char == '\n' then
                    before [x, y, z] (templateText? q raw inSpec named rest'')
                  else
                    before [x, y] (templateText? q raw inSpec named (z :: rest''))
      else if x.char == q.mark then
        if q.triple && !startsWithTwo q.mark rest then
          before [x] (templateText? q raw inSpec named rest)
        else some ([], x :: rest)
      else if x.char == '{' then
        match rest with
        | y :: rest' =>
            if y.char == '{' && !inSpec then
              before [x, y] (templateText? q raw inSpec named rest')
            else some ([], x :: rest)
        | [] => some ([], x :: rest)
      else if x.char == '}' then
        if named then before [x] (templateText? q raw inSpec false rest)
        else
          match rest with
          | y :: rest' =>
              if y.char == '}' && !inSpec then
                before [x, y] (templateText? q raw inSpec named rest')
              else some ([], x :: rest)
          | [] => some ([], x :: rest)
      else before [x] (templateText? q raw inSpec named rest)

end Stepwise.Grammar
