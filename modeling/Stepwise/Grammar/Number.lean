import Stepwise.Text.Basic

/-!
# Numbers

The longest number at the head of a text. Only its shape matters to the
grammar, so the result says whether the number is imaginary and where the
text goes on. Digits may be grouped by single underscores. A whole number
other than zero does not start with the digit zero.
-/

namespace Stepwise.Grammar

open Stepwise.Text

variable {α : Type}

/-- Whether a character is a binary digit. -/
def isBinDigit (c : Char) : Bool := c == '0' || c == '1'

/-- Whether a character is an octal digit. -/
def isOctDigit (c : Char) : Bool := '0' ≤ c && c ≤ '7'

/-- Whether a character is a hexadecimal digit. -/
def isHexDigit (c : Char) : Bool :=
  c.isDigit || ('a' ≤ c && c ≤ 'f') || ('A' ≤ c && c ≤ 'F')

/-- The digits at the head of a text and what follows them. An underscore
belongs to them if a digit stands behind it. -/
def digitRun (isDigit : Char → Bool) :
    List (Located α) → List Char × List (Located α)
  | [] => ([], [])
  | x :: rest =>
      if isDigit x.char then
        let (digits, behind) := digitRun isDigit rest
        (x.char :: digits, behind)
      else if x.char == '_' then
        match rest with
        | y :: rest' =>
            if isDigit y.char then
              let (digits, behind) := digitRun isDigit rest'
              (y.char :: digits, behind)
            else ([], x :: y :: rest')
        | [] => ([], [x])
      else ([], x :: rest)

/-- A number in a base other than ten, from behind its base letter. -/
def basedNumber? (isDigit : Char → Bool) (t : List (Located α)) :
    Option (Bool × List (Located α)) :=
  match digitRun isDigit t with
  | ([], _) => none
  | (_ :: _, behind) => some (false, behind)

/-- The exponent at the head of a text, if there is one, and what follows. -/
def exponent? (t : List (Located α)) : Option (List (Located α)) :=
  match t with
  | e :: x :: rest =>
      if e.char == 'e' || e.char == 'E' then
        if x.char.isDigit then some (digitRun Char.isDigit (x :: rest)).2
        else if x.char == '+' || x.char == '-' then
          match rest with
          | y :: _ =>
              if y.char.isDigit then some (digitRun Char.isDigit rest).2 else none
          | [] => none
        else none
      else none
  | _ => none

/-- The sign of an imaginary number, if it is there, is read. -/
def imaginarySuffix (t : List (Located α)) : Bool × List (Located α) :=
  match t with
  | x :: rest => if x.char == 'j' || x.char == 'J' then (true, rest) else (false, t)
  | [] => (false, [])

/-- What follows the fraction of a number, from behind its point. A fraction
does not start with an underscore. -/
def fraction? (t : List (Located α)) : Option (List (Located α)) :=
  match t with
  | x :: _ => if x.char == '_' then none else some (digitRun Char.isDigit t).2
  | [] => some []

/-- A decimal number that has a point or an exponent, from behind its whole
part and its fraction. -/
def floatTail (t : List (Located α)) : Bool × List (Located α) :=
  imaginarySuffix ((exponent? t).getD t)

/-- A decimal number whose first digit, already read, is `first`. -/
def decimalNumber? (first : Char) (t : List (Located α)) :
    Option (Bool × List (Located α)) :=
  let (digits, behind) := digitRun Char.isDigit t
  let whole : Option (Bool × List (Located α)) :=
    match exponent? behind with
    | some rest => some (imaginarySuffix rest)
    | none =>
        match imaginarySuffix behind with
        | (true, rest) => some (true, rest)
        | (false, rest) =>
            if first == '0' && digits.any (· != '0') then none
            else some (false, rest)
  match behind with
  | x :: rest =>
      if x.char == '.' then (fraction? rest).map floatTail else whole
  | [] => whole

/-- A number whose first digit, already read, is `first`. -/
def number? (first : Char) (t : List (Located α)) :
    Option (Bool × List (Located α)) :=
  match t with
  | x :: rest =>
      if first == '0' then
        if x.char == 'x' || x.char == 'X' then basedNumber? isHexDigit rest
        else if x.char == 'o' || x.char == 'O' then basedNumber? isOctDigit rest
        else if x.char == 'b' || x.char == 'B' then basedNumber? isBinDigit rest
        else decimalNumber? first t
      else decimalNumber? first t
  | [] => some (false, [])

/-- A number that starts with a point, from behind it. -/
def pointNumber? (t : List (Located α)) : Option (Bool × List (Located α)) :=
  (fraction? t).map floatTail

end Stepwise.Grammar
