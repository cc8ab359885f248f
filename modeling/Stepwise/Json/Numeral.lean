import Stepwise.Json.Basic

/-!
# Numerals

How a number is written in JSON, and which number is read from it.

A numeral is recognised one character at a time. Its digits are gathered into
a significand of 64 bits: digits of the whole part that no longer fit only
count for the exponent, and digits of the fraction that no longer fit are
dropped. The significand becomes a double and is scaled by a power of ten that
is a double itself, so the result can be off by the last place; a reader who
wants the exact number cannot rely on it, but everyone who reads by this rule
gets the same one.
-/

namespace Stepwise.Json

open Stepwise.Numeric

/-- The parts of a numeral that has been read so far. Digits come last first. -/
structure Numeral where
  negative : Bool
  whole : List Nat
  fraction : List Nat
  exponentNegative : Bool
  exponent : List Nat
  /-- Whether there is a point or an exponent. -/
  isFloat : Bool
  deriving DecidableEq

/-- The part of a numeral in which the last character stands. -/
inductive Numeral.Part where
  | sign
  /-- A zero that nothing of the whole part may follow. -/
  | zero
  | whole
  | point
  | fraction
  | mark
  | exponentSign
  | exponent
  deriving DecidableEq

/-- What a further character does to a numeral. -/
inductive Numeral.Step where
  | more (n : Numeral) (part : Numeral.Part)
  /-- The numeral ended in front of the character. -/
  | stop
  /-- The numeral cannot go on like this and cannot end here either. -/
  | fail

namespace Numeral

/-- The value of a decimal digit. -/
def digit? (c : Char) : Option Nat := if c.isDigit then some (c.toNat - '0'.toNat) else none

/-- A numeral with only a sign, if that. -/
def start (negative : Bool) : Numeral := ⟨negative, [], [], false, [], false⟩

variable (n : Numeral)

/-- A numeral with its first digit. -/
def beginWhole (d : Nat) : Step :=
  .more { n with whole := [d] } (if d = 0 then .zero else .whole)

/-- What may follow a complete whole part. -/
def afterWhole (c : Char) : Step :=
  if c = '.' then .more { n with isFloat := true } .point
  else if c = 'e' ∨ c = 'E' then .more { n with isFloat := true } .mark
  else .stop

/-- One more character. -/
def next (part : Part) (c : Char) : Step :=
  match part, digit? c with
  | .sign, some d => n.beginWhole d
  | .sign, none => .fail
  | .zero, some _ => .fail
  | .zero, none => n.afterWhole c
  | .whole, some d => .more { n with whole := d :: n.whole } .whole
  | .whole, none => n.afterWhole c
  | .point, some d | .fraction, some d => .more { n with fraction := d :: n.fraction } .fraction
  | .point, none => .fail
  | .fraction, none => if c = 'e' ∨ c = 'E' then .more n .mark else .stop
  | .mark, none =>
      if c = '+' then .more n .exponentSign
      else if c = '-' then .more { n with exponentNegative := true } .exponentSign
      else .fail
  | .mark, some d | .exponentSign, some d | .exponent, some d =>
      .more { n with exponent := d :: n.exponent } .exponent
  | .exponentSign, none => .fail
  | .exponent, none => .stop

/-- Whether a numeral can end in a part. -/
def Part.canEnd : Part → Bool
  | zero | whole | fraction | exponent => true
  | sign | point | mark | exponentSign => false

/-! ## Values -/

/-- Takes as many digits into a significand as 64 bits can hold: the
significand, and how many digits are left. -/
def take : (significand : Nat) → List Nat → Nat × Nat
  | significand, [] => (significand, 0)
  | significand, d :: digits =>
      if significand * 10 + d < Nat.pow 2 64 then take (significand * 10 + d) digits
      else (significand, digits.length + 1)

/-- A power of ten as a double. -/
def power (k : Nat) : Binary64 := .ofRatio false (Nat.pow 10 k) 1

/-- The greatest power of ten that is a double. -/
def greatestPower : Nat := 308

/-- A double divided by a power of ten, by way of the greatest one as often as
necessary. -/
def divide (x : Binary64) (k : Nat) : Binary64 :=
  if k ≤ greatestPower then x.dividedBy (power k)
  else if x.magnitude = 0 then x
  else divide (x.dividedBy (power greatestPower)) (k - greatestPower)
termination_by k
decreasing_by simp only [greatestPower] at *; omega

/-- A significand scaled by a power of ten, if the result is finite. -/
def scale (significand : Nat) (exponent : Int) : Option Binary64 :=
  let x := Binary64.ofInt significand
  if 0 ≤ exponent then
    if exponent ≤ greatestPower then
      let y := x.times (power exponent.toNat)
      if y.isFinite then some y else none
    else if significand = 0 then some x
    else none
  else some (divide x exponent.natAbs)

/-- The number that digits stand for, last one first. -/
def ofDigits : List Nat → Nat
  | [] => 0
  | d :: digits => ofDigits digits * 10 + d

/-- The double that a numeral stands for. -/
def float? : Option Binary64 :=
  let (whole, left) := take 0 n.whole.reverse
  let (significand, dropped) := take whole n.fraction.reverse
  let shift : Int := left - (n.fraction.length - dropped : Nat)
  let size : Int := ofDigits n.exponent
  (scale significand (if n.exponentNegative then shift - size else shift + size)).map
    fun x => if n.negative then x.neg else x

/-- The number that a numeral stands for, unless it is beyond all doubles. A
numeral without point and exponent is an integer, if it fits; a negative zero
is a double. -/
def number? : Option Number :=
  let whole := ofDigits n.whole
  if n.isFloat then n.float?.map .float
  else if n.negative then
    if 0 < whole ∧ whole ≤ Nat.pow 2 63 then some (.int (-whole)) else n.float?.map .float
  else if whole < Nat.pow 2 64 then some (.int whole)
  else n.float?.map .float

end Numeral

end Stepwise.Json
