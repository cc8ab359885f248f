import Stepwise.Grammar.ReadExpr

/-!
# Reading patterns

The patterns of a `case`. Capturing a name is no assignment in the sense of
this library, so a pattern is reduced to the expressions that are evaluated
when it is tried: values, keys and classes, in the order of the text.

The recursion is tied like that of expressions, by a measure that the number
of tokens bounds. `closed` reads a pattern that binds tighter than the signs
for alternatives and for naming the whole, and `whole` adds these.
-/

namespace Stepwise.Grammar

open Reader

variable {α : Type}

/-- What a pattern is, as far as the grammar asks about it. -/
inductive PatternForm where
  | star
  /-- A bare name. -/
  | capture (id : String)
  | member
  | realNumber
  | imaginaryNumber
  /-- Any other value. -/
  | value
  | singleton
  | other
  deriving DecidableEq

/-- A pattern where it stands, with the expressions that it evaluates. -/
structure Pattern (α : Type) where
  start : α
  form : PatternForm
  exprs : List (Expr α)

namespace Pattern

/-- Whether a pattern can be the key of a mapping. -/
def isKey (p : Pattern α) : Bool :=
  match p.form with
  | .member | .realNumber | .imaginaryNumber | .value | .singleton => true
  | _ => false

/-- Whether a pattern stands for any number of items. -/
def isStar (p : Pattern α) : Bool :=
  match p.form with
  | .star => true
  | _ => false

/-- Whether a pattern is a bare name. -/
def isCapture (p : Pattern α) : Bool :=
  match p.form with
  | .capture _ => true
  | _ => false

/-- Fails at a pattern unless a condition holds. -/
def require (ok : Bool) (p : Pattern α) : Reader α Unit :=
  if ok then pure () else failAt (some p.start)

/-- Whether a pattern can start with a token. -/
def startsWith (t : Token α) : Bool :=
  t.name?.isSome ||
  match t.kind with
  | .number _ | .text _ _ _ | .templateStart _ => true
  | .keyword k =>
      match k with
      | .none_ | .true_ | .false_ => true
      | _ => false
  | .sign s =>
      match s with
      | .openParen | .openBracket | .openBrace | .star | .plus | .minus => true
      | _ => false
  | _ => false

/-- Patterns up to a closing sign. -/
def until_ (s : Sign) : ListForm α := ⟨startsWith, (·.isSign s)⟩

/-- Alternatives, and a name for the whole; `closed` reads one of them. -/
def whole (closed : Reader α (Pattern α)) : Reader α (Pattern α) := do
  let first ← closed
  let alternatives ← many (·.isSign .bar) do
    require (!first.isStar) first
    advance
    let p ← closed
    require (!p.isStar) p
    return p
  let p : Pattern α :=
    if alternatives.isEmpty then first
    else ⟨first.start, .other, first.exprs ++ alternatives.flatMap Pattern.exprs⟩
  if ← eatWord .as_ then
    require (!p.isStar) p
    let _ ← identifier
    return { p with form := .other }
  else return p

/-! ## Names and literals -/

/-- The members that follow a name. -/
def membersWithin (start : α) : Nat → Expr α → Reader α (Expr α)
  | 0, _ => fail
  | fuel + 1, e => do
      if ← eat .dot then
        let field ← identifier
        membersWithin start fuel (.member start e field .load)
      else return e

/-- A name, which is a capture unless members follow. The underscore captures
nothing. -/
def nameOrMember (id : String) : Reader α (Pattern α) := do
  let start ← here
  advance
  if ← at_ .dot then
    let e ← fun tokens =>
      membersWithin start (tokens.length + 1) (.name start id .load) tokens
    return ⟨start, .member, [e]⟩
  else return ⟨start, if id = "_" then .other else .capture id, []⟩

/-- A number behind a minus sign. -/
def negative (r : Inner α) : Reader α (Pattern α) := do
  let start ← here
  match (← peekSecond).kind with
  | .number _ =>
      advance
      let p ← r.binary .unary .plain
      let form : PatternForm := match p.expr with
        | .atom _ .realNumber => .realNumber
        | _ => .value
      return ⟨start, form, [.operation start .negation [p.expr]]⟩
  | _ => fail

/-- A name, a dotted name or a literal. -/
def simple (r : Inner α) : Reader α (Pattern α) := do
  let t ← peek
  match t.name? with
  | some id => nameOrMember id
  | none =>
      let start ← here
      match t.kind with
      | .keyword .none_ | .keyword .true_ | .keyword .false_ =>
          advance
          return ⟨start, .singleton, [.atom start .constant]⟩
      | .text _ _ _ | .templateStart _ => return ⟨start, .value, [← r.literals]⟩
      | .number imaginary =>
          advance
          if imaginary then
            return ⟨start, .imaginaryNumber, [.atom start .imaginaryNumber]⟩
          else return ⟨start, .realNumber, [.atom start .realNumber]⟩
      | .sign .minus => negative r
      | _ => fail

/-! ## Patterns with parts, which are read by `sub` -/

/-- The items of a sequence behind its first. -/
def itemsBehind (sub : Reader α (Pattern α)) (close : Sign) :
    Reader α (List (Expr α)) := do
  unless ← at_ close do expect .comma
  let (items, _) ← elements (until_ close) sub
  closeList close
  return items.flatMap Pattern.exprs

/-- A pattern in parentheses or brackets. -/
def enclosed (sub : Reader α (Pattern α)) (close : Sign) : Reader α (Pattern α) := do
  let start ← here
  advance
  if ← eat close then return ⟨start, .other, []⟩
  let first ← sub
  if close = .closeBracket || (← at_ .comma) then
    let rest ← itemsBehind sub close
    return ⟨start, .other, first.exprs ++ rest⟩
  else
    require (!first.isStar) first
    expect close
    return first

/-- An entry of a mapping, whose key is read by `key`. The flag says that the
rest of the mapping was captured before. -/
def mappingEntry (sub key : Reader α (Pattern α))
    (seen : Bool × List (Expr α)) : Reader α (Bool × List (Expr α)) := do
  let place ← here
  if ← eat .doubleStar then
    let _ ← identifier
    if seen.1 then failAt (some place)
    return (true, seen.2)
  else
    let k ← key
    require k.isKey k
    expect .colon
    let p ← sub
    require (!p.isStar) p
    if seen.1 then failAt (some place)
    return (false, seen.2 ++ k.exprs ++ p.exprs)

/-- A mapping. -/
def mapping (sub key : Reader α (Pattern α)) : Reader α (Pattern α) := do
  let start ← here
  advance
  let starts (t : Token α) : Bool := startsWith t || t.isSign .doubleStar
  let ((_, exprs), _) ← foldElements ⟨starts, (·.isSign .closeBrace)⟩
    (mappingEntry sub key) (false, [])
  closeList .closeBrace
  return ⟨start, .other, exprs⟩

/-- An argument of a class. The flag says that a keyword was seen before. -/
def classArgument (sub : Reader α (Pattern α))
    (seen : Bool × List (Expr α)) : Reader α (Bool × List (Expr α)) := do
  let p ← sub
  require (!p.isStar) p
  if ← eat .equal then
    require p.isCapture p
    let value ← sub
    require (!value.isStar) value
    return (true, seen.2 ++ value.exprs)
  else
    require (!seen.1) p
    return (false, seen.2 ++ p.exprs)

/-- A class, whose name has been read, with its arguments. -/
def classBehind (sub : Reader α (Pattern α)) (cls : Pattern α) :
    Reader α (Pattern α) := do
  let exprs ← match cls.form with
    | .capture id => pure [Expr.name cls.start id .load]
    | .member => pure cls.exprs
    | _ => failAt (some cls.start)
  advance
  let ((_, exprs), _) ←
    foldElements (until_ .closeParen) (classArgument sub) (false, exprs)
  closeList .closeParen
  return ⟨cls.start, .other, exprs⟩

/-- A complex number, whose real part has been read; `closed` reads the
imaginary part. -/
def complexBehind (closed : Reader α (Pattern α)) (real : Pattern α) :
    Reader α (Pattern α) := do
  advance
  require (real.form = .realNumber) real
  let imaginary ← closed
  require (imaginary.form = .imaginaryNumber) imaginary
  return ⟨real.start, .value, real.exprs ++ imaginary.exprs⟩

/-- A pattern for any number of items. -/
def star : Reader α (Pattern α) := do
  let start ← here
  advance
  let _ ← identifier
  return ⟨start, .star, []⟩

/-- A pattern of at most `fuel` nested levels that binds tighter than
alternatives. -/
def closed (r : Inner α) : Nat → Reader α (Pattern α)
  | 0 => fail
  | fuel + 1 => do
      let below := closed r fuel
      let sub := whole below
      let t ← peek
      let head ←
        if t.isSign .openBrace then mapping sub below
        else if t.isSign .star then star
        else if t.isSign .openParen then enclosed sub .closeParen
        else if t.isSign .openBracket then enclosed sub .closeBracket
        else simple r
      let head ← if ← at_ .openParen then classBehind sub head else pure head
      let t ← peek
      if t.isSign .plus || t.isSign .minus then complexBehind below head
      else return head

/-- The pattern of a `case`: a sequence needs no brackets. -/
def ofCase (r : Inner α) (fuel : Nat) : Reader α (Pattern α) := do
  let pattern := whole (closed r fuel)
  let first ← pattern
  if ← eat .comma then
    let (items, _) ← elements ⟨startsWith, fun _ => true⟩ pattern
    return ⟨first.start, .other, first.exprs ++ items.flatMap Pattern.exprs⟩
  else
    require (!first.isStar) first
    return first

end Pattern

end Stepwise.Grammar
