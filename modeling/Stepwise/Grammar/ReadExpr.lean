import Stepwise.Grammar.Reading

/-!
# Reading expressions

The grammar of expressions. Nesting is the only recursion: what stands inside
an expression is read by an `Inner`, a pair of readers for a smaller measure,
and `inner` ties the knot by recursion on that measure. A nested expression is
read behind at least one token of the expression around it, so the number of
tokens is measure enough. Everything else is a plain function of an `Inner`.

Several forms are read more liberally than they are allowed, because what an
expression may be is only known from the token behind it. The check then
follows the reading, and fails at the start of what it refuses.
-/

namespace Stepwise.Grammar

open Reader

variable {α : Type}

/-- What an expression may be at the place where it stands. -/
structure Allowance where
  /-- A starred expression. -/
  starred : Bool
  /-- A starred expression over any expression, and not over an operand. -/
  wide : Bool
  /-- A yield without parentheses. -/
  yield : Bool
  /-- An operator `in` ends the expression. -/
  endsAtIn : Bool

namespace Allowance

/-- An expression and nothing else. -/
def plain : Allowance := ⟨false, false, false, false⟩

/-- An item of a display. -/
def item : Allowance := ⟨true, false, false, false⟩

/-- An argument of a call. -/
def argument : Allowance := ⟨true, true, false, false⟩

/-- One side of an assignment. -/
def side : Allowance := ⟨true, false, true, false⟩

/-- The target of a `for`. -/
def loopTarget : Allowance := ⟨true, true, false, true⟩

end Allowance

/-- How an expression was written. -/
inductive Form where
  | plain
  /-- Starting with a parenthesized expression. -/
  | grouped
  | bareTuple
  | bareGenerator
  deriving DecidableEq

/-- An expression as it was written. -/
structure Parsed (α : Type) where
  expr : Expr α
  form : Form

namespace Parsed

/-- Whether this is a starred expression. -/
def isStarred (p : Parsed α) : Bool :=
  match p.expr with
  | .starred .. => p.form != .grouped
  | _ => false

/-- Whether this is a named expression without parentheses. -/
def isNamed (p : Parsed α) : Bool :=
  match p.expr with
  | .named .. => p.form != .grouped
  | _ => false

/-- Whether this is a lambda without parentheses. -/
def isLambda (p : Parsed α) : Bool :=
  match p.expr with
  | .lambda .. => p.form != .grouped
  | _ => false

end Parsed

/-- Binding strengths, from loosest to tightest. -/
abbrev Strength := Nat

namespace Strength

def loosest : Strength := 0
def or : Strength := 1
def and : Strength := 2
def not : Strength := 3
def comparison : Strength := 4
def bar : Strength := 5
def caret : Strength := 6
def ampersand : Strength := 7
def shift : Strength := 8
def sum : Strength := 9
def product : Strength := 10
def unary : Strength := 11
def power : Strength := 12
def await : Strength := 13

end Strength

/-- The readers for what stands inside an expression. -/
structure Inner (α : Type) where
  /-- A lambda, a conditional expression, or what binds tighter. -/
  conditional : Allowance → Reader α (Parsed α)
  /-- Operators that bind tighter than a given one. -/
  binary : Strength → Allowance → Reader α (Parsed α)

/-- Lists of expressions up to a closing sign. -/
def exprsUntil (s : Sign) : ListForm α := ⟨Token.startsExpr, (·.isSign s)⟩

/-- Fails at the start of an expression unless a condition holds. -/
def require (ok : Bool) (e : Expr α) : Reader α Unit :=
  if ok then pure () else failAt (some e.start)

namespace Inner

variable (r : Inner α)

/-- An expression. -/
def expression : Reader α (Expr α) := do return (← r.conditional .plain).expr

/-- An expression that must be announced by its first token. -/
def expressionHere : Reader α (Expr α) := do
  if (← peek).startsExpr then r.expression else fail

/-- An expression that may be given a name. -/
def named (a : Allowance) : Reader α (Parsed α) := do
  let start ← here
  let p ← r.conditional a
  if ← eat .walrus then
    match p.expr with
    | .name .. => pure ()
    | e => failAt (some e.start)
    let value ← r.expression
    return ⟨.named start (p.expr.inContext .store) value, .plain⟩
  else return p

/-- An expression or a tuple without parentheses. -/
def expressions (a : Allowance) : Reader α (Parsed α) := do
  let start ← here
  let p ← r.conditional a
  if ← eat .comma then
    let (items, _) ← elements ⟨Token.startsExpr, fun _ => true⟩
      (do return (← r.conditional a).expr)
    return ⟨.sequence start .tuple (p.expr :: items) .load, .bareTuple⟩
  else return p

/-- What a starred expression may be over: nothing that binds looser than a
bitwise operator, except in parentheses. -/
def operand : Reader α (Parsed α) := do
  let p ← r.conditional .plain
  if p.form = .grouped then return p
  match p.expr with
  | .operation start c _ =>
      match c with
      | .comparison | .boolean | .not => failAt (some start)
      | _ => return p
  | .conditional start .. | .lambda start .. => failAt (some start)
  | _ => return p

/-! ## Parameters -/

/-- What has been seen of a list of parameters. -/
structure Parameters (α : Type) where
  defaults : List (Expr α)
  annotations : List (Expr α)
  hasAny : Bool
  hasDefault : Bool
  hasSlash : Bool
  /-- A star without a name. -/
  hasSeparator : Bool
  /-- A parameter behind that star. -/
  hasKeywordOnly : Bool
  /-- A star with a name. -/
  hasVariadic : Bool
  /-- A double star. -/
  hasRest : Bool
  /-- The star without a name, if it is the last parameter so far. -/
  lastSeparator : Option α

/-- No parameters. -/
def Parameters.empty : Parameters α :=
  ⟨[], [], false, false, false, false, false, false, false, none⟩

/-- The annotation of a parameter, where parameters have them. -/
def annotation (annotated starred : Bool) : Reader α (List (Expr α)) := do
  if !annotated then return []
  unless ← eat .colon do return []
  unless (← peek).startsExpr do fail
  return [(← r.conditional (if starred then .item else .plain)).expr]

/-- A parameter with a star, or the star alone. -/
def starParameter (annotated : Bool) (ps : Parameters α) : Reader α (Parameters α) := do
  let place ← here
  advance
  if (← peek).name?.isSome then
    let _ ← identifier
    let note ← r.annotation annotated true
    if ← at_ .equal then fail
    if ps.hasSeparator || ps.hasVariadic then failAt (some place)
    return { ps with
      annotations := ps.annotations ++ note, hasAny := true, hasVariadic := true
      lastSeparator := none }
  else
    if ps.hasSeparator || ps.hasVariadic then failAt (some place)
    return { ps with hasSeparator := true, lastSeparator := some place }

/-- The parameter with a double star. -/
def restParameter (annotated : Bool) (ps : Parameters α) : Reader α (Parameters α) := do
  let place ← here
  advance
  let _ ← identifier
  let note ← r.annotation annotated false
  if ps.hasRest then failAt (some place)
  if ← at_ .equal then fail
  if ps.hasSeparator && !ps.hasKeywordOnly then failAt (some place)
  return { ps with
    annotations := ps.annotations ++ note, hasAny := true, hasRest := true
    lastSeparator := none }

/-- A parameter without a star. -/
def plainParameter (annotated : Bool) (ps : Parameters α) : Reader α (Parameters α) := do
  let place ← here
  let _ ← identifier
  let note ← r.annotation annotated false
  let value : List (Expr α) ← if ← eat .equal then pure [← r.expressionHere] else pure []
  if value.isEmpty && ps.hasDefault && !ps.hasSeparator && !ps.hasVariadic then
    failAt (some place)
  return { ps with
    defaults := ps.defaults ++ value
    annotations := ps.annotations ++ note
    hasAny := true
    hasDefault := ps.hasDefault || !value.isEmpty
    hasKeywordOnly := ps.hasKeywordOnly || ps.hasSeparator
    lastSeparator := none }

/-- A parameter, or one of the signs that divide the list. -/
def parameter (annotated : Bool) (ps : Parameters α) : Reader α (Parameters α) := do
  if ps.hasRest then fail
  let t ← peek
  if t.isSign .star then r.starParameter annotated ps
  else if t.isSign .doubleStar then r.restParameter annotated ps
  else if t.isSign .slash then
    advance
    if !ps.hasAny || ps.hasSlash || ps.hasSeparator || ps.hasVariadic then
      failAt t.place
    return { ps with hasSlash := true, lastSeparator := none }
  else r.plainParameter annotated ps

/-- The parameters in front of a closing sign. -/
def parameters (annotated : Bool) (close : Sign) : Reader α (Parameters α) := do
  let starts (t : Token α) : Bool :=
    t.name?.isSome || t.isSign .star || t.isSign .doubleStar || t.isSign .slash
  let (ps, _) ← foldElements ⟨starts, (·.isSign close)⟩ (r.parameter annotated) .empty
  refuse ps.lastSeparator
  return ps

/-- A lambda. -/
def lambda : Reader α (Parsed α) := do
  let start ← here
  advance
  let ps ← if ← at_ .colon then pure .empty else r.parameters false .colon
  expect .colon
  let body ← r.expression
  return ⟨.lambda start ps.defaults body, .plain⟩

/-! ## Comprehensions -/

/-- One `for` of a comprehension. -/
def forClause : Reader α (ForClause α) := do
  let _ ← eatWord .async_
  expectWord .for_
  let target ← r.expressions .loopTarget
  refuse target.expr.targetDefect?
  expectWord .in_
  let iterable ← r.binary .loosest .plain
  let conditions ← many (·.isKeyword .if_) do
    advance
    return (← r.binary .loosest .plain).expr
  return .mk (target.expr.inContext .store) iterable.expr conditions

/-- Whether a comprehension goes on with a `for`. -/
def atFor : Reader α Bool := do
  let t ← peek
  return t.isKeyword .for_ || t.isKeyword .async_

/-- The clauses of a comprehension. -/
def forClauses : Reader α (List (ForClause α)) :=
  many (fun t => t.isKeyword .for_ || t.isKeyword .async_) r.forClause

/-! ## Displays -/

/-- A parenthesized expression, a tuple or a generator. -/
def parenthesized : Reader α (Parsed α) := do
  let start ← here
  advance
  if ← eat .closeParen then return ⟨.sequence start .tuple [] .load, .plain⟩
  let first ← r.named .side
  if ← eat .comma then
    let (items, _) ← elements (exprsUntil .closeParen)
      (do return (← r.named .item).expr)
    closeList .closeParen
    return ⟨.sequence start .tuple (first.expr :: items) .load, .plain⟩
  else if ← atFor then
    let clauses ← r.forClauses
    expect .closeParen
    return ⟨.comprehension start [first.expr] clauses, .plain⟩
  else
    match first.expr with
    | .starred place .. => failAt (some place)
    | _ => pure ()
    expect .closeParen
    return ⟨first.expr, .grouped⟩

/-- The items of a display behind its first. -/
def itemsBehind (close : Sign) (item : Reader α (List (Expr α))) :
    Reader α (List (Expr α)) := do
  unless ← at_ close do expect .comma
  let (items, _) ← elements (exprsUntil close) item
  closeList close
  return items.flatten

/-- A list or a comprehension of one. -/
def list : Reader α (Parsed α) := do
  let start ← here
  advance
  if ← eat .closeBracket then return ⟨.sequence start .list [] .load, .plain⟩
  let first ← r.named .item
  if ← atFor then
    let clauses ← r.forClauses
    expect .closeBracket
    return ⟨.comprehension start [first.expr] clauses, .plain⟩
  else
    let items ← itemsBehind .closeBracket (do return [(← r.named .item).expr])
    return ⟨.sequence start .list (first.expr :: items) .load, .plain⟩

/-- An entry of a dictionary display. -/
def entry : Reader α (List (Expr α)) := do
  if ← eat .doubleStar then return [(← r.operand).expr]
  else
    let key ← r.expression
    expect .colon
    return [key, ← r.expression]

/-- The rest of a dictionary, or of a comprehension of one, behind its first
entry. -/
def dictBehind (start : α) (first : List (Expr α)) : Reader α (Parsed α) := do
  if ← atFor then
    let clauses ← r.forClauses
    expect .closeBrace
    return ⟨.comprehension start first clauses, .plain⟩
  else
    let entries ← itemsBehind .closeBrace r.entry
    return ⟨.operation start .dict (first ++ entries), .plain⟩

/-- A dictionary, a set, or a comprehension of either. -/
def braced : Reader α (Parsed α) := do
  let start ← here
  advance
  if ← eat .closeBrace then return ⟨.operation start .dict [], .plain⟩
  if ← eat .doubleStar then
    r.dictBehind start [(← r.operand).expr]
  else
    let first ← r.named .item
    if ← atFor then
      let clauses ← r.forClauses
      expect .closeBrace
      return ⟨.comprehension start [first.expr] clauses, .plain⟩
    else if ← at_ .colon then
      require (!first.isStarred && !first.isNamed) first.expr
      advance
      let value ← r.expression
      r.dictBehind start [first.expr, value]
    else
      let items ← itemsBehind .closeBrace (do return [(← r.named .item).expr])
      return ⟨.operation start .set (first.expr :: items), .plain⟩

/-! ## Literals -/

mutual

/-- A field of a literal, from behind its opening brace: the expression in it
and those in the fields of its format specification. -/
def field : Nat → Reader α (List (Expr α))
  | 0 => fail
  | fuel + 1 => do
      let value ← r.expressions .side
      require (!value.isLambda) value.expr
      let _ ← eat .equal
      let mark ← peek
      if mark.isSign .exclamation || mark.isSign .looseExclamation then
        advance
        match (← peek).kind with
        | .name id =>
            if mark.isSign .looseExclamation then failAt mark.place
            if id == "s" || id == "r" || id == "a" then advance else fail
        | _ => fail
      let inSpec ← if ← eat .colon then specification fuel else pure []
      expect .closeBrace
      return value.expr :: inSpec

/-- The fields of a format specification. -/
def specification : Nat → Reader α (List (Expr α))
  | 0 => fail
  | fuel + 1 => do
      match (← peek).kind with
      | .templateText defect =>
          refuse defect
          advance
          specification fuel
      | .sign .openBrace =>
          advance
          let first ← field fuel
          return first ++ (← specification fuel)
      | _ => return []

end

/-- The fields of a literal, from behind its opening quote. -/
def fieldsWithin : Nat → Reader α (List (Expr α))
  | 0 => fail
  | fuel + 1 => do
      match (← peek).kind with
      | .templateText defect =>
          refuse defect
          advance
          fieldsWithin fuel
      | .sign .openBrace =>
          advance
          let first ← r.field fuel
          return first ++ (← fieldsWithin fuel)
      | .templateEnd => advance; return []
      | _ => fail

/-- The three kinds of literals, which are not joined with each other. -/
inductive LiteralKind where
  | text | bytes | deferred
  deriving DecidableEq

/-- A literal that stands alone, and the expressions in its fields, if it can
have some. -/
def piece : Reader α (LiteralKind × Option (List (Expr α))) := fun tokens =>
  let read : Reader α (LiteralKind × Option (List (Expr α))) := do
    match (← peek).kind with
    | .text bytes defect _ =>
        refuse defect
        advance
        return (if bytes then .bytes else .text, none)
    | .templateStart deferred =>
        advance
        let fields ← r.fieldsWithin (tokens.length + 1)
        return (if deferred then .deferred else .text, some fields)
    | _ => fail
  read tokens

/-- Whether a literal starts with a token. -/
def startsLiteral (t : Token α) : Bool :=
  match t.kind with
  | .text _ _ _ | .templateStart _ => true
  | _ => false

/-- Literals side by side are one literal, if they are of one kind. -/
def literals : Reader α (Expr α) := do
  let start ← here
  let pieces ← many startsLiteral r.piece
  let kinds := pieces.map Prod.fst
  unless kinds.all (· = kinds.headD .text) do failAt (some start)
  let fields := pieces.filterMap Prod.snd
  if fields.isEmpty then return .atom start .text
  else return .operation start .template fields.flatten

/-! ## Atoms and what follows them -/

/-- An expression that no operator splits. -/
def atom : Reader α (Parsed α) := do
  let t ← peek
  if startsLiteral t then return ⟨← r.literals, .plain⟩
  match t.name? with
  | some id =>
      let start ← here
      advance
      return ⟨.name start id .load, .plain⟩
  | none =>
      match t.kind with
      | .number imaginary =>
          let start ← here
          advance
          return ⟨.atom start (if imaginary then .imaginaryNumber else .realNumber), .plain⟩
      | .keyword .true_ | .keyword .false_ | .keyword .none_ | .sign .ellipsis =>
          let start ← here
          advance
          return ⟨.atom start .constant, .plain⟩
      | .sign .openParen => r.parenthesized
      | .sign .openBracket => r.list
      | .sign .openBrace => r.braced
      | _ => fail

/-- What has been seen of the arguments of a call. -/
structure Arguments (α : Type) where
  positional : List (Parsed α)
  keywords : List (Expr α)
  /-- The names given to keywords, last first, and where they stand. -/
  names : List (String × α)
  hasUnpacking : Bool

/-- The place of the first keyword whose name was given before. -/
def Arguments.repeated? (args : Arguments α) : Option α :=
  let rec go : List (String × α) → Option α
    | [] => none
    | (id, place) :: earlier =>
        (go earlier).or (if earlier.any (·.1 == id) then some place else none)
  go args.names

/-- An argument of a call. -/
def argument (args : Arguments α) : Reader α (Arguments α) := do
  if ← eat .doubleStar then
    let value ← r.expression
    return { args with keywords := args.keywords ++ [value], hasUnpacking := true }
  else
    let start ← here
    let first ← r.named .argument
    let p : Parsed α ←
      if ← atFor then
        let clauses ← r.forClauses
        pure ⟨.comprehension start [first.expr] clauses, .bareGenerator⟩
      else
        if args.hasUnpacking then require (!first.isStarred) first.expr
        pure first
    if ← eat .equal then
      let id ← match p.expr with
        | .name _ id _ => pure id
        | _ => failAt (some start)
      let value ← r.expression
      return { args with
        keywords := args.keywords ++ [value]
        names := (id, start) :: args.names }
    else
      require (p.isStarred || (!args.hasUnpacking && args.names.isEmpty)) p.expr
      return { args with positional := args.positional ++ [p] }

/-- The arguments of a call or a class, in parentheses: positional ones and
keywords. A generator without parentheses is an only argument. -/
def arguments : Reader α (List (Expr α) × List (Expr α)) := do
  expect .openParen
  let starts (t : Token α) : Bool := t.startsExpr
  let (args, trailing) ←
    foldElements ⟨starts, (·.isSign .closeParen)⟩ r.argument ⟨[], [], [], false⟩
  closeList .closeParen
  refuse args.repeated?
  let single := trailing.isNone && args.positional.length + args.keywords.length ≤ 1
  unless single do
    for p in args.positional do
      require (p.form != .bareGenerator) p.expr
  return (args.positional.map Parsed.expr, args.keywords)

/-- A slice or an index. -/
def slice : Reader α (Expr α) := do
  let start ← here
  let lower : Option (Parsed α) ←
    if (← peek).startsExpr then pure (some (← r.named .argument)) else pure none
  let range : Bool ← match lower with
    | some p => do
        let range ← at_ .colon
        if range then require (!p.isNamed && !p.isStarred) p.expr
        pure range
    | none => pure true
  match lower, range with
  | some p, false => return p.expr
  | _, _ =>
      expect .colon
      let bound : Reader α (List (Expr α)) := do
        let t ← peek
        if t.isSign .comma || t.isSign .colon || t.isSign .closeBracket then return []
        else return [← r.expression]
      let upper ← bound
      let step ← if ← eat .colon then bound else pure []
      return .operation start .slice
        ((lower.map Parsed.expr).toList ++ upper ++ step)

/-- What stands in the brackets of a subscript. -/
def index : Reader α (Expr α) := do
  expect .openBracket
  let start ← here
  if ← at_ .closeBracket then fail
  let first ← r.slice
  if ← eat .comma then
    let starts (t : Token α) : Bool := t.startsExpr || t.isSign .colon
    let (items, _) ← elements ⟨starts, (·.isSign .closeBracket)⟩ r.slice
    closeList .closeBracket
    return .sequence start .tuple (first :: items) .load
  else
    expect .closeBracket
    match first with
    | .starred .. => return .sequence start .tuple [first] .load
    | _ => return first

/-- The calls, subscripts and members that follow an expression. -/
def trailersWithin (start : α) : Nat → Expr α → Reader α (Expr α)
  | 0, _ => fail
  | fuel + 1, e => do
      match (← peek).kind with
      | .sign .openParen =>
          let (positional, keywords) ← r.arguments
          trailersWithin start fuel (.call start e positional keywords)
      | .sign .openBracket =>
          let index ← r.index
          trailersWithin start fuel (.subscript start e index .load)
      | .sign .dot =>
          advance
          let field ← identifier
          trailersWithin start fuel (.member start e field .load)
      | _ => return e

/-- An atom with its trailers. -/
def primary : Reader α (Parsed α) := do
  let start ← here
  let p ← r.atom
  let e ← fun tokens => r.trailersWithin start (tokens.length + 1) p.expr tokens
  return ⟨e, p.form⟩

/-! ## Operators -/

/-- A unary operator and its operand. -/
def unary (class_ : Operation) (own level : Strength) (a : Allowance) :
    Reader α (Parsed α) := do
  let start ← here
  advance
  let p ← r.binary own a
  let e := .operation start class_ [p.expr]
  require (level ≤ own || (class_ != .not && level == .power)) e
  return ⟨e, .plain⟩

/-- A yield. -/
def yield : Reader α (Expr α) := do
  let start ← here
  advance
  if ← eatWord .from_ then
    let value ← r.expressions .plain
    require (value.form != .bareTuple) value.expr
    return .operation start .yield [value.expr]
  else if (← peek).startsExpr then
    return .operation start .yield [(← r.expressions .item).expr]
  else return .operation start .yield []

/-- What a chain of binary operators starts with. -/
def operandOf (level : Strength) (a : Allowance) : Reader α (Parsed α) := do
  match (← peek).kind with
  | .keyword .not_ => r.unary .not .not level a
  | .sign .minus => r.unary .negation .unary level a
  | .sign .plus | .sign .tilde => r.unary .arithmetic .unary level a
  | .sign .star =>
      let start ← here
      advance
      let p ← if a.wide then r.conditional a else r.operand
      let e := .starred start p.expr .load
      require (level == .loosest && a.starred) e
      return ⟨e, .plain⟩
  | .keyword .await_ =>
      let start ← here
      advance
      let p ← r.binary .await .plain
      let e := .operation start .await [p.expr]
      require (level < .await) e
      return ⟨e, .plain⟩
  | .keyword .lambda_ =>
      let p ← r.lambda
      failAt (some p.expr.start)
  | .keyword .yield_ =>
      let e ← r.yield
      require (level == .loosest && a.yield) e
      return ⟨e, .plain⟩
  | _ => r.primary

/-- The binary operator that two tokens start with: its class, its strength and
the number of its tokens. -/
def operator? (t next : Token α) (endsAtIn : Bool) :
    Option (Operation × Strength × Nat) :=
  match t.kind with
  | .keyword .or_ => some (.boolean, .or, 1)
  | .keyword .and_ => some (.boolean, .and, 1)
  | .keyword .in_ => if endsAtIn then none else some (.comparison, .comparison, 1)
  | .keyword .not_ =>
      if next.isKeyword .in_ then some (.comparison, .comparison, 2) else none
  | .keyword .is_ =>
      some (.comparison, .comparison, if next.isKeyword .not_ then 2 else 1)
  | .sign s =>
      match s with
      | .compare => some (.comparison, .comparison, 1)
      | .bar => some (.arithmetic, .bar, 1)
      | .caret => some (.arithmetic, .caret, 1)
      | .ampersand => some (.arithmetic, .ampersand, 1)
      | .shift => some (.arithmetic, .shift, 1)
      | .plus | .minus => some (.arithmetic, .sum, 1)
      | .star | .slash | .divide | .atSign => some (.arithmetic, .product, 1)
      | .doubleStar => some (.arithmetic, .power, 1)
      | _ => none
  | _ => none

/-- Binary operators that bind tighter than `level`, behind a left operand.
Powers associate to the right, all others to the left. -/
def operatorsWithin (start : α) (level : Strength) (a : Allowance) :
    Nat → Parsed α → Reader α (Parsed α)
  | 0, _ => fail
  | fuel + 1, left => do
      match operator? (← peek) (← peekSecond) a.endsAtIn with
      | none => return left
      | some (class_, own, length) =>
          if own < level || (own == level && own != .power) then return left
          else
            advance
            if length == 2 then advance
            let right ← r.binary own a
            operatorsWithin start level a fuel
              ⟨.operation start class_ [left.expr, right.expr], left.form⟩

/-- An expression of binary operators that bind tighter than `level`. -/
def operators (level : Strength) (a : Allowance) : Reader α (Parsed α) := do
  let start ← here
  let left ← r.operandOf level a
  fun tokens => r.operatorsWithin start level a (tokens.length + 1) left tokens

/-- A lambda, a conditional expression, or operators. -/
def ternary (a : Allowance) : Reader α (Parsed α) := do
  if ← atWord .lambda_ then r.lambda
  else
    let start ← here
    let p ← r.operators .loosest a
    if ← eatWord .if_ then
      let test ← r.binary .loosest .plain
      expectWord .else_
      let orelse ← r.expression
      return ⟨.conditional start p.expr test.expr orelse, .plain⟩
    else return p

end Inner

/-- The readers for expressions of at most `fuel` nested levels. -/
def inner : Nat → Inner α
  | 0 => ⟨fun _ => fail, fun _ _ => fail⟩
  | fuel + 1 =>
      let r : Inner α := inner fuel
      ⟨r.ternary, r.operators⟩

end Stepwise.Grammar
