import Stepwise.Grammar.Lexer
import Stepwise.Grammar.ReadPattern

/-!
# Reading programs

The grammar of statements, and `parse`, which takes a text to its tree or to
the place of its first error. Suites are the only recursion. A reader for a
statement is given a reader for the statements of a nested suite, and the knot
is tied by recursion on a measure that the number of tokens bounds.

A statement after the first on a line is read by the loop over statements, so
that what may follow a statement is decided in one place.
-/

namespace Stepwise.Grammar

open Reader

variable {α : Type}

namespace Stmt

/-! ## Statements on one line -/

/-- An assignment behind its first target: further targets and the value. -/
def assignmentBehind (r : Inner α) (first : Expr α) : Reader α (Stmt α) := do
  let sides ← many (·.isSign .equal) do
    advance
    return (← r.expressions .side).expr
  match sides.reverse with
  | [] => fail
  | value :: rest =>
      let targets := first :: rest.reverse
      refuse (Expr.targetDefectAny? targets)
      return .assign (Expr.inContextAll .store targets) value

/-- An annotated assignment behind its target. -/
def annotationBehind (r : Inner α) (target : Expr α) : Reader α (Stmt α) := do
  advance
  require target.isSingleTarget target
  let annotation ← r.expression
  let value ←
    if ← eat .equal then
      if (← peek).startsExpr then pure (some (← r.expressions .side).expr) else fail
    else pure none
  return .annotated (target.inContext .store) annotation value

/-- An augmented assignment behind its target. -/
def updateBehind (r : Inner α) (target : Expr α) : Reader α (Stmt α) := do
  advance
  require target.isSingleTarget target
  return .update (target.inContext .store) (← r.expressions .side).expr

/-- A statement that starts with an expression. -/
def ofExpression (r : Inner α) : Reader α (Stmt α) := do
  let p ← r.expressions .side
  match (← peek).kind with
  | .sign .equal => assignmentBehind r p.expr
  | .sign .colon => annotationBehind r p.expr
  | .sign .update => updateBehind r p.expr
  | _ => return .simple [p.expr]

/-- A type parameter: the expressions in it are its bound and its default. -/
def typeParameter (r : Inner α) : Reader α (List (Expr α)) := do
  let starred ← eat .star
  let doubled ← if starred then pure false else eat .doubleStar
  let _ ← identifier
  let bound ←
    if !starred && !doubled && (← eat .colon) then pure [← r.expressionHere]
    else pure []
  let default_ ←
    if ← eat .equal then
      if (← peek).startsExpr then
        pure [(← r.conditional (if starred then .item else .plain)).expr]
      else fail
    else pure []
  return bound ++ default_

/-- Type parameters in brackets, if there are some. -/
def typeParameters (r : Inner α) : Reader α (List (Expr α)) := do
  unless ← eat .openBracket do return []
  if ← at_ .closeBracket then fail
  let starts (t : Token α) : Bool :=
    t.name?.isSome || t.isSign .star || t.isSign .doubleStar
  let (items, _) ← elements ⟨starts, (·.isSign .closeBracket)⟩ (typeParameter r)
  closeList .closeBracket
  return items.flatten

/-- A type alias. -/
def typeAlias (r : Inner α) : Reader α (Stmt α) := do
  advance
  let start ← here
  let id ← identifier
  let parameters ← typeParameters r
  expect .equal
  let value ← r.expression
  return .alias (.name start id .store) parameters value

/-- A target of a deletion. -/
def deletionTarget (r : Inner α) : Reader α (Expr α) := do
  let target ← r.conditional .argument
  refuse target.expr.deletionDefect?
  return target.expr.inContext .delete

/-- A deletion. -/
def deletion (r : Inner α) : Reader α (Stmt α) := do
  advance
  let (targets, _) ← elements ⟨Token.startsExpr, fun _ => true⟩ (deletionTarget r)
  if targets.isEmpty then fail
  return .simple targets

/-- An expression that is no tuple without parentheses. -/
def noBareTuple (r : Inner α) : Reader α (Expr α) := do
  let p ← r.expressions .plain
  require (p.form != .bareTuple) p.expr
  return p.expr

/-- A `raise`. -/
def raising (r : Inner α) : Reader α (Stmt α) := do
  advance
  let t ← peek
  if t.isNewline || t.isSign .semicolon || t.isEnd then return .simple []
  let exc ← noBareTuple r
  let cause ← if ← eatWord .from_ then pure [← noBareTuple r] else pure []
  return .simple (exc :: cause)

/-- An assertion. -/
def assertion (r : Inner α) : Reader α (Stmt α) := do
  advance
  let test ← r.expression
  let message ← if ← eat .comma then pure [← r.expressionHere] else pure []
  return .simple (test :: message)

/-- Names after `global` or `nonlocal`. -/
def declaration : Reader α (Stmt α) := do
  advance
  let starts (t : Token α) : Bool := t.name?.isSome
  let names ← elementsStrict ⟨starts, fun _ => true⟩ identifier
  if names.isEmpty then fail
  return .simple []

/-- The name that a module or a member is imported under. -/
def importedAs : Reader α Unit := do
  if ← eatWord .as_ then
    let _ ← identifier

/-- A dotted name. -/
def dottedName : Reader α Unit := do
  let _ ← identifier
  let _ ← many (·.isSign .dot) do
    advance
    identifier

/-- An import of modules. -/
def moduleImport : Reader α (Stmt α) := do
  advance
  let starts (t : Token α) : Bool := t.name?.isSome
  let names ← elementsStrict ⟨starts, fun _ => true⟩ do
    dottedName
    importedAs
  if names.isEmpty then fail
  return .simple []

/-- A member that is imported; the result says whether it stands for all. -/
def importedMember : Reader α Bool := do
  if ← eat .star then
    importedAs
    return true
  else
    let _ ← identifier
    importedAs
    return false

/-- An import of members. -/
def memberImport : Reader α (Stmt α) := do
  advance
  let dots ← many (fun t => t.isSign .dot || t.isSign .ellipsis) advance
  if (← peek).name?.isSome then dottedName
  else if dots.isEmpty then fail
  expectWord .import_
  let start := (← peek).place
  let enclosed ← eat .openParen
  let starts (t : Token α) : Bool := t.name?.isSome || t.isSign .star
  let members ←
    if enclosed then do
      let (members, _) ← elements ⟨starts, (·.isSign .closeParen)⟩ importedMember
      pure members
    else elementsStrict ⟨starts, fun _ => true⟩ importedMember
  if members.isEmpty then
    if enclosed then do
      let t ← peek
      if t.startsStatement then closeList .closeParen
      fail
    else fail
  if members.any id && 1 < members.length then failAt start
  if enclosed then closeList .closeParen
  return .simple []

/-- Whether a token starts an import. -/
def startsImport (t : Token α) : Bool := t.isKeyword .import_ || t.isKeyword .from_

/-- An import, which may be put off until its names are used. -/
def importing : Reader α (Stmt α) := do
  let _ ← eatWord .lazy_
  if ← atWord .import_ then moduleImport else memberImport

/-- A statement that fits on a line. -/
def oneLine (r : Inner α) : Reader α (Stmt α) := do
  let t ← peek
  match t.kind with
  | .keyword .pass_ | .keyword .break_ | .keyword .continue_ =>
      advance
      return .simple []
  | .keyword .return_ =>
      advance
      if (← peek).startsExpr then return .simple [(← r.expressions .item).expr]
      else return .simple []
  | .keyword .del_ => deletion r
  | .keyword .raise_ => raising r
  | .keyword .assert_ => assertion r
  | .keyword .global_ | .keyword .nonlocal_ => declaration
  | .keyword .import_ | .keyword .from_ => importing
  | .keyword .lazy_ => if startsImport (← peekSecond) then importing else ofExpression r
  | .keyword .type_ =>
      let second ← peekSecond
      let third ← fun tokens => .ok ((tokens.drop 2).headD Token.ending, tokens)
      if second.name?.isSome && (third.isSign .openBracket || third.isSign .equal) then
        typeAlias r
      else ofExpression r
  | _ => ofExpression r

/-- Statements of one line that follow each other behind a header. -/
def lineWithin (r : Inner α) : Nat → Reader α (List (Stmt α))
  | 0 => fail
  | fuel + 1 => do
      let s ← oneLine r
      if ← eat .semicolon then
        if (← peek).startsSimple then return s :: (← lineWithin r fuel)
      expectNewline
      return [s]

/-- A statement of one line that stands on its own; others may follow it on
the line, behind a semicolon. -/
def single (r : Inner α) : Reader α (List (Stmt α)) := do
  let s ← oneLine r
  let separated ← eat .semicolon
  let t ← peek
  if t.isNewline then advance
  else if (!separated && t.startsSimple) || t.startsCompound then fail
  return [s]

/-! ## Statements with suites -/

section

-- `r` reads expressions, `block` the statements of a block.
variable (r : Inner α) (block : Reader α (List (Stmt α)))

/-- The suite of a header: an indented block, or statements on the same line.
If nothing is left where the block should be, the header's line end is to
blame. -/
def suite : Reader α (List (Stmt α)) := do
  let t ← peek
  if t.isNewline then
    advance
    let t' ← peek
    if t'.isIndent then
      advance
      let body ← block
      if (← peek).isDedent then advance else fail
      return body
    else failAt (if t'.isEmpty then t.place else t'.place)
  else if t.startsSimple then
    fun tokens => lineWithin r (tokens.length + 1) tokens
  else fail

/-- A colon and a suite. -/
def colonSuite : Reader α (List (Stmt α)) := do
  expect .colon
  suite r block

/-- A clause that has a header of one expression. -/
def testClause : Reader α (Clause α) := do
  advance
  let test ← r.named .plain
  return .mk [test.expr] (← colonSuite r block)

/-- The clause of a keyword, if it comes next. -/
def optionalClause (k : Keyword) : Reader α (List (Clause α)) := do
  if ← eatWord k then return [.mk [] (← colonSuite r block)] else return []

/-- An `if` with its alternatives. -/
def branching : Reader α (Stmt α) := do
  let first ← testClause r block
  let others ← many (·.isKeyword .elif_) (testClause r block)
  let last ← optionalClause r block .else_
  return .compound (first :: others ++ last)

/-- A `while`. -/
def whileLoop : Reader α (Stmt α) := do
  let first ← testClause r block
  let last ← optionalClause r block .else_
  return .compound (first :: last)

/-- A `for`. -/
def forStmt : Reader α (Stmt α) := do
  advance
  let target ← r.expressions .loopTarget
  refuse target.expr.targetDefect?
  expectWord .in_
  let iterable ← r.expressions .item
  let body ← colonSuite r block
  let orelse ← if ← eatWord .else_ then colonSuite r block else pure []
  return .forLoop (target.expr.inContext .store) iterable.expr body orelse

/-- A function definition behind its decorators. -/
def functionBehind (decorators : List (Expr α)) : Reader α (Stmt α) := do
  advance
  let _ ← identifier
  let types ← typeParameters r
  expect .openParen
  let ps ← r.parameters true .closeParen
  closeList .closeParen
  let returns ←
    if ← eat .arrow then
      if (← peek).startsExpr then pure [← noBareTuple r] else fail
    else pure []
  let body ← colonSuite r block
  return .function decorators types ps.defaults (ps.annotations ++ returns) body

/-- A class definition behind its decorators. -/
def classBehind (decorators : List (Expr α)) : Reader α (Stmt α) := do
  advance
  let _ ← identifier
  let types ← typeParameters r
  let (positional, keywords) ←
    if ← at_ .openParen then r.arguments else pure ([], [])
  let body ← colonSuite r block
  return .class_ decorators types positional keywords body

/-- The target behind an `as`, if there is one. -/
def boundTarget : Reader α (List (Expr α)) := do
  if ← eatWord .as_ then
    let target ← r.conditional .argument
    refuse target.expr.targetDefect?
    return [target.expr.inContext .store]
  else return []

/-- An item of a `with`, and its target. -/
def withItem : Reader α (List (Expr α)) := do
  let context ← r.expression
  return context :: (← boundTarget r)

/-- Items of a `with` in parentheses. -/
def enclosedItems : Reader α (List (Expr α)) := do
  advance
  let item : Reader α (List (Expr α)) := do
    let context ← r.named .plain
    require (!context.isNamed) context.expr
    return context.expr :: (← boundTarget r)
  let (items, _) ← elements (exprsUntil .closeParen) item
  closeList .closeParen
  return items.flatten

/-- Whether the parentheses that open at `opening` enclose items of a `with`
and not an expression: an item in them has a target. -/
def enclosesItems (opening : Token α) (behind : List (Token α)) : Bool :=
  (behind.takeWhile fun t => opening.depth ≤ t.depth).any fun t =>
    t.depth == opening.depth && t.isKeyword .as_

/-- The items of a `with`. -/
def withItems : Reader α (List (Expr α)) := do
  let t ← peek
  unless t.startsExpr do fail
  let enclosed ← fun tokens => .ok (enclosesItems t (tokens.drop 1), tokens)
  if t.isSign .openParen && enclosed then enclosedItems r
  else return (← elementsStrict ⟨Token.startsExpr, fun _ => true⟩ (withItem r)).flatten

/-- A `with`. -/
def withStmt : Reader α (Stmt α) := do
  advance
  let header ← withItems r
  return .compound [.mk header (← colonSuite r block)]

/-- A handler: its clause, and whether it takes groups. -/
def handler : Reader α ((α × Bool) × Clause α) := do
  let start ← here
  advance
  let group ← eat .star
  let type_ ←
    if (← peek).startsExpr then do
      let p ← r.expressions .plain
      if p.form = .bareTuple && (← atWord .as_) then failAt (some p.expr.start)
      pure [p.expr]
    else if group || (← atWord .as_) then fail
    else pure []
  if ← eatWord .as_ then
    let _ ← identifier
  return ((start, group), .mk type_ (← colonSuite r block))

/-- A `try`. Its handlers are all of one kind, and it has a handler or a
`finally`. -/
def tryStmt : Reader α (Stmt α) := do
  advance
  let body ← colonSuite r block
  let handlers ← many (·.isKeyword .except_) (handler r block)
  let group := (handlers.head?.map (·.1.2)).getD false
  refuse ((handlers.find? (·.1.2 != group)).map (·.1.1))
  let orelse ← optionalClause r block .else_
  let final ← optionalClause r block .finally_
  if handlers.isEmpty && final.isEmpty then fail
  return .compound (.mk [] body :: handlers.map Prod.snd ++ orelse ++ final)

/-- A `case` with its guard. -/
def caseClause : Reader α (Clause α) := fun tokens =>
  let read : Reader α (Clause α) := do
    advance
    let pattern ← Pattern.ofCase r (tokens.length + 1)
    let guard ←
      if ← eatWord .if_ then
        if (← peek).startsExpr then pure [(← r.named .plain).expr] else fail
      else pure []
    return .mk (pattern.exprs ++ guard) (← colonSuite r block)
  read tokens

/-- The subject of a `match`. -/
def matchSubject : Reader α (Expr α) := do
  advance
  let start ← here
  let p ← r.named .item
  if ← eat .comma then
    let (items, _) ← elements ⟨Token.startsExpr, fun _ => true⟩
      (do return (← r.named .item).expr)
    return .sequence start .tuple (p.expr :: items) .load
  else
    require (!p.isStarred) p.expr
    return p.expr

/-- The cases behind the subject of a `match`. -/
def matchBehind (subject : Expr α) : Reader α (Stmt α) := do
  expect .colon
  expectNewline
  if (← peek).isIndent then advance else fail
  unless ← atWord .case_ do fail
  let cases ← many (·.isKeyword .case_) (caseClause r block)
  if (← peek).isDedent then advance else fail
  return .compound (.mk [subject] [] :: cases)

/-- Whether the token behind the word `match` makes it a keyword for certain,
or for certain not. -/
def isMatchStmt? (next second : Token α) : Option Bool :=
  match next.kind with
  | .name _ | .number _ | .text _ _ _ | .templateStart _ => some true
  | .keyword k =>
      match k with
      | .not_ => some (!second.isKeyword .in_)
      | .await_ | .yield_ | .lambda_ | .true_ | .false_ | .none_ => some true
      | k => some k.isSoft
  | .sign s =>
      match s with
      | .openBrace | .tilde | .ellipsis => some true
      | .openParen | .openBracket | .star | .plus | .minus => none
      | _ => some false
  | _ => some false

/-- A `match`, or a statement that starts with a name spelled like it. -/
def matchStmt : Reader α (List (Stmt α)) := fun tokens =>
  let certain : Reader α (List (Stmt α)) := do
    let subject ← matchSubject r
    return [← matchBehind r block subject]
  match isMatchStmt? ((tokens.drop 1).headD Token.ending)
      ((tokens.drop 2).headD Token.ending) with
  | some true => certain tokens
  | some false => single r tokens
  | none =>
      match matchSubject r tokens with
      | .ok (subject, rest) =>
          let colon := (rest.headD Token.ending).isSign .colon
          let caseBlock : Bool := match rest with
            | a :: b :: c :: _ => a.isNewline && b.isIndent && c.isKeyword .case_
            | _ => false
          if colon || caseBlock then
            (do return [← matchBehind r block subject] : Reader α _) rest
          else single r tokens
      | .error _ => single r tokens

/-- A decorator and the end of its line. -/
def decorator : Reader α (Expr α) := do
  advance
  let e ← r.named .plain
  expectNewline
  return e.expr

/-- A definition with its decorators. -/
def decorated : Reader α (Stmt α) := do
  let decorators ← many (·.isSign .atSign) (decorator r)
  if (← atWord .async_) && (← peekSecond).isKeyword .def_ then advance
  if ← atWord .def_ then functionBehind r block decorators
  else if ← atWord .class_ then classBehind r block decorators
  else fail

/-- A statement that may be suspended. -/
def asynchronous : Reader α (Stmt α) := do
  advance
  let t ← peek
  match t.kind with
  | .keyword .def_ => functionBehind r block []
  | .keyword .with_ => withStmt r block
  | .keyword .for_ => forStmt r block
  | _ => fail

/-- A statement, or the first of several on a line. -/
def next : Reader α (List (Stmt α)) := do
  let t ← peek
  match t.kind with
  | .keyword .if_ => return [← branching r block]
  | .keyword .while_ => return [← whileLoop r block]
  | .keyword .for_ => return [← forStmt r block]
  | .keyword .def_ => return [← functionBehind r block []]
  | .keyword .class_ => return [← classBehind r block []]
  | .keyword .with_ => return [← withStmt r block]
  | .keyword .try_ => return [← tryStmt r block]
  | .keyword .async_ => return [← asynchronous r block]
  | .keyword .match_ => matchStmt r block
  | .sign .atSign => return [← decorated r block]
  | _ => single r

end

/-- The statements of a block with suites of at most so many nested levels. -/
def blockWithin (r : Inner α) : Nat → Reader α (List (Stmt α))
  | 0 => fail
  | fuel + 1 => do
      let stmts ← many Token.startsStatement (next r (blockWithin r fuel))
      return stmts.flatten

end Stmt

/-- The program that a list of tokens is. -/
def Module.read : Reader α (Module α) := fun tokens =>
  let r := inner (tokens.length + 1)
  let program : Reader α (Module α) := do
    let body ← Stmt.blockWithin r (tokens.length + 1)
    if (← peek).isEnd then return body else fail
  program tokens

/-- A place in a text, or its end. -/
def placeOrEnd {size : Nat} : Option (Fin size) → Fin (size + 1)
  | some place => place.castSucc
  | none => Fin.last size

/-- The tree of a program, over the bytes of its text, or the number of bytes
in front of its first error. A literal without a closing quote is an error for
itself, and hides what is wrong behind it. -/
def parse (text : List Char) :
    Except (Fin (Text.byteLength text + 1)) (Module (Fin (Text.byteLength text))) :=
  let tokens := tokens (Text.locate text)
  match Module.read tokens, unclosed? tokens with
  | .ok (program, _), none => .ok program
  | .ok _, some place => .error place.castSucc
  | .error failure, unclosed =>
      let failed := placeOrEnd failure
      let broken := placeOrEnd unclosed
      .error (if broken < failed then broken else failed)

end Stepwise.Grammar
