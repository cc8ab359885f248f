import Stepwise.Grammar.Token
import Stepwise.Grammar.Tree

/-!
# Reading tokens

A reader consumes tokens from the front of a list and gives a result, or it
fails at a place. Only the first failure of a program is ever reported, so a
reader has nothing to recover from. A failure without a place lies at the end
of the text.

Inside brackets a failure needs care. If a list breaks off at a word that
starts a statement, the closing bracket was forgotten, and the list ends with
the line before: `closeList` puts the failure there.
-/

namespace Stepwise.Grammar

variable {α β : Type}

/-- Consumes tokens; a failure carries its place. -/
abbrev Reader (α : Type) := StateT (List (Token α)) (Except (Option α))

namespace Token

/-- The token behind the last one. -/
def ending : Token α := ⟨.endOfText, none, 0, none⟩

/-- Whether a token is a certain sign. -/
def isSign (t : Token α) (s : Sign) : Bool :=
  match t.kind with
  | .sign s' => s == s'
  | _ => false

/-- Whether a token is a certain keyword. -/
def isKeyword (t : Token α) (k : Keyword) : Bool :=
  match t.kind with
  | .keyword k' => k == k'
  | _ => false

/-- Whether a token ends a logical line. -/
def isNewline (t : Token α) : Bool :=
  match t.kind with
  | .newline => true
  | _ => false

/-- Whether a token opens a block. -/
def isIndent (t : Token α) : Bool :=
  match t.kind with
  | .indent => true
  | _ => false

/-- Whether a token closes a block. -/
def isDedent (t : Token α) : Bool :=
  match t.kind with
  | .dedent => true
  | _ => false

/-- Whether a token ends the program. -/
def isEnd (t : Token α) : Bool :=
  match t.kind with
  | .endOfText => true
  | _ => false

/-- Whether a token stands for no characters at all. -/
def isEmpty (t : Token α) : Bool :=
  match t.kind with
  | .dedent | .endOfText => true
  | .newline => t.place.isNone
  | _ => false

/-- The name that a token is, or can be used as. -/
def name? (t : Token α) : Option String :=
  match t.kind with
  | .name id => some id
  | .keyword k => if k.isSoft then some k.spelling else none
  | _ => none

/-- Whether an expression can start with a token. -/
def startsExpr (t : Token α) : Bool :=
  match t.kind with
  | .name _ | .number _ | .text _ _ _ | .templateStart _ => true
  | .keyword k =>
      match k with
      | .false_ | .none_ | .true_ | .lambda_ | .await_ | .not_ | .yield_ => true
      | k => k.isSoft
  | .sign s =>
      match s with
      | .minus | .plus | .tilde | .star | .doubleStar | .openParen
      | .openBracket | .openBrace | .ellipsis => true
      | _ => false
  | _ => false

/-- Whether a statement that fits on a line can start with a token. -/
def startsSimple (t : Token α) : Bool :=
  t.startsExpr ||
  match t.kind with
  | .keyword k =>
      match k with
      | .pass_ | .return_ | .break_ | .continue_ | .global_ | .nonlocal_
      | .assert_ | .del_ | .raise_ | .import_ | .from_ => true
      | _ => false
  | _ => false

/-- Whether a statement with suites can start with a token. -/
def startsCompound (t : Token α) : Bool :=
  match t.kind with
  | .keyword k =>
      match k with
      | .match_ | .if_ | .with_ | .while_ | .for_ | .try_ | .def_ | .class_
      | .async_ => true
      | _ => false
  | .sign .atSign => true
  | _ => false

/-- Whether a statement can start with a token. -/
def startsStatement (t : Token α) : Bool := t.startsSimple || t.startsCompound

end Token

namespace Reader

/-- The next token. -/
def peek : Reader α (Token α) := fun tokens => .ok (tokens.headD .ending, tokens)

/-- The token behind the next one. -/
def peekSecond : Reader α (Token α) := fun tokens =>
  .ok ((tokens.drop 1).headD .ending, tokens)

/-- Consumes the next token. -/
def advance : Reader α Unit := fun tokens => .ok ((), tokens.drop 1)

/-- Fails at a place, or at the end of the text. -/
def failAt (place : Option α) : Reader α β := fun _ => .error place

/-- Fails at the next token. -/
def fail : Reader α β := do failAt (← peek).place

/-- The place of the next token, of which there must be one. -/
def here : Reader α α := do
  match (← peek).place with
  | some place => pure place
  | none => failAt none

/-- Whether the next token is a certain sign. -/
def at_ (s : Sign) : Reader α Bool := do return (← peek).isSign s

/-- Whether the next token is a certain keyword. -/
def atWord (k : Keyword) : Reader α Bool := do return (← peek).isKeyword k

/-- Consumes a sign if it comes next. -/
def eat (s : Sign) : Reader α Bool := do
  let found ← at_ s
  if found then advance
  return found

/-- Consumes a keyword if it comes next. -/
def eatWord (k : Keyword) : Reader α Bool := do
  let found ← atWord k
  if found then advance
  return found

/-- Consumes a sign that must come next. -/
def expect (s : Sign) : Reader α Unit := do
  unless ← eat s do fail

/-- Consumes a keyword that must come next. -/
def expectWord (k : Keyword) : Reader α Unit := do
  unless ← eatWord k do fail

/-- Consumes the end of a logical line, which must come next. -/
def expectNewline : Reader α Unit := do
  if (← peek).isNewline then advance else fail

/-- Fails at a place if there is one. -/
def refuse (defect : Option α) : Reader α Unit :=
  match defect with
  | some place => failAt (some place)
  | none => pure ()

/-- Consumes the closing bracket of a list. If a statement starts instead, the
list ends with the line in front of it, unless further brackets are open. -/
def closeList (s : Sign) : Reader α Unit := do
  unless ← eat s do
    let t ← peek
    if t.startsStatement && t.depth == 1 then failAt (t.lineBreak.or t.place)
    else fail

/-- What a list of elements may look like. -/
structure ListForm (α : Type) where
  isElement : Token α → Bool
  isEnd : Token α → Bool

/-- Reads the elements of a list, separated by commas, from a state to a state,
and gives the place of a comma behind the last of them. `comma` is the place
of the comma in front. A list also ends where a statement starts. -/
def foldWithin {σ : Type} (form : ListForm α) (element : σ → Reader α σ) :
    Nat → Option α → σ → Reader α (σ × Option α)
  | 0, _, _ => fail
  | fuel + 1, comma, s => do
      if form.isElement (← peek) then
        let s' ← element s
        let t ← peek
        if t.isSign .comma then
          advance
          foldWithin form element fuel t.place s'
        else if form.isEnd t || (t.startsStatement && !form.isElement t) then
          return (s', none)
        else fail
      else
        let t ← peek
        if form.isEnd t || t.startsStatement then return (s, comma) else fail

/-- Reads the elements of a list from a state to a state. -/
def foldElements {σ : Type} (form : ListForm α) (element : σ → Reader α σ)
    (s : σ) : Reader α (σ × Option α) := fun tokens =>
  foldWithin form element (tokens.length + 1) none s tokens

/-- The elements of a list and the place of a comma behind the last. -/
def elements (form : ListForm α) (element : Reader α β) :
    Reader α (List β × Option α) := do
  let (xs, trailing) ← foldElements form (fun xs => return (← element) :: xs) []
  return (xs.reverse, trailing)

/-- The elements of a list that may not end in a comma. -/
def elementsStrict (form : ListForm α) (element : Reader α β) :
    Reader α (List β) := do
  let (xs, trailing) ← elements form element
  refuse trailing
  return xs

/-- Results for as long as a token announces another one. -/
def manyWithin (isNext : Token α → Bool) (item : Reader α β) :
    Nat → Reader α (List β)
  | 0 => fail
  | fuel + 1 => do
      if isNext (← peek) then
        let x ← item
        return x :: (← manyWithin isNext item fuel)
      else return []

/-- Results for as long as a token announces another one. -/
def many (isNext : Token α → Bool) (item : Reader α β) : Reader α (List β) :=
  fun tokens => manyWithin isNext item (tokens.length + 1) tokens

/-- A name, for which some keywords will do. -/
def identifier : Reader α String := do
  match (← peek).name? with
  | some id => advance; return id
  | none => fail

end Reader

end Stepwise.Grammar
