import Stepwise.Text.Compatibility
import Stepwise.Text.Identifier
import Stepwise.Grammar.Indentation
import Stepwise.Grammar.Literal
import Stepwise.Grammar.Token

/-!
# From characters to tokens

A scanner step looks at the head of a text and gives the tokens found there
with the text behind them. Lines and blocks are tokens too: the end of a
logical line, and the opening and closing of a block by indentation. Inside
brackets a line break separates tokens and nothing more.

A literal with interpolated fields is scanned by the same steps. Each such
literal in progress is a `Template` on a stack, and the number of open
brackets decides whether its text or a field of it comes next.

Characters that are no token end the scan: nothing behind them is ever looked
at. A literal without a closing quote is a token all the same, and the scan
goes on behind it. Every step that emits no token reads a character, and a
text of `n` characters needs at most `2 * n + 2` steps.
-/

namespace Stepwise.Grammar

open Stepwise.Text

variable {α : Type}

/-- A literal with interpolated fields that is being scanned. -/
structure Template where
  quote : Quote
  raw : Bool
  /-- The brackets open in front of the literal. -/
  depth : Nat
  /-- The format specifications that are open in it. -/
  specs : Nat

namespace Template

/-- The brackets open in the literal, outside its format specifications. -/
def isInField (t : Template) (depth : Nat) : Bool := t.specs < depth - t.depth

/-- Whether text of a format specification comes next. -/
def isInSpec (t : Template) (depth : Nat) : Bool :=
  0 < t.specs && !t.isInField depth

/-- A colon directly inside a field opens its format specification. -/
def opensSpec (t : Template) (depth : Nat) : Bool :=
  (depth - t.depth) - t.specs == 1

end Template

/-- What a scan has to remember about the text in front. -/
structure Scan (α : Type) where
  /-- The brackets that are open. -/
  depth : Nat
  /-- Whether a logical line starts here. -/
  fresh : Bool
  /-- The indentations of the open blocks, innermost first. -/
  blocks : List Indentation
  templates : List Template
  /-- The first line break inside brackets since the last token. -/
  lineBreak : Option α

/-- The scan of a whole text. -/
def Scan.start : Scan α := ⟨0, true, [], [], none⟩

/-- What a step of the scanner comes to. -/
inductive Step (α : Type) where
  | more (tokens : List (Token α)) (scan : Scan α) (rest : List (Located α))
  | done (tokens : List (Token α))

/-- The place at which a text starts. -/
def placeOf (t : List (Located α)) : Option α := t.head?.map Located.place

/-- The first character of a text, NUL standing for its end. -/
def headChar (t : List (Located α)) : Char := (t.head?.map Located.char).getD '\x00'

/-- A text without the line break at its head. -/
def dropLineBreak (t : List (Located α)) : List (Located α) :=
  match t with
  | x :: y :: rest => if x.char == '\r' && y.char == '\n' then rest else y :: rest
  | _ => []

/-- Whether a character ends a line. -/
def isLineBreak (c : Char) : Bool := c == '\n' || c == '\r'

namespace Scan

/-- A token at the place at which `t` starts. -/
def token (s : Scan α) (kind : Kind α) (t : List (Located α)) : Token α :=
  ⟨kind, placeOf t, s.depth, s.lineBreak⟩

/-- Characters that are no token. -/
def fail (s : Scan α) (t : List (Located α)) : Step α :=
  .done [s.token .invalid t]

/-- A single token from `t` to `rest`. -/
def emit (s : Scan α) (kind : Kind α) (t rest : List (Located α)) : Step α :=
  .more [s.token kind t] { s with lineBreak := none } rest

end Scan

/-! ## White space -/

/-- White space between tokens, which starts at `start`. A backslash at the end
of a line joins it to the next line, which must exist. -/
def skipBlank (start : Option α) :
    List (Located α) → Except (Option α) (List (Located α))
  | [] => .ok []
  | x :: rest =>
      if x.char == ' ' || x.char == '\t' || x.char == '\x0C' then skipBlank start rest
      else if x.char == '\\' then
        match rest with
        | [] => .error start
        | y :: rest' =>
            if isLineBreak y.char then
              match rest' with
              | [] => .error start
              | z :: rest'' =>
                  if y.char == '\r' && z.char == '\n' then
                    if rest''.isEmpty then .error start else skipBlank start rest''
                  else skipBlank start (z :: rest'')
            else .error (some x.place)
      else .ok (x :: rest)

/-- The indentation of a line that starts at `start`. A form feed starts it
anew. If lines are joined, the first one with white space in front of the
backslash decides, and `joined` is its indentation. -/
def indentationOf (start : Option α) (joined : Option Indentation) :
    Indentation → List (Located α) →
      Except (Option α) (Indentation × List (Located α))
  | i, [] => .ok (joined.getD i, [])
  | i, x :: rest =>
      if x.char == ' ' then indentationOf start joined i.addSpace rest
      else if x.char == '\t' then indentationOf start joined i.addTab rest
      else if x.char == '\x0C' then indentationOf start joined .root rest
      else if x.char == '\\' then
        let joined' := joined.or (if i = .root then none else some i)
        match rest with
        | [] => .error start
        | y :: rest' =>
            if isLineBreak y.char then
              match rest' with
              | [] => .error start
              | z :: rest'' =>
                  if y.char == '\r' && z.char == '\n' then
                    if rest''.isEmpty then .error start
                    else indentationOf start joined' i rest''
                  else indentationOf start joined' i (z :: rest'')
            else .error (some x.place)
      else .ok (joined.getD i, x :: rest)

/-- The text behind a comment. -/
def skipComment (t : List (Located α)) : List (Located α) :=
  t.dropWhile fun x => !isLineBreak x.char

/-! ## Tokens -/

/-- The sign at the head of a text, given by its first three characters, and
the number of its characters. -/
def sign? (a b c : Char) : Option (Sign × Nat) :=
  match a with
  | '(' => some (.openParen, 1)
  | ')' => some (.closeParen, 1)
  | '[' => some (.openBracket, 1)
  | ']' => some (.closeBracket, 1)
  | '{' => some (.openBrace, 1)
  | '}' => some (.closeBrace, 1)
  | ',' => some (.comma, 1)
  | ';' => some (.semicolon, 1)
  | ':' => if b == '=' then some (.walrus, 2) else some (.colon, 1)
  | '.' => if b == '.' && c == '.' then some (.ellipsis, 3) else some (.dot, 1)
  | '=' => if b == '=' then some (.compare, 2) else some (.equal, 1)
  | '!' =>
      if b == '=' then some (.compare, 2)
      else some (if isIdentifierStart b then .exclamation else .looseExclamation, 1)
  | '<' =>
      if b == '<' then if c == '=' then some (.update, 3) else some (.shift, 2)
      else if b == '=' then some (.compare, 2) else some (.compare, 1)
  | '>' =>
      if b == '>' then if c == '=' then some (.update, 3) else some (.shift, 2)
      else if b == '=' then some (.compare, 2) else some (.compare, 1)
  | '*' =>
      if b == '*' then if c == '=' then some (.update, 3) else some (.doubleStar, 2)
      else if b == '=' then some (.update, 2) else some (.star, 1)
  | '/' =>
      if b == '/' then if c == '=' then some (.update, 3) else some (.divide, 2)
      else if b == '=' then some (.update, 2) else some (.slash, 1)
  | '%' => if b == '=' then some (.update, 2) else some (.divide, 1)
  | '@' => if b == '=' then some (.update, 2) else some (.atSign, 1)
  | '+' => if b == '=' then some (.update, 2) else some (.plus, 1)
  | '-' =>
      if b == '=' then some (.update, 2)
      else if b == '>' then some (.arrow, 2) else some (.minus, 1)
  | '&' => if b == '=' then some (.update, 2) else some (.ampersand, 1)
  | '|' => if b == '=' then some (.update, 2) else some (.bar, 1)
  | '^' => if b == '=' then some (.update, 2) else some (.caret, 1)
  | '~' => some (.tilde, 1)
  | _ => none

/-- The number of open brackets behind a sign. -/
def depthBehind (sign : Sign) (depth : Nat) : Nat :=
  match sign with
  | .openParen | .openBracket | .openBrace => depth + 1
  | .closeParen | .closeBracket | .closeBrace => depth - 1
  | _ => depth

/-- The literals in progress behind a sign: a closing brace may end a format
specification. -/
def templatesBehind (sign : Sign) (depth : Nat) : List Template → List Template
  | [] => []
  | t :: below =>
      if sign = .closeBrace ∧ t.isInSpec depth then
        { t with specs := t.specs - 1 } :: below
      else t :: below

/-- A sign, if the text starts with one. -/
def signStep (s : Scan α) (t : List (Located α)) : Step α :=
  let chars := t.map Located.char
  match s.templates, sign? (chars.getD 0 ' ') (chars.getD 1 ' ') (chars.getD 2 ' ') with
  | _, none => s.fail t
  | tmpl :: below, some (sign, length) =>
      if chars.getD 0 ' ' == ':' && tmpl.opensSpec s.depth then
        { s with templates := { tmpl with specs := tmpl.specs + 1 } :: below }.emit
          (.sign .colon) t (t.drop 1)
      else
        { s with
          depth := depthBehind sign s.depth
          templates := templatesBehind sign s.depth s.templates }.emit
          (.sign sign) t (t.drop length)
  | [], some (sign, length) =>
      { s with depth := depthBehind sign s.depth }.emit (.sign sign) t (t.drop length)

/-- A literal whose first quotation mark is the head of `quoted`; its token
starts at `t`. -/
def literalStep (s : Scan α) (f : Flavor) (t quoted : List (Located α)) : Step α :=
  match quoted with
  | [] => s.fail t
  | mark :: behind =>
      let (q, body) := openQuote mark.char behind
      if f.template then
        { s with templates := ⟨q, f.raw, s.depth, 0⟩ :: s.templates }.emit
          (.templateStart f.deferred) t body
      else
        let b := Body.ofText q body
        match b.stop with
        | some stop => s.emit (.text f.bytes (literalDefect? f stop b.content) true) t b.rest
        | none =>
            if (literalDefect? f mark.place b.content).isSome then s.fail t
            else s.emit (.text f.bytes none false) t b.rest

/-- A name or keyword. A word outside ASCII is a name, in its normal form. -/
def wordKind (word : List Char) : Kind α :=
  match Keyword.ofSpelling? word with
  | some k => .keyword k
  | none => .name (String.ofList (normalize word))

/-- A word, or a literal that letters introduce. -/
def wordStep (s : Scan α) (t : List (Located α)) : Step α :=
  let a := headChar t
  let b := headChar (t.drop 1)
  let c := headChar (t.drop 2)
  let isQuote (c : Char) : Bool := c == '\'' || c == '"'
  let prefixed : Option (Flavor × List (Located α)) :=
    if isQuote b then (Flavor.ofLetter? a).map fun f => (f, t.drop 1)
    else if isQuote c then (Flavor.ofLetters? a b).map fun f => (f, t.drop 2)
    else none
  match prefixed with
  | some (f, quoted) => literalStep s f t quoted
  | none =>
      let word := t.takeWhile fun x => isIdentifierChar x.char
      s.emit (wordKind (word.map Located.char)) t (t.drop word.length)

/-- A number, from behind its first character. -/
def numberStep (s : Scan α) (t : List (Located α))
    (number : Option (Bool × List (Located α))) : Step α :=
  match number with
  | some (imaginary, rest) => s.emit (.number imaginary) t rest
  | none => s.fail t

/-- The token at the head of a text that starts with neither white space nor a
line break nor a comment. -/
def tokenStep (s : Scan α) (t : List (Located α)) : Step α :=
  match t with
  | [] => s.fail t
  | x :: rest =>
      let c := x.char
      if isIdentifierStart c then wordStep s t
      else if c.isDigit then numberStep s t (number? c rest)
      else if c == '\'' || c == '"' then literalStep s ⟨false, false, false, false⟩ t t
      else if c == '.' && (headChar rest).isDigit then
        numberStep s t (pointNumber? rest)
      else signStep s t

/-! ## Lines -/

/-- The tokens that the end of a text stands for: an open bracket is an error,
and all open blocks are closed. -/
def endStep (s : Scan α) : Step α :=
  if 0 < s.depth then s.fail []
  else
    let line := if s.fresh then [] else [s.token .newline []]
    .done (line ++ s.blocks.map (fun _ => s.token .dedent []) ++
      [s.token .endOfText []])

/-- A line break outside blank lines and brackets ends the logical line. -/
def lineBreakStep (s : Scan α) (t : List (Located α)) : Step α :=
  if s.depth = 0 && !s.fresh then
    .more [s.token .newline t] { s with fresh := true, lineBreak := none }
      (dropLineBreak t)
  else
    .more [] { s with lineBreak := s.lineBreak.or (placeOf t) } (dropLineBreak t)

/-- What comes behind white space: a line break, a comment or a token. -/
def plainStep (s : Scan α) (t : List (Located α)) : Step α :=
  match t with
  | [] => endStep s
  | x :: _ =>
      if isLineBreak x.char then lineBreakStep s t
      else if x.char == '#' then .more [] s (skipComment t)
      else tokenStep s t

/-- The indentation in front of a logical line opens or closes blocks. -/
def indentStep (s : Scan α) (t : List (Located α)) : Step α :=
  match indentationOf (placeOf t) none .root t with
  | .error place => .done [⟨.invalid, place, s.depth, none⟩]
  | .ok (line, rest) =>
      if rest.isEmpty || isLineBreak (headChar rest) || headChar rest == '#' then
        plainStep s rest
      else
        let s' := { s with fresh := false }
        match line.compare? (innermost s.blocks) with
        | some .eq => .more [] s' rest
        | some .gt => .more [s.token .indent t] { s' with blocks := line :: s.blocks } rest
        | some .lt =>
            match closeBlocks line s.blocks with
            | (closed, some blocks) =>
                .more (List.replicate closed (s.token .dedent rest)) { s' with blocks } rest
            | (closed, none) =>
                .done (List.replicate closed (s.token .dedent rest) ++
                  [s.token .invalid t])
        | none => s.fail t

/-- The text of a literal with fields, or its closing quote, unless a brace of
it comes next. -/
def templateStep? (s : Scan α) (tmpl : Template) (below : List Template)
    (t : List (Located α)) : Option (Step α) :=
  let q := tmpl.quote
  if headChar t == q.mark && (!q.triple || startsWithTwo q.mark (t.drop 1)) then
    some ({ s with templates := below }.emit .templateEnd t
      (t.drop (if q.triple then 3 else 1)))
  else
    match templateText? q tmpl.raw (tmpl.isInSpec s.depth) false t with
    | none => some (s.fail t)
    | some ([], _) => none
    | some (content, rest) =>
        let defect :=
          match tmpl.raw, placeOf rest with
          | false, some stop => escapeDefect? false stop .any content
          | _, _ => none
        some (s.emit (.templateText defect) t rest)

/-- One step of the scanner. -/
def step (s : Scan α) (t : List (Located α)) : Step α :=
  let ordinary (_ : Unit) : Step α :=
    if s.fresh then indentStep s t
    else
      match skipBlank (placeOf t) t with
      | .error place => .done [⟨.invalid, place, s.depth, s.lineBreak⟩]
      | .ok rest => plainStep s rest
  match s.templates with
  | tmpl :: below =>
      if tmpl.isInField s.depth then ordinary ()
      else (templateStep? s tmpl below t).getD (ordinary ())
  | [] => ordinary ()

/-- The tokens found in at most `fuel` steps. -/
def tokensWithin : Nat → Scan α → List (Located α) → List (Token α)
  | 0, _, _ => []
  | fuel + 1, s, t =>
      match step s t with
      | .done tokens => tokens
      | .more tokens s' rest => tokens ++ tokensWithin fuel s' rest

/-- The tokens of a text. A byte order mark in front of it is no part of it. -/
def tokens (t : List (Located α)) : List (Token α) :=
  let body := if headChar t == '\uFEFF' then t.drop 1 else t
  tokensWithin (2 * body.length + 2) .start body

/-- The place of the first literal without a closing quote. -/
def unclosed? (tokens : List (Token α)) : Option α :=
  tokens.findSome? fun t =>
    match t.kind with
    | .text _ _ false => t.place
    | _ => none

end Stepwise.Grammar
