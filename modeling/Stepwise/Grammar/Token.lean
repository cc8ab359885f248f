/-!
# Tokens

The words of a program, as the grammar sees them. A token keeps what the
grammar and the analysis of writes can ask about it: the spelling of a name,
which keyword or sign it is, whether a number is imaginary, and where a
literal is malformed. The digits of a number and the characters of a literal
are not kept.

Operators that the grammar treats alike share a sign: every comparison sign
is `compare`, every augmented assignment `update`, and so on.

Tokens are generic in the type of places, so that a place can only come from
the text that was scanned.
-/

namespace Stepwise.Grammar

/-- The words with a meaning of their own. The last four are names wherever
the grammar does not ask for them. -/
inductive Keyword where
  | false_ | none_ | true_ | and_ | as_ | assert_ | async_ | await_ | break_
  | class_ | continue_ | def_ | del_ | elif_ | else_ | except_ | finally_
  | for_ | from_ | global_ | if_ | import_ | in_ | is_ | lambda_ | nonlocal_
  | not_ | or_ | pass_ | raise_ | return_ | try_ | while_ | with_ | yield_
  | match_ | case_ | type_ | lazy_
  deriving DecidableEq

namespace Keyword

/-- Every keyword with its spelling. -/
def spellings : List (Keyword × List Char) :=
  [(false_, "False".toList), (none_, "None".toList), (true_, "True".toList),
   (and_, "and".toList), (as_, "as".toList), (assert_, "assert".toList),
   (async_, "async".toList), (await_, "await".toList),
   (break_, "break".toList), (class_, "class".toList),
   (continue_, "continue".toList), (def_, "def".toList),
   (del_, "del".toList), (elif_, "elif".toList), (else_, "else".toList),
   (except_, "except".toList), (finally_, "finally".toList),
   (for_, "for".toList), (from_, "from".toList),
   (global_, "global".toList), (if_, "if".toList),
   (import_, "import".toList), (in_, "in".toList), (is_, "is".toList),
   (lambda_, "lambda".toList), (nonlocal_, "nonlocal".toList),
   (not_, "not".toList), (or_, "or".toList), (pass_, "pass".toList),
   (raise_, "raise".toList), (return_, "return".toList),
   (try_, "try".toList), (while_, "while".toList), (with_, "with".toList),
   (yield_, "yield".toList), (match_, "match".toList),
   (case_, "case".toList), (type_, "type".toList), (lazy_, "lazy".toList)]

/-- The keyword that a word spells. -/
def ofSpelling? (word : List Char) : Option Keyword :=
  (spellings.find? fun entry => entry.2 == word).map Prod.fst

/-- Whether the keyword may also be used as a name. -/
def isSoft : Keyword → Bool
  | match_ | case_ | type_ | lazy_ => true
  | _ => false

/-- The name that a soft keyword is when the grammar does not ask for it. -/
def spelling (k : Keyword) : String :=
  match spellings.find? fun entry => entry.1 == k with
  | some entry => String.ofList entry.2
  | none => ""

end Keyword

/-- Operators and delimiters, by the role that they play in the grammar. -/
inductive Sign where
  | openParen | closeParen | openBracket | closeBracket | openBrace | closeBrace
  | comma | colon | semicolon | dot | ellipsis | arrow
  /-- An exclamation mark with a word directly behind it. -/
  | exclamation
  /-- Any other exclamation mark. -/
  | looseExclamation
  /-- A single equals sign. -/
  | equal
  /-- The sign of a named expression. -/
  | walrus
  /-- An augmented assignment. -/
  | update
  /-- A comparison sign. -/
  | compare
  | star | doubleStar | slash
  /-- Floor division and remainder. -/
  | divide
  | atSign | plus | minus | tilde | bar | caret | ampersand | shift
  deriving DecidableEq

/-- What a token is. -/
inductive Kind (α : Type) where
  | name (id : String)
  | keyword (word : Keyword)
  | number (imaginary : Bool)
  /-- A string or bytes literal, with the place of its first malformed escape,
  and whether it has a closing quote. -/
  | text (bytes : Bool) (defect : Option α) (closed : Bool)
  /-- The opening of a literal with interpolated fields. Those of a deferred
  literal are not joined to a text. -/
  | templateStart (deferred : Bool)
  /-- Literal characters between fields. -/
  | templateText (defect : Option α)
  | templateEnd
  | sign (sign : Sign)
  /-- The end of a logical line. -/
  | newline
  | indent
  | dedent
  | endOfText
  /-- Characters that are no token. -/
  | invalid

/-- A token where it stands. `place` is that of its first character and is
absent only behind the last character of the text. `depth` counts the brackets
open behind the token, and `lineBreak` is the first line break inside brackets
that separates it from the token before. -/
structure Token (α : Type) where
  kind : Kind α
  place : Option α
  depth : Nat
  lineBreak : Option α

end Stepwise.Grammar
