import Stepwise.Grammar.ReadStmt
import Stepwise.Writes.Collect
import Stepwise.Writes.LineIndex

/-!
# Writes of a program that may need repair

A line that was filled in can carry indentation that the grammar rejects. If
the first error of a program lies on a line with the reserved name, the line
is emptied and the program is parsed again; any other error is final. Every
repair empties a line that had something on it, so there are at most as many
repairs as lines.

The loop works for any parser that places its errors inside the text. The
grammar only tells where the first error is; what is said about it is left to a
wording.
-/

namespace Stepwise.Writes

open Stepwise.Grammar Stepwise.Text

/-- The first error of a text. -/
structure ParseError (text : List Char) where
  /-- The number of bytes in front of it. -/
  offset : Fin (byteLength text + 1)
  /-- What the parser says about it. -/
  reason : String

/-- Takes a text to a tree over its bytes, or to its first error. -/
abbrev Parser :=
  (text : List Char) → Except (ParseError text) (Module (Fin (byteLength text)))

/-- What to say about an error in a text, by the number of bytes in front of it. -/
abbrev Wording := (text : List Char) → Fin (byteLength text + 1) → String

/-- The parser of the grammar. -/
def Parser.ofGrammar (wording : Wording) : Parser := fun text =>
  (parse text).mapError fun offset => ⟨offset, wording text offset⟩

theorem Parser.ofGrammar_of_ok {text : List Char} {program : Module (Fin (byteLength text))}
    (h : parse text = .ok program) (wording : Wording) :
    Parser.ofGrammar wording text = .ok program := by
  rw [Parser.ofGrammar, h]
  rfl

theorem Parser.ofGrammar_of_error {text : List Char} {offset : Fin (byteLength text + 1)}
    (h : parse text = .error offset) (wording : Wording) :
    Parser.ofGrammar wording text = .error ⟨offset, wording text offset⟩ := by
  rw [Parser.ofGrammar, h]
  rfl

/-- Whether a text occurs in another. -/
def occursIn (part : List Char) : List Char → Bool
  | [] => part.isEmpty
  | c :: rest => part.isPrefixOf (c :: rest) || occursIn part rest

/-- A program that parses. -/
structure Repaired where
  source : Source
  /-- The lines that were emptied, last first. -/
  emptied : List Nat
  program : Module (Fin (byteLength source.toText))

/-- A program that does not parse. -/
structure SyntaxError where
  /-- The line of the first error. -/
  line : Nat
  /-- What the parser says about it. -/
  reason : String
  deriving DecidableEq

/-- A syntax error in words. -/
def SyntaxError.message (e : SyntaxError) : String :=
  "syntax error on line " ++ toString e.line ++ ": " ++ e.reason

/-- The line of an offset into the text of a program. -/
def lineIn (s : Source) (offset : Nat) : Nat :=
  (LineIndex.ofText s.toText).lineOf offset

/-- Whether an error on a line can be repaired by emptying it. -/
def isRepairable (s : Source) (line : Nat) : Bool :=
  occursIn reservedName.toList (s.text line) && s.canBlank line

/-- Parses a program, with at most `budget` further repairs. -/
def repair (parser : Parser) : (budget : Nat) → Source → List Nat →
    Except SyntaxError Repaired
  | budget, s, emptied =>
      match parser s.toText with
      | .ok program => .ok ⟨s, emptied, program⟩
      | .error e =>
          let line := lineIn s e.offset
          match budget with
          | 0 => .error ⟨line, e.reason⟩
          | budget + 1 =>
              if isRepairable s line then
                repair parser budget (s.blankLine line) (line :: emptied)
              else .error ⟨line, e.reason⟩

/-- What the analysis of a program finds. -/
structure Collection where
  writes : WriteMap
  /-- The lines that were emptied, in the order of the repairs. -/
  repaired : List Nat

/-- The writes of a program that has been parsed. -/
def Repaired.collection (r : Repaired) : Collection :=
  let index := LineIndex.ofText r.source.toText
  ⟨ofModule (fun place => index.lineOf place.val) r.program, r.emptied.reverse⟩

/-- The writes of a program, by a certain parser. -/
def collectWith (parser : Parser) (s : Source) : Except SyntaxError Collection :=
  (repair parser s.length s []).map Repaired.collection

/-- The writes of a program, by the grammar. -/
def collect (wording : Wording) (s : Source) : Except SyntaxError Collection :=
  collectWith (.ofGrammar wording) s

end Stepwise.Writes
