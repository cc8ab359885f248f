import Stepwise.Text.NameTable.AToC
import Stepwise.Text.NameTable.DToK
import Stepwise.Text.NameTable.LToM
import Stepwise.Text.NameTable.NToZ

/-!
# Names of characters

The names that the Unicode standard gives to characters, aliases included.
Names are matched loosely: case, white space, underscores and hyphens between
letters or digits make no difference, and what is left of a name without them
is its *core*.

Ideographs are named by their code points and Hangul syllables by their
letters. The cores of all other names are kept in a sorted table, where each
is written as the number of characters that it shares with the one in front,
and the rest of it. The number is a letter for what it leaves over twenty-six,
behind a plus sign for every twenty-six in it:

    aARROWbCORNfTIC      ARROW  ACORN  ACORNTIC

The search reads the table once and builds no names. It keeps how much of the
present name agrees with the word, which is all that the next name needs.
-/

namespace Stepwise.Text

/-! ## Cores -/

/-- Whether a character is a blank or an underscore. -/
def isNameBlank (c : Char) : Bool :=
  c == ' ' || c == '_' || c == '\t' || c == '\n' || c == '\r' || c == '\x0C'

/-- The core of a name behind a certain character. -/
def nameCoreBehind : Option Char → List Char → List Char
  | _, [] => []
  | before, c :: rest =>
      if isNameBlank c then nameCoreBehind (some c) rest
      else if c = '-' ∧ before.any Char.isAlphanum ∧ rest.head?.any Char.isAlphanum then
        nameCoreBehind (some c) rest
      else c.toUpper :: nameCoreBehind (some c) rest

/-- The core of a name. -/
def nameCore (name : List Char) : List Char := nameCoreBehind none name

/-! ## Names of ideographs and syllables -/

/-- What follows a prefix, if a text starts with it. -/
def afterPrefix? : List Char → List Char → Option (List Char)
  | [], t => some t
  | _ :: _, [] => none
  | p :: front, c :: t => if p = c then afterPrefix? front t else none

/-- The number that a text spells with digits and capital letters in base
sixteen. -/
def upperHex? (t : List Char) : Option Nat :=
  t.foldl
    (fun n c => n.bind fun n =>
      if c.isDigit then some (16 * n + (c.toNat - 48))
      else if 'A' ≤ c ∧ c ≤ 'F' then some (16 * n + (c.toNat - 55))
      else none)
    (some 0)

/-- Characters that are named by their code points. -/
structure Series where
  front : String
  runs : List (Nat × Nat)
  /-- Whether the code point may have zeros in front, up to five digits. -/
  padded : Bool

/-- The characters that are named by their code points. -/
def numberedSeries : List Series :=
  [⟨"CJKUNIFIEDIDEOGRAPH",
    [(0x3400, 0x4DBF), (0x4E00, 0x9FFF), (0x20000, 0x2A6DF), (0x2A700, 0x2B73F),
     (0x2B740, 0x2B81D), (0x2B820, 0x2CEAD), (0x2CEB0, 0x2EBE0), (0x2EBF0, 0x2EE5D),
     (0x30000, 0x3134A), (0x31350, 0x323AF), (0x323B0, 0x33479)], true⟩,
   ⟨"CJKCOMPATIBILITYIDEOGRAPH",
    [(0xF900, 0xFA6D), (0xFA70, 0xFAD9), (0x2F800, 0x2FA1D)], false⟩,
   ⟨"EGYPTIANHIEROGLYPH", [(0x13460, 0x143FA)], false⟩,
   ⟨"KHITANSMALLSCRIPTCHARACTER", [(0x18B00, 0x18CD5), (0x18CFF, 0x18CFF)], false⟩,
   ⟨"NUSHUCHARACTER", [(0x1B170, 0x1B2FB)], false⟩]

/-- Whether a core names a character of a series. -/
def Series.names (s : Series) (core : List Char) : Bool :=
  match afterPrefix? s.front.toList core with
  | none => false
  | some digits =>
      match upperHex? digits with
      | none => false
      | some n =>
          s.runs.any (fun run => run.1 ≤ n && n ≤ run.2) &&
            digits.length ≤ 5 && (s.padded || digits.head? != some '0')

/-- The names of the consonants that a Hangul syllable starts with. -/
def hangulLeads : List String :=
  ["G", "GG", "N", "D", "DD", "R", "M", "B", "BB", "S", "SS", "", "J", "JJ", "C", "K", "T",
   "P", "H"]

/-- The names of the vowels of a Hangul syllable. -/
def hangulVowels : List String :=
  ["A", "AE", "YA", "YAE", "EO", "E", "YEO", "YE", "O", "WA", "WAE", "OE", "YO", "U", "WEO",
   "WE", "WI", "YU", "EU", "YI", "I"]

/-- The names of the consonants that a Hangul syllable ends with. -/
def hangulTrails : List String :=
  ["", "G", "GG", "GS", "N", "NJ", "NH", "D", "L", "LG", "LM", "LB", "LS", "LT", "LP", "LH",
   "M", "B", "BS", "S", "SS", "NG", "J", "C", "K", "T", "P", "H"]

/-- Whether a core names a Hangul syllable. -/
def namesSyllable (core : List Char) : Bool :=
  match afterPrefix? "HANGULSYLLABLE".toList core with
  | none => false
  | some letters =>
      hangulLeads.any fun lead =>
        match afterPrefix? lead.toList letters with
        | none => false
        | some rest =>
            hangulVowels.any fun vowel =>
              match afterPrefix? vowel.toList rest with
              | none => false
              | some trail => hangulTrails.contains (String.ofList trail)

/-! ## The table -/

/-- What a search has found in the part of the table in front. -/
structure NameSearch where
  /-- The length of the present name, as far as it has been read. -/
  length : Nat
  /-- How many characters at its front agree with the word. -/
  agreed : Nat
  /-- The plus signs in front of a number, times twenty-six. -/
  carried : Nat
  /-- Whether a name was the word. -/
  found : Bool

namespace NameSearch

/-- The search in front of the table. -/
def start : NameSearch := ⟨0, 0, 0, false⟩

variable (word : Array Char)

/-- Whether the present name ends here as the word, or an earlier one was it. -/
def hasFound (s : NameSearch) : Bool :=
  s.found || (s.length == word.size && s.agreed == word.size)

/-- The search behind one more character of the table. -/
def step (s : NameSearch) (c : Char) : NameSearch :=
  if c == '+' then { s with carried := s.carried + 26 }
  else if c.isLower then
    let shared := s.carried + (c.toNat - 'a'.toNat)
    ⟨shared, min s.agreed shared, 0, s.hasFound word⟩
  else
    let agrees := s.agreed == s.length && word[s.length]? == some c
    { s with length := s.length + 1, agreed := if agrees then s.agreed + 1 else s.agreed }

/-- The search behind one more row of the table. -/
def row (s : NameSearch) (r : String) : NameSearch := r.toList.foldl (step word) s

end NameSearch

/-- The part of the table that holds the names with a certain first letter. -/
def nameRows (first : Char) : List String :=
  if first ≤ 'C' then NameTable.aToC
  else if first ≤ 'K' then NameTable.dToK
  else if first ≤ 'M' then NameTable.lToM
  else NameTable.nToZ

/-- Whether the table has a core. -/
def isTabled (core : List Char) : Bool :=
  match core with
  | [] => false
  | first :: _ =>
      let word := core.toArray
      ((nameRows first).foldl (NameSearch.row word) .start).hasFound word

/-- Whether a name names a character. -/
def namesCharacter (name : List Char) : Bool :=
  let core := nameCore name
  namesSyllable core || numberedSeries.any (·.names core) || isTabled core

end Stepwise.Text
