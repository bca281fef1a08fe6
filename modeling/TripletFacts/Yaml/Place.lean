/-!
# Characters and places of documents

Documents are texts in which line ends and columns matter. There are several characters that end
a line; all of them but the line and paragraph separators count as a line feed.

## Main definitions

* `Yaml.isBlank`, `Yaml.isBreak`: blanks and the ends of lines.
* `Yaml.breaksIn`: the line ends in a text, as they count.
* `Yaml.Place`: a place in a text with its line and column.
-/

namespace TripletFacts.Yaml

/-! ### Characters -/

/-- Spaces and tabs. -/
def isBlank (c : Char) : Bool := c == ' ' || c == '\t'

/-- Characters that end a line. -/
def isBreak (c : Char) : Bool :=
  c == '\n' || c == '\r' || c == '\x85' || c == '\u2028' || c == '\u2029'

/-- Blanks and ends of lines. -/
def isGap (c : Char) : Bool := isBlank c || isBreak c

/-- Whether a blank, the end of a line or the end of the text comes first. -/
def gapNext (cs : List Char) : Bool := cs.head?.all isGap

/-- Whether some character of a list comes first. -/
def nextIn (chars : List Char) (cs : List Char) : Bool := cs.head?.any chars.contains

/-- The characters that a document may consist of. -/
def isAllowed (c : Char) : Bool :=
  c == '\t' || c == '\n' || c == '\r' || c == '\x85' ||
    decide (0x20 ≤ c.toNat ∧ c.toNat ≤ 0x7e) ||
    decide (0xa0 ≤ c.toNat ∧ c.toNat ≤ 0xd7ff) ||
    decide (0xe000 ≤ c.toNat ∧ c.toNat ≤ 0xfffd) || decide (0x10000 ≤ c.toNat)

/-- The marks that begin and end a document. -/
def isDocumentMark (cs : List Char) : Bool := cs == "---".toList || cs == "...".toList

/-- How the end of a line counts. -/
def breakValue (c : Char) : Char := if c == '\r' || c == '\x85' then '\n' else c

/-- The line ends in a text, as they count; a carriage return and a line feed together are one. -/
def breaksIn : List Char → List Char
  | [] => []
  | '\r' :: '\n' :: cs => '\n' :: breaksIn cs
  | c :: cs => if isBreak c then breakValue c :: breaksIn cs else breaksIn cs

/-- The text without the end of a line at its beginning. -/
def dropBreak : List Char → List Char
  | '\r' :: '\n' :: cs => cs
  | c :: cs => if isBreak c then cs else c :: cs
  | [] => []

/-! ### Places -/

/-- A place in a text: the text after it, the characters before it, and its line and column. -/
structure Place where
  rest : List Char
  index : Nat
  line : Nat
  column : Nat

namespace Place

/-- The beginning of a text. -/
def start (text : List Char) : Place := ⟨text, 0, 0, 0⟩

/-- The line and the column after some characters. -/
def advance (line column : Nat) : List Char → Nat × Nat
  | [] => (line, column)
  | '\r' :: '\n' :: cs => advance (line + 1) 0 cs
  | c :: cs => if isBreak c then advance (line + 1) 0 cs else advance line (column + 1) cs

/-- The place after a number of characters. -/
def skip (p : Place) (n : Nat) : Place :=
  let (line, column) := advance p.line p.column (p.rest.take n)
  ⟨p.rest.drop n, p.index + min n p.rest.length, line, column⟩

/-- The place at which the text after it is a given one. -/
def moveTo (p : Place) (rest : List Char) : Place := p.skip (p.rest.length - rest.length)

/-- The place after the characters that pass a test. -/
def skipWhile (p : Place) (test : Char → Bool) : Place := p.skip (p.rest.takeWhile test).length

/-- The place after the end of a line, if there is one. -/
def skipBreak (p : Place) : Place := p.moveTo (dropBreak p.rest)

/-- The next character. -/
def next? (p : Place) : Option Char := p.rest.head?

/-- Whether the mark of a document stands here on its own. -/
def atDocumentMark (p : Place) : Bool :=
  p.column == 0 && isDocumentMark (p.rest.take 3) && gapNext (p.rest.drop 3)

end Place

end TripletFacts.Yaml
