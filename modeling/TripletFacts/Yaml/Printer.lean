import TripletFacts.Yaml.Plain
import TripletFacts.Yaml.Scalar

/-!
# Writing scalars

A text is written plain if it then reads back as itself; a text with line feeds becomes a block;
otherwise it is quoted, with double quotes if some of its characters have to be escaped. Lines are
not wrapped.

## Main definitions

* `Yaml.plainSafe`, `Yaml.singleSafe`, `Yaml.blockSafe`: the texts that each style can hold.
* `Yaml.writeValue`: the text of a scalar as the value of a key.
-/

namespace TripletFacts.Yaml

/-! ### What a style can hold -/

/-- The characters that are written as they are. -/
def isPrintable (c : Char) : Bool :=
  c == '\n' || decide (0x20 ≤ c.toNat ∧ c.toNat ≤ 0x7e) ||
    decide (0xa0 ≤ c.toNat ∧ c.toNat ≤ 0xfffd ∧ c.toNat ≠ 0xfeff) || decide (0x10000 ≤ c.toNat)

/-- Whether some two neighbours satisfy a test. -/
def hasNeighbours (test : Char → Char → Bool) : List Char → Bool
  | [] => false
  | [_] => false
  | a :: b :: cs => test a b || hasNeighbours test (b :: cs)

/-- A space directly before the end of a line. -/
def spaceBreak (cs : List Char) : Bool := hasNeighbours (fun a b => a == ' ' && isBreak b) cs

/-- A space directly after the end of a line. -/
def breakSpace (cs : List Char) : Bool := hasNeighbours (fun a b => isBreak a && b == ' ') cs

/-- Whether the first character has a meaning where a scalar begins. -/
def startsMarked : List Char → Bool
  | [] => false
  | c :: cs =>
    ['#', ',', '[', ']', '\x7b', '\x7d', '&', '*', '!', '|', '>', '\'', '"', '%', '@',
      '\x60'].contains c || (['?', ':', '-'].contains c && gapNext cs)

/-- Whether a character that is not the first one has a meaning: a colon before a gap, or a number
sign after one. -/
def holdsMark : List Char → Bool
  | [] => false
  | [_] => false
  | a :: c :: cs =>
    (c == ':' && gapNext cs) || (c == '#' && isGap a) || holdsMark (c :: cs)

/-- Whether a character at an end of a text would be lost. -/
def isLoose (c : Option Char) : Bool := c.any fun c => c == ' ' || isBreak c

/-- The texts that can stand in single quotes. -/
def singleSafe (cs : List Char) : Bool := cs.all isPrintable && !spaceBreak cs && !breakSpace cs

/-- The texts that can stand as a block. -/
def blockSafe (cs : List Char) : Bool :=
  cs.all isPrintable && !spaceBreak cs && cs.getLast? != some ' '

/-- The texts that can stand plain. -/
def plainSafe (cs : List Char) : Bool :=
  singleSafe cs && !cs.any isBreak && !isLoose cs.head? && !isLoose cs.getLast? &&
    !isDocumentMark (cs.take 3) && !startsMarked cs && !holdsMark cs

/-- The style that a text is written in. -/
def styleOf (cs : List Char) : Style :=
  if cs.contains '\n' then if blockSafe cs then .literal else .double
  else if !isReserved cs && plainSafe cs then .plain
  else if singleSafe cs then .single
  else .double

/-! ### Texts of styles -/

/-- Spaces. -/
def spaces (n : Nat) : List Char := List.replicate n ' '

/-- A text with an indentation in front of each stretch that follows the end of a line; `fresh`
says that a line has just ended. -/
def indentLines (indent : Nat) : (fresh : Bool) → List Char → List Char
  | _, [] => []
  | fresh, c :: cs =>
    if isBreak c then c :: indentLines indent true cs
    else (if fresh then spaces indent else []) ++ c :: indentLines indent false cs

/-- A text in single quotes. -/
def writeSingle (indent : Nat) (cs : List Char) : List Char :=
  let body := indentLines indent false (cs.flatMap fun c => if c == '\'' then ['\'', '\''] else [c])
  let tail := if cs.getLast?.any isBreak then spaces indent else []
  '\'' :: (body ++ tail ++ ['\''])

/-- A number with a fixed count of hexadecimal digits. -/
def hexDigits (count n : Nat) : List Char :=
  let digits := (Nat.toDigits 16 n).map Char.toUpper
  List.replicate (count - digits.length) '0' ++ digits

/-- The letters that stand for characters after a backslash. -/
def escapeLetters : List (Char × Char) :=
  [('\x00', '0'), ('\x07', 'a'), ('\x08', 'b'), ('\t', 't'), ('\n', 'n'), ('\x0b', 'v'),
   ('\x0c', 'f'), ('\r', 'r'), ('\x1b', 'e'), ('"', '"'), ('\\', '\\'), ('\x85', 'N'),
   ('\xa0', '_'), ('\u2028', 'L'), ('\u2029', 'P')]

/-- A character inside of double quotes. -/
def doubleChar (c : Char) : List Char :=
  if isPrintable c && !isBreak c && c != '"' && c != '\\' then [c]
  else
    match escapeLetters.lookup c with
    | some l => ['\\', l]
    | none =>
      if c.toNat ≤ 0xff then '\\' :: 'x' :: hexDigits 2 c.toNat
      else if c.toNat ≤ 0xffff then '\\' :: 'u' :: hexDigits 4 c.toNat
      else '\\' :: 'U' :: hexDigits 8 c.toNat

/-- A text in double quotes. -/
def writeDouble (cs : List Char) : List Char := '"' :: (cs.flatMap doubleChar ++ ['"'])

/-- The sign after the indicator of a block: without a line end at the end it is stripped, with
more than one, or with nothing else, all are kept. -/
def chompingSign (cs : List Char) : List Char :=
  match cs.reverse with
  | [] => ['-']
  | c :: more =>
    if !isBreak c then ['-'] else if more.head?.all isBreak then ['+'] else []

/-- A text as a block. -/
def writeLiteral (indent : Nat) (cs : List Char) : List Char :=
  let hint := if isLoose cs.head? then ['2'] else []
  '|' :: (hint ++ chompingSign cs ++ '\n' :: indentLines indent true cs)

/-- The value of a key, with the end of its line; `indent` is the indentation of the lines of a
scalar. -/
def writeValue (indent : Nat) (s : String) : List Char :=
  let cs := s.toList
  match styleOf cs with
  | .literal => writeLiteral indent cs ++ (if cs.getLast?.any isBreak then [] else ['\n'])
  | .single => writeSingle indent cs ++ ['\n']
  | .double => writeDouble cs ++ ['\n']
  | .plain | .folded => cs ++ ['\n']

end TripletFacts.Yaml
