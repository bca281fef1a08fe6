import TripletFacts.Unicode.Blank
import TripletFacts.Unicode.CaseSet

/-!
# Flags of regular expressions

Flags change how the text of a regular expression is read.

## Main definitions

* `Regex.Flags`: the flags.
* `Regex.Flags.skip`: a text without what is not read.
* `Regex.Flags.close`, `Regex.Flags.literal`: sets in any case, where capital and small letters are
  the same.
-/

namespace TripletFacts.Regex

/-- How a text is read: whether capital and small letters are the same, whether anchors hold at
the ends of lines, whether `.` takes the end of a line, whether the meaning of `?` after a
repetition is swapped, whether blanks and comments are skipped, whether classes are restricted to
ASCII, and whether a carriage return ends a line too. -/
structure Flags where
  anyCase : Bool := false
  lines : Bool := false
  dotAll : Bool := false
  swapped : Bool := false
  spaced : Bool := false
  ascii : Bool := false
  returns : Bool := false

namespace Flags

/-- The flags with the one of a letter switched on or off. -/
def set? (f : Flags) (on : Bool) : Char → Option Flags
  | 'i' => some { f with anyCase := on }
  | 'm' => some { f with lines := on }
  | 's' => some { f with dotAll := on }
  | 'U' => some { f with swapped := on }
  | 'x' => some { f with spaced := on }
  | 'u' => some { f with ascii := !on }
  | 'R' => some { f with returns := on }
  | _ => none

end Flags

/-! ### Blanks and comments -/

/-- A text without the blanks and comments at its beginning, where these are skipped. The number
bounds the comments. -/
def skipComments : Nat → List Char → List Char
  | 0, cs => cs
  | n + 1, cs =>
    match cs.dropWhile Unicode.isBlank with
    | '#' :: rest => skipComments n (rest.dropWhile (· != '\n'))
    | rest => rest

namespace Flags

/-- A text without the blanks and comments at its beginning, if the flags say so. -/
def skip (f : Flags) (cs : List Char) : List Char :=
  if f.spaced then skipComments (cs.length + 1) cs else cs

/-! ### Case -/

/-- A set of characters, closed under change of case where capital and small letters are the
same. -/
def close (f : Flags) (s : CharSet) : CharSet :=
  if f.anyCase then if f.ascii then s.anyCaseAscii else s.anyCase else s

/-- A character, in any case where capital and small letters are the same. -/
def literal (f : Flags) (c : Char) : CharSet :=
  if f.anyCase then if f.ascii then (CharSet.single c).anyCaseAscii else CharSet.variants c
  else .single c

/-! ### Lines -/

/-- The characters other than those that end a line. -/
def withinLine (f : Flags) : CharSet :=
  (if f.returns then (CharSet.single '\n').union (.single '\r') else .single '\n').compl

/-- The beginning of a line: the beginning of the text or the position after the end of a line. A
carriage return and a line feed together end one line. -/
def lineStart (f : Flags) (previous upcoming : Option Char) : Bool :=
  match previous with
  | none => true
  | some '\n' => true
  | some '\r' => f.returns && upcoming != some '\n'
  | some _ => false

/-- The end of a line. -/
def lineEnd (f : Flags) (previous upcoming : Option Char) : Bool :=
  match upcoming with
  | none => true
  | some '\n' => !(f.returns && previous == some '\r')
  | some '\r' => f.returns
  | some _ => false

end Flags

end TripletFacts.Regex
