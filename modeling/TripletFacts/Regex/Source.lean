import TripletFacts.Regex.Basic
import TripletFacts.Regex.Look
import TripletFacts.Unicode.Blank
import TripletFacts.Unicode.Case

/-!
# Patterns with a source text

A pattern is a regular expression together with the way in which it is written: where groups stand,
which of them only hold parts together, and where the meaning of `.` or of capital letters is
changed. Its source text and the expression that it denotes are two functions of one tree.

## Main definitions

* `Pattern`: patterns.
* `Pattern.source`: the source text of a pattern.
* `Pattern.regex`: the expression that a pattern denotes.
-/

namespace TripletFacts

/-! ### Patterns -/

/-- Patterns. The loops are greedy unless they are said to be lazy. -/
inductive Pattern where
  /-- The characters of a text. -/
  | text (s : String)
  /-- Any character; the end of a line only where `.` takes it. -/
  | any
  /-- A word character. -/
  | word
  /-- A blank. -/
  | blank
  /-- A word character that is not a digit. -/
  | letter
  /-- A character that is neither a word character nor one of the text. -/
  | separator (s : String)
  | textStart
  | textEnd
  | wordBoundary
  | seq (p q : Pattern)
  | alt (p q : Pattern)
  /-- A numbered group. -/
  | capture (index : Nat) (p : Pattern)
  /-- A group that holds its parts together. -/
  | hold (p : Pattern)
  /-- A group in which `.` takes the end of a line. -/
  | allLines (p : Pattern)
  /-- A group in which capital and small letters are the same. -/
  | anyCase (p : Pattern)
  | star (p : Pattern)
  | lazyStar (p : Pattern)
  | plus (p : Pattern)
  | opt (p : Pattern)
  | lazyOpt (p : Pattern)

namespace Pattern

/-! ### Source text -/

/-- The characters that have a meaning in source text. -/
def isMeta (c : Char) : Bool :=
  c ∈ ['\\', '.', '+', '*', '?', '(', ')', '|', '[', ']', '\x7b', '\x7d', '^', '$', '#', '&', '-',
    '~']

/-- A text in which the characters that have a meaning are written after a backslash. -/
def escape (cs : List Char) : List Char :=
  cs.flatMap fun c => if isMeta c then ['\\', c] else [c]

/-- The source text of a pattern. -/
def source : Pattern → List Char
  | text s => escape s.toList
  | any => ['.']
  | word => ['\\', 'w']
  | blank => ['\\', 's']
  | letter => "[^\\W\\d]".toList
  | separator s => "[^\\w".toList ++ escape s.toList ++ [']']
  | textStart => ['^']
  | textEnd => ['$']
  | wordBoundary => ['\\', 'b']
  | seq p q => p.source ++ q.source
  | alt p q => p.source ++ '|' :: q.source
  | capture _ p => '(' :: (p.source ++ [')'])
  | hold p => "(?:".toList ++ p.source ++ [')']
  | allLines p => "(?s:".toList ++ p.source ++ [')']
  | anyCase p => "(?i:".toList ++ p.source ++ [')']
  | star p => p.source ++ ['*']
  | lazyStar p => p.source ++ ['*', '?']
  | plus p => p.source ++ ['+']
  | opt p => p.source ++ ['?']
  | lazyOpt p => p.source ++ ['?', '?']

/-! ### Expression -/

/-- The expression that a pattern denotes, where `.` may take the end of a line and capital and
small letters may be the same. -/
def compile (lines fold : Bool) : Pattern → Regex
  | text s =>
    if fold then
      s.toList.foldr (fun c r => .seq (.char fun x => Unicode.fold x == Unicode.fold c) r) .unit
    else .literal s.toList
  | any => .char fun c => lines || c != '\n'
  | word => .char Unicode.isWord
  | blank => .char Unicode.isBlank
  | letter => .char fun c => Unicode.isWord c && !Unicode.isDecimalDigit c
  | separator s => .char fun c => !Unicode.isWord c && !s.toList.contains c
  | textStart => .look Regex.textStart
  | textEnd => .look Regex.textEnd
  | wordBoundary => .look (Regex.wordBoundary false)
  | seq p q => .seq (p.compile lines fold) (q.compile lines fold)
  | alt p q => .alt (p.compile lines fold) (q.compile lines fold)
  | capture index p => .group index (p.compile lines fold)
  | hold p => p.compile lines fold
  | allLines p => p.compile true fold
  | anyCase p => p.compile lines true
  | star p => .star true (p.compile lines fold)
  | lazyStar p => .star false (p.compile lines fold)
  | plus p => .plus true (p.compile lines fold)
  | opt p => .alt (p.compile lines fold) .unit
  | lazyOpt p => .alt .unit (p.compile lines fold)

/-- The expression that a pattern denotes. -/
def regex (p : Pattern) : Regex := p.compile false false

/-- The number of the last group of a pattern. -/
def groups : Pattern → Nat
  | capture index p => max index p.groups
  | seq p q | alt p q => max p.groups q.groups
  | hold p | allLines p | anyCase p | star p | lazyStar p | plus p | opt p | lazyOpt p => p.groups
  | _ => 0

end Pattern

end TripletFacts
