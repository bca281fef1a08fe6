import TripletFacts.Unicode.Word

/-!
# Tests of a position

Anchors and word boundaries match the empty text, depending on the characters around a position.

## Main definitions

* `Regex.textStart`, `Regex.textEnd`: the ends of a text.
* `Regex.wordBoundary` and its companions: the ends of words.
-/

namespace TripletFacts.Regex

/-- The position is at the beginning of the text. -/
def textStart (previous _upcoming : Option Char) : Bool := previous.isNone

/-- The position is at the end of the text. -/
def textEnd (_previous upcoming : Option Char) : Bool := upcoming.isNone

/-- Whether there is a word character; only letters, digits and `_` of ASCII if `ascii`. -/
def wordAt (ascii : Bool) (c : Option Char) : Bool :=
  c.any fun c => if ascii then c.isAlphanum || c == '_' else Unicode.isWord c

/-- A word begins or ends at the position. -/
def wordBoundary (ascii : Bool) (previous upcoming : Option Char) : Bool :=
  wordAt ascii previous != wordAt ascii upcoming

/-- No word begins or ends at the position. -/
def noWordBoundary (ascii : Bool) (previous upcoming : Option Char) : Bool :=
  wordAt ascii previous == wordAt ascii upcoming

/-- A word begins at the position. -/
def wordStart (ascii : Bool) (previous upcoming : Option Char) : Bool :=
  !wordAt ascii previous && wordAt ascii upcoming

/-- A word ends at the position. -/
def wordEnd (ascii : Bool) (previous upcoming : Option Char) : Bool :=
  wordAt ascii previous && !wordAt ascii upcoming

/-- There is no word before the position. -/
def wordStartHalf (ascii : Bool) (previous _upcoming : Option Char) : Bool :=
  !wordAt ascii previous

/-- There is no word after the position. -/
def wordEndHalf (ascii : Bool) (_previous upcoming : Option Char) : Bool :=
  !wordAt ascii upcoming

end TripletFacts.Regex
