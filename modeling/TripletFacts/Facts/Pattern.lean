import TripletFacts.Regex.Search
import TripletFacts.Regex.Source
import TripletFacts.Settings.Basic

/-!
# Patterns of the notation

The shapes in which facts and references appear in a text. They are made from the marks and
separators of the settings; they find structure and do not say whether a prefix, a name or a value
obeys its rules.

## Main definitions

* `Shape`: the shapes.
* `Settings.pattern`, `Settings.regex`: the pattern of a shape, and its expression.
* `Settings.wholeReference?`: the prefix and the name of a text that is a reference.
-/

namespace TripletFacts

/-- Shapes of facts and references in a text. -/
inductive Shape where
  /-- `P.N` -/
  | specialReference
  /-- `$P.N` -/
  | reference
  /-- `P.N` in expression text, where a number such as `1.5` must not be taken for a reference. The
  first group is the character before it. -/
  | bareReference
  /-- `P.N=V;` -/
  | specialTriplet
  /-- `$P.N=V;`, `$P.N=V"C";`, `$P.N=:V"C";`, `$P.=:;` and so on -/
  | triplet
  /-- Triplets and nothing else -/
  | triplets
  /-- `PRESENT($P.N)` -/
  | present
  /-- `PRESENT(P.N)` -/
  | presentBare
  /-- `ABSENT($P.N)` -/
  | absent
  /-- `ABSENT(P.N)` -/
  | absentBare
deriving DecidableEq

namespace Settings

open Pattern

/-- One or more word characters, kept under a number. -/
def wordGroup (index : Nat) : Pattern := capture index (plus word)

/-- `P.N` -/
def specialReferencePattern (s : Settings) : Pattern :=
  seq (wordGroup 1) (seq (text s.nameSeparator) (wordGroup 2))

/-- `$P.N` -/
def referencePattern (s : Settings) : Pattern := seq (text s.startMark) s.specialReferencePattern

/-- The text of a value: perhaps the mark of a request, then either a quoted text, which may
contain the marks of the end and of a comment, or anything up to the first of them. -/
def valuePattern (s : Settings) : Pattern :=
  capture 3 (seq (opt (hold (text s.bidMark)))
    (hold (alt
      (allLines (seq (text s.valueQuote) (seq (lazyStar any) (text s.valueQuote))))
      (lazyStar any))))

/-- The comment of a triplet. -/
def commentPattern (s : Settings) : Pattern :=
  hold (seq (text s.commentQuote)
    (seq (capture 4 (allLines (lazyStar any))) (text s.commentQuote)))

/-- A triplet with its groups: prefix, name, value and comment. -/
def tripletPattern (s : Settings) : Pattern :=
  seq (text s.startMark) (seq (wordGroup 1) (seq (text s.nameSeparator)
    (seq (lazyOpt (wordGroup 2)) (seq (text s.valueSeparator) (seq s.valuePattern
      (seq (lazyOpt s.commentPattern) (text s.endMark)))))))

/-- A call of a word, written in any of two languages and in any case, with a reference. -/
def callPattern (word₁ word₂ : String) (argument : Pattern) : Pattern :=
  seq wordBoundary (seq (anyCase (alt (text word₁) (text word₂)))
    (seq (text "(") (seq (star blank) (seq argument (seq (star blank) (text ")"))))))

/-- The pattern of a shape. -/
def pattern (s : Settings) : Shape → Pattern
  | .specialReference => s.specialReferencePattern
  | .reference => s.referencePattern
  | .bareReference =>
    seq (capture 1 (alt textStart (separator (s.nameSeparator ++ s.startMark))))
      (seq (capture 2 (seq letter (star word))) (seq (text s.nameSeparator) (wordGroup 3)))
  | .specialTriplet =>
    seq s.specialReferencePattern
      (seq (text s.valueSeparator) (seq (capture 3 (lazyStar any)) (text s.endMark)))
  | .triplet => s.tripletPattern
  | .triplets =>
    seq textStart (seq (star blank) (seq (plus (hold (seq s.tripletPattern (star blank)))) textEnd))
  | .present => callPattern "ЕСТЬ" "PRESENT" s.referencePattern
  | .presentBare => callPattern "ЕСТЬ" "PRESENT" s.specialReferencePattern
  | .absent => callPattern "НЕТ" "ABSENT" s.referencePattern
  | .absentBare => callPattern "НЕТ" "ABSENT" s.specialReferencePattern

/-- The expression of a shape. -/
def regex (s : Settings) (shape : Shape) : Regex := (s.pattern shape).regex

/-- The prefix and the name of a text that is a reference from its beginning to its end. -/
def wholeReference? (s : Settings) (text : List Char) : Option (List Char × List Char) :=
  match (s.regex .reference).find? text with
  | some m =>
    if m.text.length = text.length then some (m.groupText 1, m.groupText 2) else none
  | none => none

end Settings

end TripletFacts
