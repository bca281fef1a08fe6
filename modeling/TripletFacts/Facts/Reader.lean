import TripletFacts.Facts.Basic
import TripletFacts.Facts.Pattern
import TripletFacts.Regex.Accept
import TripletFacts.Triplet.Build

/-!
# Reading facts

Facts are read from the triplets that appear in a text; whatever stands between them is skipped.
The text of a value says what it is: a truth value, a text in quotes, an integer, a float or a
reference. An integer beyond 64 bits is read as a float.

## Main definitions

* `Settings.readValue`: the value that a text denotes, and whether it is asked for.
* `Facts.read`: the facts in a text.
* `Settings.isTripletText`: whether a text consists of triplets.
-/

namespace TripletFacts

namespace Settings

/-! ### Values -/

/-- The rest of a text after the mark of a request, if there is such a mark. -/
def stripBid? (s : Settings) (raw : List Char) : Option (List Char) :=
  let mark := s.bidMark.toList
  if !mark.isEmpty && mark.isPrefixOf raw then some (raw.drop mark.length) else none

/-- The text between two quotes. -/
def unquote? (s : Settings) (raw : List Char) : Option (List Char) :=
  let quote := s.valueQuote.toList
  if !quote.isEmpty && decide (2 * quote.length ≤ raw.length) && quote.isPrefixOf raw &&
      quote.isSuffixOf raw then
    some ((raw.drop quote.length).take (raw.length - 2 * quote.length))
  else none

/-- The characters of float numerals. -/
def isFloatChar (c : Char) : Bool := isDigit c || c ∈ ['.', 'e', 'E', '+', '-']

/-- The number that a text denotes. -/
def readNumber? (raw : List Char) : Option Number :=
  match readInt64? raw with
  | some i => some (.int i)
  | none => if raw.all isFloatChar then (readFloat? raw).map .float else none

/-- The reference that a text denotes. -/
def readReference? (s : Settings) (raw : List Char) : Except FactError (Option Reference) :=
  match s.wholeReference? raw with
  | none => .ok none
  | some (pfx, name) =>
    let draft : Draft := { pfx := String.ofList pfx, name := some (String.ofList name) }
    (draft.build s).map fun t => some t.toReference

/-- The value that a text without the mark of a request denotes; a text that is not empty has to
denote one. -/
def readPlain (s : Settings) (raw : List Char) : Except FactError FactValue :=
  if raw = "True".toList then .ok (.literal (.bool true))
  else if raw = "False".toList then .ok (.literal (.bool false))
  else
    match s.unquote? raw with
    | some text => .ok (.literal (.str (String.ofList text)))
    | none =>
      match readNumber? raw with
      | some n => .ok (.literal n.toValue)
      | none =>
        match s.readReference? raw with
        | .error e => .error e
        | .ok (some r) => .ok (.reference r)
        | .ok none => .error (.badFormat .value (String.ofList raw))

/-- The value that a text denotes, if there is one, and whether it is asked for. -/
def readValue (s : Settings) (raw : List Char) : Except FactError (Option FactValue × Bool) :=
  let (raw, bid) := match s.stripBid? raw with
    | some rest => (rest, true)
    | none => (raw, false)
  if raw.isEmpty then .ok (none, bid) else (s.readPlain raw).map fun v => (some v, bid)

/-! ### Triplets -/

/-- The triplet of a match: its groups are prefix, name, value and comment. -/
def readTriplet (s : Settings) (m : Match) : Except FactError Triplet :=
  match s.readValue (m.groupText 3) with
  | .error e => .error e
  | .ok (value, bid) =>
    let draft : Draft := {
      pfx := String.ofList (m.groupText 1)
      name := (m.group 2).map String.ofList
      value := value.map FactValue.draft
      comment := (m.group 4).map String.ofList
      bid := bid }
    draft.build s

/-- Whether a text consists of triplets, with nothing but blanks around them. -/
def isTripletText (s : Settings) (text : List Char) : Bool := (s.regex .triplets).accepts text

end Settings

/-- The facts in a text. -/
def Facts.read (s : Settings) (text : List Char) : Except FactError Facts :=
  (((s.regex .triplet).matchesIn text).mapM s.readTriplet).map (Facts.empty s).addAll

end TripletFacts
