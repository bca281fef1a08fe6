import TripletFacts.Regex.Search

/-!
# Whether a text has a match

The existence of a match does not depend on the order of preference, and it can be decided without
trying one way after the other: from the positions at which the rest of the work can be done, one
computes the positions at which an expression followed by that rest can be matched. A set of
positions is a list of truth values, one for every position of the text from left to right.

## Main definitions

* `Regex.places`: the characters around every position of a text.
* `Regex.pre`: the positions from which an expression leads into a given set of positions.
* `Regex.accepts`: whether a text has a match.
* `Regex.allMatches`: the matches in a text, if it has any.
-/

namespace TripletFacts.Regex

/-- The characters before and after every position of a text. -/
def places (previous : Option Char) : List Char → List (Option Char × Option Char)
  | [] => [(previous, none)]
  | c :: cs => (previous, some c) :: places (some c) cs

/-- Adds positions until nothing new is found; `n` bounds the number of rounds. -/
def grow (step : List Bool → List Bool) : Nat → List Bool → List Bool
  | 0, set => set
  | n + 1, set =>
    let larger := List.zipWith (· || ·) set (step set)
    if larger == set then set else grow step n larger

/-- A step made a number of times; it is not made again when it changes nothing. -/
def repeatStep (step : List Bool → List Bool) : Nat → List Bool → List Bool
  | 0, set => set
  | n + 1, set =>
    let next := step set
    if next == set then set else repeatStep step n next

/-- The positions from which an expression leads into a set of positions. -/
def pre (around : List (Option Char × Option Char)) : Regex → List Bool → List Bool
  | unit, set => set
  | char test, set =>
    List.zipWith (fun p next => p.2.any test && next) around (set.drop 1 ++ [false])
  | look test, set => List.zipWith (fun p here => test p.1 p.2 && here) around set
  | seq first second, set => first.pre around (second.pre around set)
  | alt left right, set => List.zipWith (· || ·) (left.pre around set) (right.pre around set)
  | group _ body, set => body.pre around set
  | star _ body, set => grow (body.pre around) around.length set
  | times count body, set => repeatStep (body.pre around) count set
  | upTo _ count body, set => grow (body.pre around) count set

/-- Whether some match starts somewhere in the text. -/
def accepts (r : Regex) (text : List Char) : Bool :=
  let around := places none text
  (r.pre around (List.replicate around.length true)).any id

/-- All matches in a text. The ways to match are tried only where some match exists, because a text
without one may have a great many ways to fail. -/
def allMatches (r : Regex) (text : List Char) : List Match :=
  if r.accepts text then r.matchesIn text else []

end TripletFacts.Regex
