import TripletFacts.Regex.Basic

/-!
# Searching a text

The matches of an expression in a text are found from left to right. Among the matches the one
that starts first is taken, and at a given start the one that the order of preference puts first;
the search goes on at its end, and an empty match at the very end of the previous match does not
count.

## Main definitions

* `Match`: a match with its groups.
* `Regex.matchAt`, `Regex.findFrom`, `Regex.findAll`: the match at a position, the first match
  from a position on, all matches.
* `Regex.replaceM`: the text with every match replaced.
-/

namespace TripletFacts

/-- A match: the stretch of the text and the stretches of the groups. -/
structure Match where
  span : Span
  captures : Captures

namespace Match

/-- The text of a match. -/
def text (m : Match) : List Char := m.span.text

/-- The text that a group took last, if it took part. -/
def group (m : Match) (index : Nat) : Option (List Char) := (m.captures.lookup index).map Span.text

/-- The text of a group, empty if it did not take part. -/
def groupText (m : Match) (index : Nat) : List Char := (m.group index).getD []

end Match

namespace Regex

/-- The preferred match at a position. -/
def matchAt (r : Regex) (c : Cursor) : Option Match :=
  r.run c [] fun c' g => some ⟨⟨c, c'⟩, g⟩

/-- The first match that starts at a position or after it. -/
def findFrom (r : Regex) (c : Cursor) : Option Match :=
  match r.matchAt c with
  | some m => some m
  | none =>
    match _h : c.next? with
    | some c' => r.findFrom c'
    | none => none
termination_by c.left
decreasing_by exact Cursor.left_lt_of_next? _h

/-- All matches from a position on; `fresh` says that an empty match at the position itself
counts. -/
def findAll (r : Regex) (c : Cursor) (fresh : Bool) : List Match :=
  match r.findFrom c with
  | none => []
  | some m =>
    if _h : m.span.stop.left < c.left then m :: r.findAll m.span.stop false
    else
      match _h' : c.next? with
      | some c' => (if fresh then [m] else []) ++ r.findAll c' true
      | none => if fresh then [m] else []
termination_by c.left
decreasing_by
  · exact _h
  · exact Cursor.left_lt_of_next? _h'

/-- The first match in a text. -/
def find? (r : Regex) (text : List Char) : Option Match := r.findFrom (Cursor.start text)

/-- All matches in a text. -/
def matchesIn (r : Regex) (text : List Char) : List Match := r.findAll (Cursor.start text) true

/-! ### Replacement -/

/-- The text from a position on, with the given matches replaced. -/
def replaceFrom {ε : Type} (f : Match → Except ε (List Char)) (c : Cursor) :
    List Match → Except ε (List Char)
  | [] => .ok c.after
  | m :: ms =>
    match f m with
    | .error e => .error e
    | .ok new =>
      match replaceFrom f m.span.stop ms with
      | .error e => .error e
      | .ok rest => .ok (Span.text ⟨c, m.span.start⟩ ++ new ++ rest)

/-- The text with every match replaced. -/
def replaceM {ε : Type} (r : Regex) (f : Match → Except ε (List Char)) (text : List Char) :
    Except ε (List Char) :=
  replaceFrom f (Cursor.start text) (r.matchesIn text)

end Regex

end TripletFacts
