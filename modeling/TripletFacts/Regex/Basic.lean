/-!
# Regular expressions and their first match

A regular expression is matched at a position of a text, which has the characters before it and
the characters after it. Where there is a choice, the alternatives are ordered: the left side of
an alternative comes first, a greedy loop tries another round before it ends, a lazy one ends
first. A match is the first way through all choices that lets the rest of the work succeed, so
matching is written with the rest of the work as an argument.

## Main definitions

* `Cursor`: a position in a text.
* `Span`, `Captures`: a stretch of a text, and the stretches that the groups took.
* `Regex`: regular expressions.
* `Regex.run`: the first success among the ordered ways to match.
* `Regex.Matches`: the positions that an expression leads to, whatever the order.

## Main results

* `Regex.Matches.left_le`: matching never moves back.
-/

namespace TripletFacts

/-! ### Positions -/

/-- A position in a text: the characters before it, the nearest one first, the characters after
it, and the number of the latter. -/
@[ext] structure Cursor where
  before : List Char
  after : List Char
  left : Nat
  left_eq : left = after.length

namespace Cursor

/-- The beginning of a text. -/
def start (text : List Char) : Cursor := ⟨[], text, text.length, rfl⟩

/-- The position with the given characters around it. -/
def between (before after : List Char) : Cursor := ⟨before, after, after.length, rfl⟩

/-- The position after the next character. -/
def next? : Cursor → Option Cursor
  | ⟨_, [], _, _⟩ => none
  | ⟨before, c :: after, left, h⟩ => some ⟨c :: before, after, left - 1, by simp [h]⟩

theorem left_lt_of_next? {c c' : Cursor} (h : c.next? = some c') : c'.left < c.left := by
  rcases c with ⟨before, _ | ⟨x, after⟩, left, hl⟩
  · simp [next?] at h
  · simp only [next?, Option.some.injEq] at h
    subst h
    simp [hl]

/-- The character before a position. -/
def previous (c : Cursor) : Option Char := c.before.head?

/-- The character after a position. -/
def upcoming (c : Cursor) : Option Char := c.after.head?

end Cursor

/-- A stretch of a text, from one position to a later one. -/
structure Span where
  start : Cursor
  stop : Cursor

/-- The characters of a stretch. -/
def Span.text (s : Span) : List Char := s.start.after.take (s.start.left - s.stop.left)

/-- The stretches that groups took, the latest first. -/
abbrev Captures := List (Nat × Span)

/-! ### Expressions -/

/-- Regular expressions over characters. A test of one character and a test of the characters
around a position are given as predicates. -/
inductive Regex where
  /-- Matches the empty text. -/
  | unit
  /-- Matches one character. -/
  | char (test : Char → Bool)
  /-- Matches the empty text between the characters that pass a test. -/
  | look (test : Option Char → Option Char → Bool)
  /-- One expression after the other. -/
  | seq (first second : Regex)
  /-- Either expression, the left one preferred. -/
  | alt (left right : Regex)
  /-- An expression whose stretch is kept under a number. -/
  | group (index : Nat) (body : Regex)
  /-- Any number of rounds; a greedy loop prefers more of them, a lazy one fewer. -/
  | star (greedy : Bool) (body : Regex)
  /-- A number of rounds. -/
  | times (count : Nat) (body : Regex)
  /-- At most a number of rounds; a greedy loop prefers more of them, a lazy one fewer. -/
  | upTo (greedy : Bool) (count : Nat) (body : Regex)

namespace Regex

/-! ### The first match -/

section Run

variable {α : Type}

/-- Rounds of a loop, each of which has to take a character. -/
def rounds (greedy : Bool)
    (body : Cursor → Captures → (Cursor → Captures → Option α) → Option α)
    (c : Cursor) (g : Captures) (k : Cursor → Captures → Option α) : Option α :=
  let another := fun (_ : Unit) => body c g fun c' g' =>
    if _h : c'.left < c.left then rounds greedy body c' g' k else none
  if greedy then (another ()).orElse fun _ => k c g
  else (k c g).orElse another
termination_by c.left

/-- A number of rounds. -/
def exactRounds (body : Cursor → Captures → (Cursor → Captures → Option α) → Option α) :
    Nat → Cursor → Captures → (Cursor → Captures → Option α) → Option α
  | 0, c, g, k => k c g
  | n + 1, c, g, k => body c g fun c' g' => exactRounds body n c' g' k

/-- At most a number of rounds. -/
def fewRounds (greedy : Bool)
    (body : Cursor → Captures → (Cursor → Captures → Option α) → Option α) :
    Nat → Cursor → Captures → (Cursor → Captures → Option α) → Option α
  | 0, c, g, k => k c g
  | n + 1, c, g, k =>
    let another := fun (_ : Unit) => body c g fun c' g' => fewRounds greedy body n c' g' k
    if greedy then (another ()).orElse fun _ => k c g
    else (k c g).orElse another

/-- The first success of the rest of the work `k` among the positions that the expression leads
to from `c`, in the order of preference. -/
def run : Regex → Cursor → Captures → (Cursor → Captures → Option α) → Option α
  | unit, c, g, k => k c g
  | char test, c, g, k =>
    match c.next?, c.upcoming with
    | some c', some x => if test x then k c' g else none
    | _, _ => none
  | look test, c, g, k => if test c.previous c.upcoming then k c g else none
  | seq first second, c, g, k => first.run c g fun c' g' => second.run c' g' k
  | alt left right, c, g, k => (left.run c g k).orElse fun _ => right.run c g k
  | group index body, c, g, k => body.run c g fun c' g' => k c' ((index, ⟨c, c'⟩) :: g')
  | star greedy body, c, g, k => rounds greedy body.run c g k
  | times count body, c, g, k => exactRounds body.run count c g k
  | upTo greedy count body, c, g, k => fewRounds greedy body.run count c g k

end Run

/-! ### Positions reached -/

/-- `r.Matches c c'` says that the expression `r` leads from the position `c` to the position
`c'`. -/
inductive Matches : Regex → Cursor → Cursor → Prop where
  | unit (c : Cursor) : Matches .unit c c
  | char {test : Char → Bool} {c c' : Cursor} {x : Char} (hn : c.next? = some c')
      (hx : c.upcoming = some x) (ht : test x = true) : Matches (.char test) c c'
  | look {test : Option Char → Option Char → Bool} {c : Cursor}
      (ht : test c.previous c.upcoming = true) : Matches (.look test) c c
  | seq {r s : Regex} {c c' c'' : Cursor} (hr : Matches r c c') (hs : Matches s c' c'') :
      Matches (.seq r s) c c''
  | altLeft {r s : Regex} {c c' : Cursor} (hr : Matches r c c') : Matches (.alt r s) c c'
  | altRight {r s : Regex} {c c' : Cursor} (hs : Matches s c c') : Matches (.alt r s) c c'
  | group {i : Nat} {r : Regex} {c c' : Cursor} (hr : Matches r c c') :
      Matches (.group i r) c c'
  | stop {b : Bool} {r : Regex} (c : Cursor) : Matches (.star b r) c c
  | again {b : Bool} {r : Regex} {c c' c'' : Cursor} (hr : Matches r c c')
      (hs : Matches (.star b r) c' c'') : Matches (.star b r) c c''
  | timesZero {r : Regex} (c : Cursor) : Matches (.times 0 r) c c
  | timesSucc {n : Nat} {r : Regex} {c c' c'' : Cursor} (hr : Matches r c c')
      (hs : Matches (.times n r) c' c'') : Matches (.times (n + 1) r) c c''
  | upToStop {b : Bool} {n : Nat} {r : Regex} (c : Cursor) : Matches (.upTo b n r) c c
  | upToAgain {b : Bool} {n : Nat} {r : Regex} {c c' c'' : Cursor} (hr : Matches r c c')
      (hs : Matches (.upTo b n r) c' c'') : Matches (.upTo b (n + 1) r) c c''

/-- Matching never moves back. -/
theorem Matches.left_le {r : Regex} {c c' : Cursor} (h : r.Matches c c') : c'.left ≤ c.left := by
  induction h with
  | unit | look | stop | timesZero | upToStop => exact Nat.le_refl _
  | char hn => exact Nat.le_of_lt (Cursor.left_lt_of_next? hn)
  | seq _ _ ih₁ ih₂ | again _ _ ih₁ ih₂ | timesSucc _ _ ih₁ ih₂ | upToAgain _ _ ih₁ ih₂ =>
    exact Nat.le_trans ih₂ ih₁
  | altLeft _ ih | altRight _ ih | group _ ih => exact ih

/-! ### Derived expressions -/

/-- At least one round. -/
def plus (greedy : Bool) (r : Regex) : Regex := seq r (star greedy r)

/-- The characters of a text, one after the other. -/
def literal : List Char → Regex
  | [] => unit
  | [c] => char (· == c)
  | c :: cs => seq (char (· == c)) (literal cs)

end Regex

end TripletFacts
