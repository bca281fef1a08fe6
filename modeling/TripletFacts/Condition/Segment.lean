import TripletFacts.Value

/-!
# Code and literals

The text of a condition is cut into string literals and the code between them. A literal begins
with a single or a double quote and ends with the next quote of this kind that no backslash stands
before; a literal that does not end takes the rest of the text.

## Main definitions

* `Segment`: a stretch of code or a literal.
* `segments`: the segments of a text.
* `mapCode`: a text with its code changed and its literals kept.

## Main results

* `text_segments`: the segments are the text, cut.
* `splitLiteral_escape`: an escaped text is one literal.
-/

namespace TripletFacts

/-- A stretch of a text: code, or a string literal with its quotes. -/
structure Segment where
  isCode : Bool
  text : List Char
deriving DecidableEq

/-- Whether a character begins a literal. -/
def isQuote (c : Char) : Bool := c == '\'' || c == '"'

/-- The text up to the end of a literal, and the rest; `escaped` says that a backslash stands
before the text. -/
def splitLiteral (quote : Char) : (escaped : Bool) → List Char → List Char × List Char
  | _, [] => ([], [])
  | true, c :: cs =>
    let (body, rest) := splitLiteral quote false cs
    (c :: body, rest)
  | false, c :: cs =>
    if c = '\\' then
      let (body, rest) := splitLiteral quote true cs
      (c :: body, rest)
    else if c = quote then ([c], cs)
    else
      let (body, rest) := splitLiteral quote false cs
      (c :: body, rest)

/-- Nothing is lost between a literal and the rest. -/
theorem splitLiteral_append (quote : Char) :
    (escaped : Bool) → (cs : List Char) →
      (splitLiteral quote escaped cs).1 ++ (splitLiteral quote escaped cs).2 = cs
  | _, [] => rfl
  | true, c :: cs => by simp [splitLiteral, splitLiteral_append quote false cs]
  | false, c :: cs => by
      unfold splitLiteral
      split
      · simp [splitLiteral_append quote true cs]
      · split
        · simp
        · simp [splitLiteral_append quote false cs]

theorem length_splitLiteral_le (quote : Char) (escaped : Bool) (cs : List Char) :
    (splitLiteral quote escaped cs).2.length ≤ cs.length := by
  have h := congrArg List.length (splitLiteral_append quote escaped cs)
  rw [List.length_append] at h
  omega

/-- An escaped text ends at the quote after it. -/
theorem splitLiteral_escape (s rest : List Char) :
    splitLiteral '\'' false (Value.escape s ++ '\'' :: rest) =
      (Value.escape s ++ ['\''], rest) := by
  induction s with
  | nil => simp [Value.escape, splitLiteral]
  | cons c cs ih =>
    by_cases h : c = '\\' ∨ c = '\''
    · rcases h with rfl | rfl <;> simp [Value.escape, splitLiteral, ih]
    · have hb : c ≠ '\\' := fun e => h (.inl e)
      have hq : c ≠ '\'' := fun e => h (.inr e)
      simp [Value.escape, splitLiteral, hb, hq, ih]

/-- The segments of a text. -/
def segments : List Char → List Segment
  | [] => []
  | c :: cs =>
    if isQuote c then
      ⟨false, c :: (splitLiteral c false cs).1⟩ :: segments (splitLiteral c false cs).2
    else
      ⟨true, c :: cs.takeWhile (!isQuote ·)⟩ :: segments (cs.dropWhile (!isQuote ·))
termination_by cs => cs.length
decreasing_by
  · exact Nat.lt_succ_of_le (length_splitLiteral_le c false cs)
  · exact Nat.lt_succ_of_le (List.dropWhile_sublist _).length_le

/-- The segments are the text, cut. -/
theorem text_segments (cs : List Char) : (segments cs).flatMap Segment.text = cs := by
  fun_induction segments cs with
  | case1 => rfl
  | case2 c cs h ih => simp [ih, splitLiteral_append]
  | case3 c cs h ih => simp [ih, List.takeWhile_append_dropWhile]

section

variable {ε : Type} (f : List Char → Except ε (List Char))

/-- A segment with its code changed. -/
def Segment.mapCode (s : Segment) : Except ε (List Char) :=
  if s.isCode then f s.text else .ok s.text

/-- A text with its code changed and its literals kept. -/
def mapCode (text : List Char) : Except ε (List Char) :=
  ((segments text).mapM (Segment.mapCode f)).map List.flatten

end

end TripletFacts
