import TripletFacts.Condition.Segment
import TripletFacts.Expr.Function
import TripletFacts.Unicode.Numeric

/-!
# Normalizing conditions

The code of a condition may use words and signs that the expression language has under other
names: connectives in another language or in capital letters, `=` for `==`, `<>` for `!=`, `^` for
`**`, and names of functions in capital letters.

## Main definitions

* `replaceText`: a text with every occurrence of another one replaced.
* `doubleEquals`: `==` for every `=` that is no part of another sign.
* `lowerCalls`: names of functions in small letters.
* `normalizeCode`: code in the words of the expression language.
* `balanced`: whether the parentheses of a condition match.
-/

namespace TripletFacts

/-! ### Replacement -/

/-- A text without `skip` characters at its beginning, and with every occurrence of `old` after
them replaced by `new`. -/
def replaceFrom (old new : List Char) : (skip : Nat) → List Char → List Char
  | _, [] => []
  | skip + 1, _ :: cs => replaceFrom old new skip cs
  | 0, c :: cs =>
    if old.isPrefixOf (c :: cs) then new ++ replaceFrom old new (old.length - 1) cs
    else c :: replaceFrom old new 0 cs

/-- A text with every occurrence of `old`, which is not empty, replaced by `new`, from left to
right. -/
def replaceText (old new : String) (text : List Char) : List Char :=
  replaceFrom old.toList new.toList 0 text

/-- Connectives with the words of the expression language for them, in the order in which they are
replaced. -/
def connectives : List (String × String) :=
  [(" или ", " or "), (" ИЛИ ", " or "), (" OR ", " or "),
   (" и ", " and "), (" И ", " and "), (" AND ", " and ")]

/-! ### Signs and calls -/

/-- `==` for every `=` that has none of `=`, `!`, `<` and `>` before it and no `=` after it. -/
def doubleEquals (previous : Option Char) : List Char → List Char
  | [] => []
  | c :: cs =>
    if c = '=' ∧ previous ∉ [some '=', some '!', some '<', some '>'] ∧ cs.head? ≠ some '=' then
      '=' :: '=' :: doubleEquals (some c) cs
    else c :: doubleEquals (some c) cs

/-- Whether a character continues a word. -/
def continuesWord (c : Char) : Bool := Unicode.isAlphanumeric c || c == '_'

/-- A word in small letters if this names a function and a parenthesis follows. -/
def lowerCall (word rest : List Char) : List Char :=
  let lower := word.map asciiLower
  if rest.head? = some '(' ∧ isAllowedFunction (String.ofList lower) then lower else word

/-- The names of called functions in small letters. -/
def lowerCalls : List Char → List Char
  | [] => []
  | c :: cs =>
    if Unicode.isAlphabetic c || c == '_' then
      lowerCall (c :: cs.takeWhile continuesWord) (cs.dropWhile continuesWord) ++
        lowerCalls (cs.dropWhile continuesWord)
    else c :: lowerCalls cs
termination_by cs => cs.length
decreasing_by
  · exact Nat.lt_succ_of_le (List.dropWhile_sublist _).length_le
  · simp

/-- Code in the words and signs of the expression language. -/
def normalizeCode (code : List Char) : List Char :=
  let code := connectives.foldl (fun code (old, new) => replaceText old new code) code
  let code := doubleEquals none (replaceText "<>" "!=" code)
  lowerCalls (replaceText "^" "**" code)

/-! ### Parentheses -/

/-- The number of open parentheses after a text, if there were always enough of them to close. -/
def openAfter (depth : Nat) : List Char → Option Nat
  | [] => some depth
  | c :: cs =>
    if c = '(' then openAfter (depth + 1) cs
    else if c = ')' then
      match depth with
      | 0 => none
      | depth + 1 => openAfter depth cs
    else openAfter depth cs

/-- The code of a text, without its literals. -/
def codeOf (text : List Char) : List Char :=
  ((segments text).filter Segment.isCode).flatMap Segment.text

/-- Whether the parentheses in the code of a text match. -/
def balanced (text : List Char) : Bool := openAfter 0 (codeOf text) == some 0

end TripletFacts
