import TripletFacts.Expr.Basic
import TripletFacts.Unicode.Numeric
import TripletFacts.Unicode.Blank

/-!
# Tokens

Expression text is split into tokens: numbers, quoted texts, names, operator symbols, parentheses
and commas. Blanks separate tokens and are dropped. Every token keeps the number of characters in
front of it.

## Main definitions

* `Token`: tokens, and `Placed` tokens with their positions.
* `SyntaxError`: what can be wrong with expression text.
* `Token.read`: the token at the beginning of a text and the number of characters it takes.
* `tokenize`: the tokens of a text.

## Main results

* `Token.readString_escape`: an escaped text is read back.
-/

namespace TripletFacts

/-- Operator symbols; `!` alone is the negation of a truth value. -/
inductive Symbol where
  | binary (op : Operator)
  | bang
deriving DecidableEq

/-- Tokens of expression text. -/
inductive Token where
  | number (n : Number)
  | str (s : String)
  | ident (name : String)
  | op (s : Symbol)
  | lparen
  | rparen
  | comma
deriving DecidableEq

/-- A token and the number of characters in front of it. -/
structure Placed where
  token : Token
  position : Nat
deriving DecidableEq

/-- The way a token is shown. -/
def Token.shown : Token → List Char
  | number n => n.text
  | str s => (Value.str s).literal
  | ident name => name.toList
  | op (.binary o) => o.symbol.toList
  | op .bang => ['!']
  | lparen => ['(']
  | rparen => [')']
  | comma => [',']

/-! ### Errors -/

/-- What can be wrong with expression text. -/
inductive SyntaxError where
  | empty
  | tooManyTokens (position limit : Nat)
  | tooDeep (position limit : Nat)
  | character (position : Nat) (c : Char)
  | halfOperator (c : Char)
  | badNumber (position : Nat) (text : String)
  | hugeNumber (position : Nat) (text : String)
  | openString (position : Nat)
  | openEscape
  | unknownName (position : Nat) (name : String)
  | unexpected (position : Nat) (token : Token)
  | notClosing (position : Nat) (token : Token)
  | notSeparating (position : Nat) (token : Token)
  | noClosing
  | noOperand
  | openArguments
deriving DecidableEq

namespace SyntaxError

private def atPosition (position : Nat) (what : String) : String :=
  "Syntax error at " ++ toString position ++ ": " ++ what

private def atEnd (what : String) : String := "Unexpected end of expression: " ++ what

private def shown (t : Token) : String := String.ofList t.shown

/-- The message of a syntax error. -/
def message : SyntaxError → String
  | empty => atPosition 0 "Empty expression"
  | tooManyTokens p n => atPosition p ("expression is longer than " ++ toString n ++ " tokens")
  | tooDeep p n => atPosition p ("expression is nested deeper than " ++ toString n ++ " levels")
  | character p c => atPosition p ("unexpected character '" ++ c.toString ++ "'")
  | halfOperator c => "Invalid operator: " ++ c.toString
  | badNumber p s => atPosition p ("invalid number '" ++ s ++ "'")
  | hugeNumber p s => atPosition p ("number '" ++ s ++ "' is out of range")
  | openString p => atEnd ("unterminated string starting at " ++ toString p)
  | openEscape => atEnd "unterminated string"
  | unknownName p name => atPosition p ("unknown name '" ++ name ++ "'")
  | unexpected p t => atPosition p ("unexpected '" ++ shown t ++ "'")
  | notClosing p t => atPosition p ("expected ')' to close '(', found '" ++ shown t ++ "'")
  | notSeparating p t => atPosition p ("expected ',' or ')', found '" ++ shown t ++ "'")
  | noClosing => atEnd "expected ')' to close '('"
  | noOperand => atEnd "expected an operand"
  | openArguments => atEnd "unclosed argument list"

end SyntaxError

namespace Token

/-! ### One token -/

/-- The character that stands for `c` after a backslash. -/
def unescape : Char → Char
  | 'n' => '\n'
  | 't' => '\t'
  | 'r' => '\r'
  | c => c

/-- The content of a quoted text up to the closing quote, and the number of characters up to and
with that quote. -/
def readString (start : Nat) (quote : Char) : List Char → Except SyntaxError (List Char × Nat)
  | [] => .error (.openString start)
  | ['\\'] => .error .openEscape
  | '\\' :: c :: cs => (readString start quote cs).map fun (s, n) => (unescape c :: s, n + 2)
  | c :: cs =>
    if c = quote then .ok ([], 1)
    else (readString start quote cs).map fun (s, n) => (c :: s, n + 1)

/-- An escaped text is read back up to its closing quote. -/
theorem readString_escape (start : Nat) (s rest : List Char) :
    readString start '\'' (Value.escape s ++ '\'' :: rest) =
      .ok (s, (Value.escape s).length + 1) := by
  induction s with
  | nil => simp [Value.escape, readString]
  | cons c cs ih =>
    by_cases h : c = '\\' ∨ c = '\''
    · rcases h with rfl | rfl <;> simp [Value.escape, readString, ih, Except.map, unescape]
    · have hb : c ≠ '\\' := fun e => h (.inl e)
      have hq : c ≠ '\'' := fun e => h (.inr e)
      simp only [Value.escape, h, if_false, List.cons_append]
      rw [readString]
      · simp [hq, ih, Except.map]
      · exact fun e _ => hb e
      · exact fun _ _ e _ => hb e

/-- The number of characters of an exponent: `e`, perhaps a sign, and digits. Without digits there
is no exponent. -/
def exponentWidth : List Char → Nat
  | [] => 0
  | e :: cs =>
    if e = 'e' ∨ e = 'E' then
      let sign := match cs with
        | [] => 0
        | s :: _ => if s = '+' ∨ s = '-' then 1 else 0
      match ((cs.drop sign).takeWhile isDigit).length with
      | 0 => 0
      | digits => 1 + sign + digits
    else 0

/-- The number of characters of a fraction: a point and the digits after it. -/
def fractionWidth : List Char → Nat
  | '.' :: cs => 1 + (cs.takeWhile isDigit).length
  | _ => 0

/-- The number of characters of the number at the beginning of a text. -/
def numberWidth (cs : List Char) : Nat :=
  let whole := (cs.takeWhile isDigit).length
  let fraction := fractionWidth (cs.drop whole)
  whole + fraction + exponentWidth (cs.drop (whole + fraction))

/-- The number that a text denotes: digits alone give an integer if it has 64 bits, all else the
nearest float, which has to be finite. -/
def readNumber (position : Nat) (text : List Char) : Except SyntaxError Number :=
  match readInt64? text with
  | some i => .ok (.int i)
  | none =>
    match Decimal.read? text with
    | none => .error (.badNumber position (String.ofList text))
    | some d =>
      let x := d.toFloat false
      if x.isFinite then .ok (.float x)
      else .error (.hugeNumber position (String.ofList text))

/-- Whether a name can begin with this character. -/
def startsName (c : Char) : Bool := Unicode.isAlphabetic c || c == '_'

/-- Whether a name can go on with this character. -/
def continuesName (c : Char) : Bool := Unicode.isAlphanumeric c || c == '_'

/-- The operator symbol at the beginning of a text, and the number of characters after the first
one that belong to it. -/
def readSymbol (position : Nat) (c : Char) (upcoming : Option Char) :
    Except SyntaxError (Symbol × Nat) :=
  match c, upcoming with
  | '*', some '*' => .ok (.binary (.compute .pow), 1)
  | '=', some '=' => .ok (.binary (.compare .eq), 1)
  | '!', some '=' => .ok (.binary (.compare .ne), 1)
  | '<', some '=' => .ok (.binary (.compare .le), 1)
  | '>', some '=' => .ok (.binary (.compare .ge), 1)
  | '&', some '&' => .ok (.binary (.combine .and), 1)
  | '|', some '|' => .ok (.binary (.combine .or), 1)
  | '+', _ => .ok (.binary (.compute .add), 0)
  | '-', _ => .ok (.binary (.compute .sub), 0)
  | '*', _ => .ok (.binary (.compute .mul), 0)
  | '/', _ => .ok (.binary (.compute .div), 0)
  | '%', _ => .ok (.binary (.compute .mod), 0)
  | '<', _ => .ok (.binary (.compare .lt), 0)
  | '>', _ => .ok (.binary (.compare .gt), 0)
  | '!', _ => .ok (.bang, 0)
  | '=', _ | '&', _ | '|', _ => .error (.halfOperator c)
  | _, _ => .error (.character position c)

/-- The token that begins with `c` and goes on in `cs`, and the number of characters of `cs` that
belong to it. -/
def read (position : Nat) (c : Char) (cs : List Char) : Except SyntaxError (Token × Nat) :=
  if c = '(' then .ok (.lparen, 0)
  else if c = ')' then .ok (.rparen, 0)
  else if c = ',' then .ok (.comma, 0)
  else if c = '\'' ∨ c = '"' then
    (readString position c cs).map fun (s, n) => (.str (String.ofList s), n)
  else if isDigit c || (c == '.' && (cs.head?.any isDigit)) then
    let width := numberWidth (c :: cs)
    (readNumber position ((c :: cs).take width)).map fun n => (.number n, width - 1)
  else if startsName c then
    let more := cs.takeWhile continuesName
    .ok (.ident (String.ofList (c :: more)), more.length)
  else (readSymbol position c cs.head?).map fun (s, n) => (.op s, n)

end Token

/-! ### All tokens -/

/-- The tokens of a text that begins at the given position. -/
def tokensFrom (position : Nat) : List Char → Except SyntaxError (List Placed)
  | [] => .ok []
  | c :: cs =>
    if Unicode.isBlank c then tokensFrom (position + 1) cs
    else
      match Token.read position c cs with
      | .error e => .error e
      | .ok (t, n) => (tokensFrom (position + 1 + n) (cs.drop n)).map (⟨t, position⟩ :: ·)
termination_by cs => cs.length

/-- The tokens of a text. -/
def tokenize (text : List Char) : Except SyntaxError (List Placed) := tokensFrom 0 text

end TripletFacts
