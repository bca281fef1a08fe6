import TripletFacts.Number.Layout
import TripletFacts.Number.Reading

/-!
# Values

What an expression evaluates to, and what the value of a fact becomes in an expression: truth
values, 64-bit integers, floats and texts.

## Main definitions

* `Number`, `Value`: numbers and values.
* `Value.text`: a value as plain text.
* `Value.literal`, `Value.operandText`: a value as a literal of the expression language, and as an
  operand that is put into a text.
* `Value.equal`: the equality of the language, which compares numbers across their kinds.
* `Value.isTruthy`: what counts as true in a condition.

## Main results

* `readInt64?_integerText`: the text of an integer is read back.
-/

namespace TripletFacts

/-- An integer or a float. -/
inductive Number where
  | int (i : Int64)
  | float (x : Float)
deriving DecidableEq

/-- A value of the expression language. -/
inductive Value where
  | bool (b : Bool)
  | int (i : Int64)
  | float (x : Float)
  | str (s : String)
deriving DecidableEq

/-! ### Numbers -/

/-- A number as a float. -/
def Number.toFloat : Number → Float
  | int i => Binary64.ofInt i.toInt
  | float x => x

/-- The text of an integer. -/
def integerText (i : Int64) : List Char :=
  (if i < 0 then ['-'] else []) ++ Nat.toDigits 10 i.toInt.natAbs

theorem integerText_of_neg {i : Int64} (h : i < 0) :
    integerText i = '-' :: Nat.toDigits 10 i.toInt.natAbs := by
  rw [integerText, if_pos h, List.singleton_append]

theorem integerText_of_not_neg {i : Int64} (h : ¬i < 0) :
    integerText i = Nat.toDigits 10 i.toInt.natAbs := by
  rw [integerText, if_neg h, List.nil_append]

/-- The text of an integer is read back. -/
theorem readInt64?_integerText (i : Int64) : readInt64? (integerText i) = some i := by
  by_cases h : i < 0
  · have hi : i.toInt < 0 := Int64.lt_iff_toInt_lt.1 h
    rw [integerText_of_neg h]
    exact readInt64?_minus_toDigits (by omega)
  · have hi : 0 ≤ i.toInt := Int64.le_iff_toInt_le.1 (Int64.not_lt.1 h)
    rw [integerText_of_not_neg h]
    exact readInt64?_toDigits (by omega)

/-- A number as a value. -/
def Number.toValue : Number → Value
  | int i => .int i
  | float x => .float x

/-- The text of a number. -/
def Number.text : Number → List Char
  | int i => integerText i
  | float x => literalText x

namespace Value

/-! ### Kinds and views -/

/-- The name of the kind of a value. -/
def typeName : Value → String
  | bool _ => "bool"
  | int _ => "int"
  | float _ => "float"
  | str _ => "str"

/-- The number that a value is; truth values are none. -/
def number? : Value → Option Number
  | int i => some (.int i)
  | float x => some (.float x)
  | bool _ | str _ => none

/-- The number that an operand counts as; truth values count as 0 and 1. -/
def operand? : Value → Option Number
  | int i => some (.int i)
  | float x => some (.float x)
  | bool b => some (.int (if b then 1 else 0))
  | str _ => none

/-- Zero, the empty text and `false` do not count as true. -/
def isTruthy : Value → Bool
  | bool b => b
  | int i => i != 0
  | float x => x != 0
  | str s => s != ""

/-- The equality of the language: numbers are equal across their kinds if they are as floats. -/
def equal : Value → Value → Bool
  | bool a, bool b => a == b
  | int a, int b => a == b
  | str a, str b => a == b
  | a, b =>
    match a.number?, b.number? with
    | some m, some n => m.toFloat == n.toFloat
    | _, _ => false

/-! ### Texts -/

/-- The text of a truth value. -/
def boolText (b : Bool) : List Char := if b then "True".toList else "False".toList

/-- A text with a backslash before every backslash and every single quote. -/
def escape : List Char → List Char
  | [] => []
  | c :: cs => if c = '\\' ∨ c = '\'' then '\\' :: c :: escape cs else c :: escape cs

/-- A value as a literal of the expression language. -/
def literal : Value → List Char
  | bool b => boolText b
  | int i => integerText i
  | float x => literalText x
  | str s => '\'' :: (escape s.toList ++ ['\''])

/-- A value as an operand that is put into expression text: a negative number stands in
parentheses, so that no operator before or after it takes a part of it. -/
def operandText (v : Value) : List Char :=
  match v.number?, v.literal with
  | some _, '-' :: digits => '(' :: '-' :: (digits ++ [')'])
  | _, text => text

/-- A value as plain text. -/
def text : Value → List Char
  | str s => s.toList
  | v => v.literal

end Value

end TripletFacts
