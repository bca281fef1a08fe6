import TripletFacts.Number.Shortest

/-!
# Texts of floats

A text of a float is made of the digits of its shortest decimal; what remains to be said is when
the digits are written around a point and when with an exponent, and how zero and the numbers
that are not finite look. These decisions are one value of `Layout`.

## Main definitions

* `Layout`: the decisions of a format.
* `Layout.write`: the text of a float in a format.
* `literalText`, `plainText`: the two formats of the language.
-/

namespace TripletFacts

/-- The decisions of a format of floats. -/
structure Layout where
  /-- Whether a number `d.ddd · 10 ^ x` with this `x` is written around a point. -/
  positional : Int → Bool
  /-- Whether an integral number in positional form ends in `.0`. -/
  pointZero : Bool
  /-- Whether a positive exponent is written with a `+`. -/
  plusSign : Bool
  /-- Which of two equally near shortest decimals is written. -/
  tie : Tie

namespace Layout

/-- `n` zeros. -/
def zeros (n : Nat) : List Char := List.replicate n '0'

/-- The digits with the point after the first `point` of them, where `point` may lie before or
after all digits. -/
def around (L : Layout) (digits : List Char) (point : Int) : List Char :=
  if point ≤ 0 then '0' :: '.' :: (zeros (-point).toNat ++ digits)
  else if (digits.length : Int) ≤ point then
    digits ++ zeros (point.toNat - digits.length) ++ (if L.pointZero then ['.', '0'] else [])
  else digits.take point.toNat ++ '.' :: digits.drop point.toNat

/-- The text of an exponent. -/
def exponent (L : Layout) (x : Int) : List Char :=
  if x < 0 then '-' :: Nat.toDigits 10 x.natAbs
  else (if L.plusSign then ['+'] else []) ++ Nat.toDigits 10 x.natAbs

/-- The digits with a point after the first one, and the exponent. -/
def scientific (L : Layout) (digits : List Char) (x : Int) : List Char :=
  match digits with
  | [] => []
  | [d] => d :: 'e' :: L.exponent x
  | d :: ds => d :: '.' :: (ds ++ 'e' :: L.exponent x)

/-- The text of a decimal. -/
def writeDecimal (L : Layout) (d : Decimal) : List Char :=
  let digits := Nat.toDigits 10 d.digits
  let point : Int := digits.length + d.exponent
  if L.positional (point - 1) then L.around digits point else L.scientific digits (point - 1)

/-- The text of a number without its sign. -/
def writeMagnitude (L : Layout) (x : Float) : List Char :=
  if x == 0 then (if L.pointZero then ['0', '.', '0'] else ['0'])
  else L.writeDecimal (Decimal.shortest L.tie x)

/-- The text of a float: `NaN`, `inf` or its digits, with a sign if it is negative. -/
def write (L : Layout) (x : Float) : List Char :=
  if x.isNaN then ['N', 'a', 'N']
  else (if Binary64.isNegative x then ['-'] else []) ++
    (if x.isInf then ['i', 'n', 'f'] else L.writeMagnitude x)

end Layout

/-- Literals of the expression language and values in rendered facts: positional from `1e-4` up
to below `1e16`, always with a point or an exponent. -/
def Layout.literal : Layout where
  positional x := decide (-4 ≤ x ∧ x < 16)
  pointZero := true
  plusSign := false
  tie := .up

/-- Numbers in error messages: positional whatever their size, without a needless point. -/
def Layout.plain : Layout where
  positional _ := true
  pointZero := false
  plusSign := false
  tie := .up

/-- The text of a float as a literal. -/
def literalText (x : Float) : List Char := Layout.literal.write x

/-- The text of a float in a message. -/
def plainText (x : Float) : String := String.ofList (Layout.plain.write x)

end TripletFacts
