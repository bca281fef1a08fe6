/-!
# Exact view of binary64 numbers

A finite `Float` is, up to its sign, `m · 2 ^ s` in units of `2 ^ (-1074)`, the least positive
number. This file takes a float apart into that form, puts it together again, and rounds an
arbitrary quotient of natural numbers to the nearest float. Everything is done with natural
numbers, so that statements about the texts of numbers become statements of arithmetic.

## Main definitions

* `Binary64.significand`, `Binary64.scale`: the numbers `m` and `s` of a finite float.
* `Binary64.roundDiv`: a quotient rounded to the nearest natural number, a half to the even one.
* `Binary64.nearestBits`: the bits of the float nearest to a quotient.
* `Binary64.ofRatio`, `Binary64.ofInt`: the float nearest to a signed quotient, to an integer.
* `Binary64.remainder`: the remainder of the division that truncates the quotient.
-/

namespace TripletFacts.Binary64

/-! ### Fields of a float -/

/-- The leading bit of the significand of a normal number, `2 ^ 52`. -/
def hiddenBit : Nat := Nat.pow 2 52

/-- The bits of `x` without its sign. -/
def magnitudeBits (x : Float) : Nat :=
  x.toBits.toNat % Nat.pow 2 63

/-- Whether the sign bit of `x` is set; `-0.0` counts as negative. -/
def isNegative (x : Float) : Bool :=
  decide (Nat.pow 2 63 ≤ x.toBits.toNat)

/-- The number `s` for which `|x| = m · 2 ^ s` in units of `2 ^ (-1074)`. -/
def scale (x : Float) : Nat :=
  magnitudeBits x / hiddenBit - 1

/-- The number `m` for which `|x| = m · 2 ^ s` in units of `2 ^ (-1074)`. Normal numbers have the
leading bit `hiddenBit`, which is not stored. -/
def significand (x : Float) : Nat :=
  if magnitudeBits x < hiddenBit then magnitudeBits x else magnitudeBits x % hiddenBit + hiddenBit

/-- The bits of the infinite number. -/
def infinityBits : Nat := 2047 * hiddenBit

/-- The float with the given sign and the given bits besides the sign. -/
def ofMagnitudeBits (negative : Bool) (bits : Nat) : Float :=
  Float.ofBits (UInt64.ofNat ((if negative then Nat.pow 2 63 else 0) + bits))

/-! ### Rounding -/

/-- `n / d` rounded to the nearest natural number; a half goes to the even neighbour. -/
def roundDiv (n d : Nat) : Nat :=
  if 2 * (n % d) < d then n / d
  else if d < 2 * (n % d) then n / d + 1
  else if n / d % 2 = 0 then n / d
  else n / d + 1

/-- The bits of the float nearest to `num / den`, a half going to the even neighbour. With
`s` chosen so that the quotient has at most 53 binary digits in units of `2 ^ (s - 1074)`, the
bits are `s · 2 ^ 52` plus the rounded quotient; a carry into the next power of two moves into
the exponent by itself. Quotients beyond the largest float give infinity. -/
def nearestBits (num den : Nat) : Nat :=
  let units := num * Nat.pow 2 1074
  let s := (units / den).log2 - 52
  min (s * hiddenBit + roundDiv units (den * Nat.pow 2 s)) infinityBits

/-- The float nearest to `num / den`, with the given sign. -/
def ofRatio (negative : Bool) (num den : Nat) : Float :=
  ofMagnitudeBits negative (nearestBits num den)

/-- The float nearest to an integer. -/
def ofInt (i : Int) : Float :=
  ofRatio (decide (i < 0)) i.natAbs 1

/-! ### Remainder -/

/-- The remainder of `a / b` with the quotient truncated; it is exact and has the sign of `a`.
There is none for an infinite `a` or a zero `b`, and an infinite `b` leaves `a` as it is. -/
def remainder (a b : Float) : Float :=
  if a.isNaN || b.isNaN || a.isInf || b == 0 then Float.ofBits 0x7ff8000000000000
  else if b.isInf then a
  else
    ofRatio (isNegative a)
      (significand a * Nat.pow 2 (scale a) % (significand b * Nat.pow 2 (scale b)))
      (Nat.pow 2 1074)

end TripletFacts.Binary64
