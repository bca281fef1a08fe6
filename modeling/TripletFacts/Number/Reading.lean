import TripletFacts.Number.Shortest

/-!
# Reading numbers

Decimal numerals are read exactly and then rounded once. An integer numeral is an optional sign
and digits; a float numeral may have a point, with digits on at least one side of it, and an
exponent, and the words `inf`, `infinity` and `nan` stand for the numbers that are not finite.

## Main definitions

* `isDigit`, `digitsValue`: decimal digits and the number that they denote.
* `readInt64?`: integer numerals within the 64-bit range.
* `Decimal.read?`: unsigned decimal numerals, exactly.
* `Decimal.toFloat`: the float nearest to a decimal.
* `readFloat?`: float numerals.

## Main results

* `int64?_toInt`: every 64-bit integer is found by its value.
* `digitsValue_toDigits`: the digits of a number denote that number.
-/

namespace TripletFacts

/-! ### Digits -/

/-- A decimal digit of ASCII. -/
def isDigit (c : Char) : Bool := decide ('0' ≤ c ∧ c ≤ '9')

/-- The number that a list of decimal digits denotes. -/
def digitsValue (cs : List Char) : Nat :=
  cs.foldl (fun n c => 10 * n + (c.toNat - '0'.toNat)) 0

/-- The digits of a number denote that number. -/
theorem digitsValue_toDigits (n : Nat) : digitsValue (Nat.toDigits 10 n) = n :=
  Nat.ofDigitChars_toDigits (by decide) (by decide)

theorem all_isDigit_toDigits (n : Nat) : (Nat.toDigits 10 n).all isDigit = true := by
  rw [List.all_eq_true]
  intro c hc
  have h := Nat.isDigit_of_mem_toDigits (by decide) (by decide) hc
  simpa [isDigit, Char.isDigit, Char.le_def] using h

/-! ### Integers -/

/-- The 64-bit integer with a given value, if there is one. -/
def int64? (i : Int) : Option Int64 :=
  if Int64.minValue.toInt ≤ i ∧ i ≤ Int64.maxValue.toInt then some (Int64.ofInt i) else none

/-- Every 64-bit integer is found by its value. -/
theorem int64?_toInt (i : Int64) : int64? i.toInt = some i := by
  rw [int64?, if_pos ⟨Int64.le_iff_toInt_le.1 i.minValue_le, Int64.le_iff_toInt_le.1 i.le_maxValue⟩,
    Int64.ofInt_toInt]

/-- A sign in front of a numeral, and the rest. -/
def splitSign : List Char → Bool × List Char
  | '-' :: cs => (true, cs)
  | '+' :: cs => (false, cs)
  | cs => (false, cs)

/-- The integer that a numeral with a negative or positive sign denotes. -/
def signed (negative : Bool) (n : Nat) : Int := if negative then -(n : Int) else n

/-- Whether a text is an integer numeral: an optional sign and at least one digit. -/
def isIntegerNumeral (cs : List Char) : Bool :=
  let digits := (splitSign cs).2
  !digits.isEmpty && digits.all isDigit

/-- The integer that a numeral denotes, if it has 64 bits. -/
def readInt64? (cs : List Char) : Option Int64 :=
  if isIntegerNumeral cs then
    int64? (signed (splitSign cs).1 (digitsValue (splitSign cs).2))
  else none

theorem splitSign_toDigits (n : Nat) :
    splitSign (Nat.toDigits 10 n) = (false, Nat.toDigits 10 n) := by
  have hall := all_isDigit_toDigits n
  unfold splitSign
  split
  · simp_all [isDigit]
  · simp_all [isDigit]
  · rfl

/-- The digits of an integer that is not negative are read back. -/
theorem readInt64?_toDigits {n : Nat} {i : Int64} (h : i.toInt = n) :
    readInt64? (Nat.toDigits 10 n) = some i := by
  have hd : isIntegerNumeral (Nat.toDigits 10 n) = true := by
    simp [isIntegerNumeral, splitSign_toDigits, all_isDigit_toDigits, Nat.toDigits_ne_nil]
  simp [readInt64?, hd, splitSign_toDigits, digitsValue_toDigits, signed, ← h, int64?_toInt]

/-- The digits of a negative integer are read back after a minus sign. -/
theorem readInt64?_minus_toDigits {n : Nat} {i : Int64} (h : i.toInt = -(n : Int)) :
    readInt64? ('-' :: Nat.toDigits 10 n) = some i := by
  have hd : isIntegerNumeral ('-' :: Nat.toDigits 10 n) = true := by
    simp [isIntegerNumeral, splitSign, all_isDigit_toDigits, Nat.toDigits_ne_nil]
  simp [readInt64?, hd, splitSign, digitsValue_toDigits, signed, ← h, int64?_toInt]

/-! ### Decimals -/

namespace Decimal

/-- The exponent part of a numeral: nothing, or `e` and an integer numeral. -/
def readExponent? : List Char → Option Int
  | [] => some 0
  | c :: cs =>
    if (c == 'e' || c == 'E') && isIntegerNumeral cs then
      some (signed (splitSign cs).1 (digitsValue (splitSign cs).2))
    else none

/-- The fraction part of a numeral: nothing, or a point and digits; the digits and the rest. -/
def splitFraction : List Char → List Char × List Char
  | '.' :: cs => (cs.takeWhile isDigit, cs.dropWhile isDigit)
  | cs => ([], cs)

/-- The decimal that an unsigned numeral denotes. -/
def read? (cs : List Char) : Option Decimal :=
  let whole := cs.takeWhile isDigit
  let (fraction, rest) := splitFraction (cs.dropWhile isDigit)
  if whole.isEmpty && fraction.isEmpty then none
  else (readExponent? rest).map fun e =>
    ⟨digitsValue (whole ++ fraction), e - fraction.length⟩

/-- The float nearest to a decimal, with the given sign. Exponents so large or so small that the
answer is infinity or zero whatever the digits are need no arithmetic. -/
def toFloat (negative : Bool) (d : Decimal) : Float :=
  if d.digits = 0 then Binary64.ofMagnitudeBits negative 0
  else if 400 < d.exponent then Binary64.ofMagnitudeBits negative Binary64.infinityBits
  else if d.exponent + d.digits.log2 + 1 < -400 then Binary64.ofMagnitudeBits negative 0
  else Binary64.ofRatio negative (d.digits * Nat.pow 10 d.exponent.toNat)
    (Nat.pow 10 (-d.exponent).toNat)

end Decimal

/-! ### Floats -/

/-- The small letter of an ASCII capital letter; other characters stay. -/
def asciiLower (c : Char) : Char :=
  if 'A' ≤ c ∧ c ≤ 'Z' then Char.ofNat (c.toNat + 32) else c

/-- The float that a numeral or one of the words `inf`, `infinity` and `nan`, in any case,
denotes. -/
def readFloat? (cs : List Char) : Option Float :=
  let (negative, body) := splitSign cs
  let word := body.map asciiLower
  if word = "inf".toList ∨ word = "infinity".toList then
    some (Binary64.ofMagnitudeBits negative Binary64.infinityBits)
  else if word = "nan".toList then some (Float.ofBits 0x7ff8000000000000)
  else (Decimal.read? body).map (Decimal.toFloat negative)

end TripletFacts
