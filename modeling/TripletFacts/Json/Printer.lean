import TripletFacts.Json.Basic
import TripletFacts.Number.Layout

/-!
# Writing JSON text

Texts are compact: no blanks between the parts, fields in their order.

## Main definitions

* `Layout.exchange`: the format of floats.
* `Json.quote`: a string in quotes.
* `Json.write`: the text of a value.
-/

namespace TripletFacts

/-- Floats in exchanged data: positional from `1e-5` up to below `1e16`, exponents with a sign,
always with a point or an exponent. -/
def Layout.exchange : Layout where
  positional x := decide (-5 ≤ x ∧ x < 16)
  pointZero := true
  plusSign := true
  tie := .toEven

namespace Json

/-- A hexadecimal digit in small letters. -/
def hexDigit (n : Nat) : Char := Nat.digitChar n

/-- A character inside of quotes. -/
def escapeChar (c : Char) : List Char :=
  if c = '"' then ['\\', '"']
  else if c = '\\' then ['\\', '\\']
  else if c = '\x08' then ['\\', 'b']
  else if c = '\x0c' then ['\\', 'f']
  else if c = '\n' then ['\\', 'n']
  else if c = '\r' then ['\\', 'r']
  else if c = '\t' then ['\\', 't']
  else if c.toNat < 0x20 then
    ['\\', 'u', '0', '0', hexDigit (c.toNat / 16), hexDigit (c.toNat % 16)]
  else [c]

/-- A string in quotes. -/
def quote (s : String) : List Char := '"' :: (s.toList.flatMap escapeChar ++ ['"'])

/-- The text of an integer. -/
def writeInt (i : Int) : List Char :=
  (if i < 0 then ['-'] else []) ++ Nat.toDigits 10 i.natAbs

/-- The text of a float; a number that is not finite has none and is written as `null`. -/
def writeFloat (x : Float) : List Char :=
  if x.isFinite then Layout.exchange.write x else "null".toList

mutual

/-- The text of a value. -/
def write : Json → List Char
  | null => "null".toList
  | bool b => if b then "true".toList else "false".toList
  | int i => writeInt i
  | float x => writeFloat x
  | str s => quote s
  | arr items => '[' :: (writeItems items ++ [']'])
  | obj fields => '\x7b' :: (writeFields fields ++ ['\x7d'])

/-- The items of an array. -/
def writeItems : List Json → List Char
  | [] => []
  | [v] => v.write
  | v :: vs => v.write ++ ',' :: writeItems vs

/-- The fields of an object. -/
def writeFields : List (String × Json) → List Char
  | [] => []
  | [(k, v)] => quote k ++ ':' :: v.write
  | (k, v) :: fields => quote k ++ ':' :: (v.write ++ ',' :: writeFields fields)

end

end Json

end TripletFacts
