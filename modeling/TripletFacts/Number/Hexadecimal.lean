/-!
# Hexadecimal numbers

## Main definitions

* `hexDigit?`: the value of a hexadecimal digit.
* `hexValue?`: the number that hexadecimal digits denote.
* `hexChar?`: the character whose code point they denote.
-/

namespace TripletFacts

/-- The value of a hexadecimal digit. -/
def hexDigit? (c : Char) : Option Nat :=
  if '0' ≤ c ∧ c ≤ '9' then some (c.toNat - 48)
  else if 'a' ≤ c ∧ c ≤ 'f' then some (c.toNat - 87)
  else if 'A' ≤ c ∧ c ≤ 'F' then some (c.toNat - 55)
  else none

/-- The number that hexadecimal digits denote. -/
def hexValue? (cs : List Char) : Option Nat :=
  cs.foldl (fun n c => n.bind fun n => (hexDigit? c).map (16 * n + ·)) (some 0)

/-- The character whose code point hexadecimal digits denote. -/
def hexChar? (cs : List Char) : Option Char :=
  if cs.isEmpty then none
  else (hexValue? cs).bind fun n => if h : n.isValidChar then some (Char.ofNatAux n h) else none

end TripletFacts
