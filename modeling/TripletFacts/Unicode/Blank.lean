import TripletFacts.Unicode.Ranges

/-!
# Blanks

The characters with the Unicode property `White_Space`.

## Main definitions

* `Unicode.isBlank`: whether a character is a blank.
* `Unicode.allBlank`: whether a text has no other characters.
-/

namespace TripletFacts.Unicode

/-- The code points with the property `White_Space`. -/
def blankRanges : List (Nat × Nat) :=
  [(0x9, 0xd), (0x20, 0x20), (0x85, 0x85), (0xa0, 0xa0), (0x1680, 0x1680), (0x2000, 0x200a),
   (0x2028, 0x2029), (0x202f, 0x202f), (0x205f, 0x205f), (0x3000, 0x3000)]

/-- Whether a character is a blank. -/
def isBlank (c : Char) : Bool := inRanges blankRanges c.toNat

/-- Whether a text is empty or made of blanks only. -/
def allBlank (cs : List Char) : Bool := cs.all isBlank

end TripletFacts.Unicode
