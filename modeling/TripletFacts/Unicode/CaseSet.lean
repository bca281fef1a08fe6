import TripletFacts.Unicode.Case
import TripletFacts.Unicode.CharSet

/-!
# Sets of characters in any case

A set is closed under change of case if it has, with a character, all characters that differ from
it only in case.

## Main definitions

* `CharSet.anyCase`: a set with the case variants of its characters.
* `CharSet.anyCaseAscii`: the same among the letters of ASCII.
* `CharSet.variants`: a character and its case variants.
-/

namespace TripletFacts

namespace Unicode

/-- The code points of characters that are not the folded form of their case variants, each with
this form. -/
def foldPairs : List (Nat × Nat) :=
  foldRows.flatMap fun (lo, hi, step, image) =>
    (List.range ((hi - lo) / step + 1)).map fun k => (lo + k * step, image + k * step)

end Unicode

namespace CharSet

open Unicode

/-- A set with one more code point, if it is not there yet. -/
def insertNew (s : CharSet) (n : Nat) : CharSet := if inRanges s.ranges n then s else s.insert n n

/-- A set with the folded forms of its characters. -/
def withFolded (s : CharSet) : CharSet :=
  foldPairs.foldl (fun t (n, image) => if inRanges s.ranges n then t.insertNew image else t) s

/-- A set with the case variants of its characters. -/
def anyCase (s : CharSet) : CharSet :=
  let t := s.withFolded
  foldPairs.foldl (fun u (n, image) => if inRanges t.ranges image then u.insertNew n else u) t

/-- A set with the letters of ASCII that differ from its characters only in case. -/
def anyCaseAscii (s : CharSet) : CharSet :=
  (List.range 26).foldl (fun t k =>
    if inRanges s.ranges (0x41 + k) || inRanges s.ranges (0x61 + k) then
      (t.insertNew (0x41 + k)).insertNew (0x61 + k)
    else t) s

/-- A character and its case variants. -/
def variants (c : Char) : CharSet :=
  (Unicode.variants c).foldl (fun s x => s.insertNew x.toNat) (single c)

end CharSet

end TripletFacts
