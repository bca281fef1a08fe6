/-!
# Encoded characters

A character is encoded as one to four bytes, the first of which tells their number. The encodings
of the characters from one code point to another are covered by sequences of byte ranges: a
sequence stands for all encodings whose bytes lie in its ranges one by one.

## Main definitions

* `Unicode.encodedLength`: the number of bytes of a code point.
* `Unicode.encodings`: the sequences of byte ranges that cover a range of code points.
-/

namespace TripletFacts.Unicode

/-- The number of bytes of a code point. -/
def encodedLength (n : Nat) : Nat :=
  if n < 0x80 then 1 else if n < 0x800 then 2 else if n < 0x10000 then 3 else 4

/-- A range of bytes. -/
abbrev ByteRange := Nat × Nat

/-- The sequences of byte ranges for the values from `lo` to `hi`, which are written with six bits
in each of `n` bytes after the first one. The first byte is `base` and the bits that are left. -/
def valueEncodings : (n base lo hi : Nat) → List (List ByteRange)
  | 0, base, lo, hi => [[(base + lo, base + hi)]]
  | n + 1, base, lo, hi =>
    let unit := Nat.pow 64 (n + 1)
    let a := lo / unit
    let b := hi / unit
    if a = b then
      (valueEncodings n 0x80 (lo % unit) (hi % unit)).map ((base + a, base + a) :: ·)
    else
      let first :=
        if lo % unit = 0 then []
        else
          (valueEncodings n 0x80 (lo % unit) (unit - 1)).map ((base + a, base + a) :: ·)
      let last :=
        if hi % unit = unit - 1 then []
        else (valueEncodings n 0x80 0 (hi % unit)).map ((base + b, base + b) :: ·)
      let a := if lo % unit = 0 then a else a + 1
      let b := if hi % unit = unit - 1 then b + 1 else b
      let middle :=
        if a < b then
          (valueEncodings n 0x80 0 (unit - 1)).map ((base + a, base + b - 1) :: ·)
        else []
      first ++ middle ++ last

/-- The code points whose encodings have the same length, with the number of bytes after the first
one and the lowest first byte. The code points from `d800` to `dfff` are no characters. -/
def encodingPlanes : List (Nat × Nat × Nat × Nat) :=
  [(0, 0x7f, 0, 0), (0x80, 0x7ff, 1, 0xc0), (0x800, 0xd7ff, 2, 0xe0), (0xe000, 0xffff, 2, 0xe0),
   (0x10000, 0x10ffff, 3, 0xf0)]

/-- The sequences of byte ranges for the characters from one code point to another, in ascending
order. -/
def encodings (lo hi : Nat) : List (List ByteRange) :=
  encodingPlanes.flatMap fun (first, last, n, base) =>
    if max lo first ≤ min hi last then valueEncodings n base (max lo first) (min hi last) else []

end TripletFacts.Unicode
