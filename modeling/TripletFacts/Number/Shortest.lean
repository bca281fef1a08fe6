import TripletFacts.Number.Binary64

/-!
# Shortest decimals

Among the decimals that round to a given float there is one with the fewest digits, and among
those the one nearest to the float. It lies on the coarsest decimal grid that meets the interval
of the numbers rounding to the float: a multiple of a larger power of ten has fewer digits. The
search goes through the grids from coarse to fine and looks, on each, only at the two neighbours
of the float.

## Main definitions

* `Decimal`: a natural number times a power of ten.
* `Interval`: the numbers that round to a float, in units of `2 ^ (-1076)`.
* `Interval.ofFloat`: the interval of a positive float.
* `Interval.onGrid`: the better neighbour of the float on one grid.
* `Decimal.shortest`: the shortest decimal of a positive float.
-/

namespace TripletFacts

/-- The decimal `digits · 10 ^ exponent`. -/
structure Decimal where
  digits : Nat
  exponent : Int
deriving DecidableEq

/-- Which of two equally near decimals is taken. -/
inductive Tie where
  | up
  | toEven
deriving DecidableEq

/-- The numbers that round to one float: from `low` to `high` around `centre`, in units of
`2 ^ (-1076)`; the ends belong to it exactly if `closed`. -/
structure Interval where
  low : Nat
  centre : Nat
  high : Nat
  closed : Bool

namespace Interval

/-- The interval of `m · 2 ^ s`. The gap below a power of two is half as wide as the gap above,
and the ends round to the even significand. -/
def ofParts (m s : Nat) : Interval where
  low := (if m = Binary64.hiddenBit ∧ 0 < s then 4 * m - 1 else 4 * m - 2) * Nat.pow 2 s
  centre := 4 * m * Nat.pow 2 s
  high := (4 * m + 2) * Nat.pow 2 s
  closed := m % 2 == 0

/-- The interval of the magnitude of a finite float. -/
def ofFloat (x : Float) : Interval :=
  ofParts (Binary64.significand x) (Binary64.scale x)

/-- Whether `num / den` lies in the interval. -/
def contains (I : Interval) (num den : Nat) : Bool :=
  if I.closed then decide (I.low * den ≤ num ∧ num ≤ I.high * den)
  else decide (I.low * den < num ∧ num < I.high * den)

/-- The neighbour of the centre among the multiples of `10 ^ e` that lies in the interval; if both
neighbours do, the nearer one. -/
def onGrid (I : Interval) (tie : Tie) (e : Int) : Option Nat :=
  let den := Nat.pow 10 (-e).toNat
  let unit := Nat.pow 2 1076 * Nat.pow 10 e.toNat
  let centre := I.centre * den
  let below := centre / unit
  let down := I.contains (below * unit) den
  let up := I.contains ((below + 1) * unit) den
  if down && up then
    let twice := 2 * (centre % unit)
    if twice < unit then some below
    else if unit < twice then some (below + 1)
    else match tie with
      | .up => some (below + 1)
      | .toEven => some (if below % 2 = 0 then below else below + 1)
  else if down then some below
  else if up then some (below + 1)
  else none

/-- A power of ten with this exponent lies above the interval: `10 > 2 ^ 3` for large numbers and
`10 ^ 3 < 2 ^ 10` for small ones. -/
def topExponent (I : Interval) : Int :=
  let binary : Int := (I.high.log2 : Int) - 1075
  if 0 ≤ binary then binary / 3 + 1 else -((-binary) / 10 * 3)

/-- The grids from the exponent `e` downwards, at most `n` of them; past the last one the exact
value is given. -/
def firstGrid (I : Interval) (tie : Tie) : Nat → Int → Decimal
  | 0, _ => ⟨I.centre * Nat.pow 5 1076, -1076⟩
  | n + 1, e =>
    match I.onGrid tie e with
    | some c => ⟨c, e⟩
    | none => I.firstGrid tie n (e - 1)

end Interval

/-- The shortest decimal that rounds to the magnitude of `x`, and the nearest to it of that
length. -/
def Decimal.shortest (tie : Tie) (x : Float) : Decimal :=
  let I := Interval.ofFloat x
  I.firstGrid tie 100 I.topExponent

end TripletFacts
