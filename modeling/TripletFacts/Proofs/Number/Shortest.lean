import TripletFacts.Number.Reading
import TripletFacts.Proofs.Number.Bits
import TripletFacts.Proofs.Number.Rounding

/-!
# Shortest decimals are read back

The shortest decimal of a float lies in the interval of the float, so that it is rounded to the
float again.

## Main definitions

* `Interval.Holds`: a decimal lies in an interval.

## Main results

* `Interval.holds_firstGrid`: the search ends within the interval.
* `Decimal.toFloat_of_holds`: a decimal in the interval of a float is read as that float.
* `Decimal.toFloat_shortest`: in particular the shortest one, also with zeros behind its digits.
-/

namespace TripletFacts

open Binary64

theorem ten_pow_pos (n : Nat) : 0 < Nat.pow 10 n := Nat.pow_pos (by decide)

theorem ten_pow_le {n k : Nat} (h : n ≤ k) : Nat.pow 10 n ≤ Nat.pow 10 k :=
  Nat.pow_le_pow_right (by decide) h

namespace Interval

/-! ### Decimals within an interval -/

/-- A decimal lies in an interval. -/
def Holds (I : Interval) (d : Decimal) : Prop :=
  I.contains (d.digits * (Nat.pow 2 1076 * Nat.pow 10 d.exponent.toNat))
    (Nat.pow 10 (-d.exponent).toNat) = true

theorem Holds.contains {I : Interval} {d : Decimal} (h : I.Holds d) :
    I.contains (d.digits * Nat.pow 10 d.exponent.toNat * Nat.pow 2 1076)
      (Nat.pow 10 (-d.exponent).toNat) = true := by
  unfold Holds at h
  generalize Nat.pow 2 1076 = unit at *
  rwa [Nat.mul_assoc, Nat.mul_comm _ unit]

/-- A grid gives a number of the interval. -/
theorem holds_of_onGrid {I : Interval} {tie : Tie} {e : Int} {c : Nat}
    (h : I.onGrid tie e = some c) : I.Holds ⟨c, e⟩ := by
  unfold onGrid at h
  unfold Holds
  dsimp only at h ⊢
  split at h
  · rename_i hboth
    rw [Bool.and_eq_true] at hboth
    split at h
    · cases h
      exact hboth.1
    · split at h
      · cases h
        exact hboth.2
      · split at h
        · cases h
          exact hboth.2
        · cases h
          split
          · exact hboth.1
          · exact hboth.2
  · split at h
    · rename_i hdown
      cases h
      exact hdown
    · split at h
      · rename_i hup
        cases h
        exact hup
      · cases h
/-- The interval of a positive float does not reach zero. -/
theorem low_pos {m : Nat} (hm : 0 < m) (s : Nat) : 0 < (ofParts m s).low := by
  refine Nat.mul_pos ?_ (Nat.two_pow_pos s)
  split <;> omega

/-- The interval of a positive float has its centre within. -/
theorem contains_centre {m s den : Nat} (hm : 0 < m) (hden : 0 < den) :
    (ofParts m s).contains ((ofParts m s).centre * den) den = true := by
  have hlow : (ofParts m s).low < (ofParts m s).centre := by
    refine Nat.mul_lt_mul_of_pos_right ?_ (Nat.two_pow_pos s)
    split <;> omega
  have hhigh : (ofParts m s).centre < (ofParts m s).high :=
    Nat.mul_lt_mul_of_pos_right (by omega) (Nat.two_pow_pos s)
  unfold contains
  split
  · exact decide_eq_true ⟨Nat.mul_le_mul_right den (Nat.le_of_lt hlow),
      Nat.mul_le_mul_right den (Nat.le_of_lt hhigh)⟩
  · exact decide_eq_true ⟨Nat.mul_lt_mul_of_pos_right hlow hden,
      Nat.mul_lt_mul_of_pos_right hhigh hden⟩

/-- The exact value of a float has as many decimals as binary places. -/
theorem contains_exact {m s : Nat} (hm : 0 < m) (k : Nat) :
    (ofParts m s).contains ((ofParts m s).centre * Nat.pow 5 k * (Nat.pow 2 k * Nat.pow 10 0))
      (Nat.pow 10 k) = true := by
  have hpow : Nat.pow 5 k * (Nat.pow 2 k * Nat.pow 10 0) = Nat.pow 10 k := by
    rw [show Nat.pow 10 0 = 1 from rfl, Nat.mul_one]
    exact (Nat.mul_pow 5 2 k).symm
  rw [Nat.mul_assoc, hpow]
  exact contains_centre hm (ten_pow_pos k)

/-- The search ends within the interval. -/
theorem holds_firstGrid {m s : Nat} (hm : 0 < m) (tie : Tie) (n : Nat) (e : Int) :
    (ofParts m s).Holds ((ofParts m s).firstGrid tie n e) := by
  induction n generalizing e with
  | zero =>
    rw [firstGrid, Holds]
    dsimp only
    rw [show (-1076 : Int).toNat = 0 from rfl, show (- -1076 : Int).toNat = 1076 from rfl]
    generalize 1076 = k
    exact contains_exact hm k
  | succ n ih =>
    rw [firstGrid]
    split
    · rename_i h
      exact holds_of_onGrid h
    · exact ih _

/-! ### Equal decimals -/

/-- Whether a quotient lies in an interval does not depend on how it is written. -/
theorem contains_congr {I : Interval} {num den num' den' : Nat} (hden : 0 < den) (hden' : 0 < den')
    (h : num * den' = num' * den) : I.contains num den = I.contains num' den' := by
  have hlow : I.low * den ≤ num ↔ I.low * den' ≤ num' := by
    rw [← Nat.mul_le_mul_right_iff hden', h, Nat.mul_right_comm, Nat.mul_le_mul_right_iff hden]
  have hhigh : num ≤ I.high * den ↔ num' ≤ I.high * den' := by
    rw [← Nat.mul_le_mul_right_iff hden', h, Nat.mul_right_comm, Nat.mul_le_mul_right_iff hden]
  have hlow' : I.low * den < num ↔ I.low * den' < num' := by
    rw [← Nat.mul_lt_mul_right hden', h, Nat.mul_right_comm, Nat.mul_lt_mul_right hden]
  have hhigh' : num < I.high * den ↔ num' < I.high * den' := by
    rw [← Nat.mul_lt_mul_right hden', h, Nat.mul_right_comm, Nat.mul_lt_mul_right hden]
  unfold contains
  simp only [hlow, hhigh, hlow', hhigh']

/-- Zeros behind the digits of a decimal do not change it. -/
theorem Holds.append_zeros {I : Interval} {d : Decimal} (h : I.Holds d) (k : Nat) :
    I.Holds ⟨d.digits * Nat.pow 10 k, d.exponent - k⟩ := by
  unfold Holds at *
  dsimp only
  rw [← h]
  refine contains_congr (ten_pow_pos _) (ten_pow_pos _) ?_
  have hpow (a b : Nat) : Nat.pow 10 (a + b) = Nat.pow 10 a * Nat.pow 10 b := Nat.pow_add 10 a b
  have hexponent : k + (d.exponent - k).toNat + (-d.exponent).toNat =
      d.exponent.toNat + (-(d.exponent - k)).toNat := by omega
  have hpow' := congrArg (Nat.pow 10) hexponent
  rw [hpow, hpow, hpow] at hpow'
  generalize Nat.pow 2 1076 = unit
  calc
    _ = d.digits * unit * (Nat.pow 10 k * Nat.pow 10 (d.exponent - k).toNat *
          Nat.pow 10 (-d.exponent).toNat) := by ac_rfl
    _ = d.digits * unit * (Nat.pow 10 d.exponent.toNat * Nat.pow 10 (-(d.exponent - k)).toNat) := by
      rw [hpow']
    _ = _ := by ac_rfl

end Interval

namespace Decimal

section

variable {m s : Nat} (h : IsParts m s) {d : Decimal} (hd : (Interval.ofParts m s).Holds d)

include h hd

theorem digits_pos_of_holds : 0 < d.digits := by
  refine Nat.pos_of_ne_zero fun hzero => ?_
  have hlow := (Interval.le_of_contains hd).1
  have hpos := Nat.mul_pos (Interval.low_pos h.pos s) (ten_pow_pos (-d.exponent).toNat)
  generalize Nat.pow 2 1076 = unit at hlow
  rw [hzero, Nat.zero_mul] at hlow
  omega

/-- Decimals with a large exponent are above all finite floats. -/
theorem exponent_le_of_holds : d.exponent ≤ 400 := by
  refine Int.not_lt.1 fun hlarge => ?_
  have hdigits := digits_pos_of_holds h hd
  have hhigh := (Interval.le_of_contains hd).2.1
  have hscale := h.scale_le
  have hlarge' : 401 ≤ d.exponent.toNat := by omega
  have hclosed : 8 * hiddenBit * Nat.pow 2 2046 < Nat.pow 2 1076 * Nat.pow 10 401 := by
    decide +kernel
  generalize Nat.pow 2 1076 = unit at hhigh hclosed
  generalize 401 = k at hlarge' hclosed
  generalize 2046 = t at hscale hclosed
  refine Nat.lt_irrefl _ (Nat.lt_of_lt_of_le hclosed ?_)
  calc
    unit * Nat.pow 10 k ≤ unit * Nat.pow 10 d.exponent.toNat :=
      Nat.mul_le_mul_left unit (ten_pow_le hlarge')
    _ ≤ d.digits * (unit * Nat.pow 10 d.exponent.toNat) := Nat.le_mul_of_pos_left _ hdigits
    _ ≤ (Interval.ofParts m s).high * Nat.pow 10 (-d.exponent).toNat := hhigh
    _ = (4 * m + 2) * Nat.pow 2 s := by
      rw [show (-d.exponent).toNat = 0 by omega]
      exact Nat.mul_one _
    _ ≤ 8 * hiddenBit * Nat.pow 2 t := by
      have := h.lt
      exact Nat.mul_le_mul (by omega) (Nat.pow_le_pow_right (by decide) hscale)

/-- Decimals with few digits and a small exponent are below all positive floats. -/
theorem exponent_ge_of_holds : -400 ≤ d.exponent + d.digits.log2 + 1 := by
  refine Int.not_lt.1 fun hsmall => ?_
  have hlow := (Interval.le_of_contains hd).1
  have hpos := Interval.low_pos h.pos s
  have hsmall' : d.digits.log2 + 1 + 401 ≤ (-d.exponent).toNat := by omega
  have hdigits : d.digits < Nat.pow 2 (d.digits.log2 + 1) := Nat.lt_log2_self
  have hclosed : Nat.pow 2 1076 < Nat.pow 10 401 := by decide +kernel
  generalize Nat.pow 2 1076 = unit at hlow hclosed
  generalize 401 = k at hsmall' hclosed
  generalize d.digits.log2 + 1 = n at hdigits hsmall'
  refine Nat.lt_irrefl (d.digits * unit) ?_
  calc
    d.digits * unit < Nat.pow 2 n * Nat.pow 10 k :=
      Nat.mul_lt_mul_of_lt_of_le hdigits (Nat.le_of_lt hclosed) (ten_pow_pos k)
    _ ≤ Nat.pow 10 n * Nat.pow 10 k :=
      Nat.mul_le_mul_right _ (Nat.pow_le_pow_left (by decide) n)
    _ = Nat.pow 10 (n + k) := (Nat.pow_add 10 n k).symm
    _ ≤ Nat.pow 10 (-d.exponent).toNat := ten_pow_le hsmall'
    _ ≤ (Interval.ofParts m s).low * Nat.pow 10 (-d.exponent).toNat :=
      Nat.le_mul_of_pos_left _ hpos
    _ ≤ d.digits * (unit * Nat.pow 10 d.exponent.toNat) := hlow
    _ = d.digits * unit := by
      rw [show d.exponent.toNat = 0 by omega, show Nat.pow 10 0 = 1 from rfl, Nat.mul_one]

/-- A decimal in the interval of a float is read as that float. -/
theorem toFloat_of_holds (negative : Bool) :
    d.toFloat negative = ofMagnitudeBits negative (s * hiddenBit + m) := by
  have hbits : nearestBits (d.digits * Nat.pow 10 d.exponent.toNat)
      (Nat.pow 10 (-d.exponent).toNat) = s * hiddenBit + m :=
    Interval.nearestBits_of_contains h (ten_pow_pos _) hd.contains
  rw [toFloat, if_neg (Nat.ne_of_gt (digits_pos_of_holds h hd)),
    if_neg (Int.not_lt.2 (exponent_le_of_holds h hd)),
    if_neg (Int.not_lt.2 (exponent_ge_of_holds h hd)), ofRatio, hbits]

end

theorem holds_shortest {x : Float} (h : 0 < significand x) (tie : Tie) :
    (Interval.ofFloat x).Holds (shortest tie x) :=
  Interval.holds_firstGrid h tie 100 _

/-- The shortest decimal of a float is read as the bits of that float, also with zeros behind its
digits. -/
theorem toFloat_shortest {x : Float} (hfinite : x.isFinite = true) (hzero : (x == 0) = false)
    (tie : Tie) (k : Nat) (negative : Bool) :
    toFloat negative ⟨(shortest tie x).digits * Nat.pow 10 k, (shortest tie x).exponent - k⟩ =
      ofMagnitudeBits negative (magnitudeBits x) := by
  have hpos : 0 < magnitudeBits x := by
    refine Nat.pos_of_ne_zero fun hbits => ?_
    rw [beq_zero_iff.2 hbits] at hzero
    cases hzero
  have hparts := isParts_of_magnitudeBits hpos (magnitudeBits_lt_of_isFinite hfinite)
  rw [toFloat_of_holds hparts ((holds_shortest hparts.pos tie).append_zeros k),
    scale_mul_add_significand]

end Decimal

end TripletFacts
