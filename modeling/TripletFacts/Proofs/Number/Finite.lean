import TripletFacts.Proofs.Number.Bits
import TripletFacts.Proofs.Number.Rounding

/-!
# Finite floats

A float is finite if its bits without the sign are below those of infinity. So its negative and its
absolute value are finite with it. A quotient below a power of two is rounded to bits that are not
far above this power, and an integer of 64 bits is far below infinity.

## Main results

* `Binary64.isFinite_neg`, `Binary64.isFinite_abs`: the sign does not matter.
* `Binary64.div_scale_lt`: quotients are rounded to at most 53 binary digits.
* `Binary64.nearestBits_le`: how large the bits of a rounded quotient are.
* `Binary64.isFinite_ofRatio`: quotients that are rounded to finite floats.
* `Binary64.isFinite_ofInt`: an integer of 64 bits is a finite float.
-/

namespace TripletFacts.Binary64

open Float.Model

/-- The bits below those of infinity are bits of finite floats. -/
theorem isFinite_of_lt {bits : Nat} (h : bits < infinityBits) (negative : Bool) :
    (ofMagnitudeBits negative bits).isFinite = true := by
  have hlt : bits < Nat.pow 2 63 := Nat.lt_trans h (by decide)
  have hunpack : (ofMagnitudeBits negative bits).isFinite =
      (UnpackedFloat.unpack Format.binary64 (fields negative bits)).isFinite :=
    congrArg UnpackedFloat.isFinite
      (unpack_ofMagnitudeBits hlt negative)
  rw [hunpack, fields, UnpackedFloat.unpack]
  simp only [UnpackedFloat.unpackExponent_packComponents]
  rw [if_neg fun hexponent => Nat.not_le.2 h ((exponent_eq_neg_one_iff hlt).1 hexponent)]
  split
  · split <;> rfl
  · rfl

/-- The negative of a finite float is finite. -/
theorem isFinite_neg {x : Float} (h : x.isFinite = true) : (-x).isFinite = true := by
  rw [← ofMagnitudeBits_magnitudeBits x, neg_ofMagnitudeBits (magnitudeBits_lt x)]
  exact isFinite_of_lt (magnitudeBits_lt_of_isFinite h) _

/-- The absolute value of a finite float is finite. -/
theorem isFinite_abs {x : Float} (h : x.isFinite = true) : x.abs.isFinite = true := by
  rw [← ofMagnitudeBits_magnitudeBits x, abs_ofMagnitudeBits (magnitudeBits_lt x)]
  exact isFinite_of_lt (magnitudeBits_lt_of_isFinite h) _

/-- A finite float is a number. -/
theorem isNaN_of_isFinite {x : Float} (h : x.isFinite = true) : x.isNaN = false := by
  change x.toModel.unpack.isFinite = true at h
  change x.toModel.unpack.isNaN = false
  cases hunpack : x.toModel.unpack with
  | notANumber =>
    rw [hunpack] at h
    cases h
  | infinity _ | zero _ | finite _ _ _ _ => rfl

/-! ### Integers -/

theorem roundDiv_le (n d : Nat) : roundDiv n d ≤ n / d + 1 := by
  unfold roundDiv
  repeat' split
  all_goals omega

theorem mul_pow_div_lt {n d j k : Nat} (hd : 0 < d) (h : n < Nat.pow 2 j * d) :
    n * Nat.pow 2 k / d < Nat.pow 2 (j + k) := by
  have hpow : Nat.pow 2 (j + k) = Nat.pow 2 j * Nat.pow 2 k := Nat.pow_add 2 j k
  rw [Nat.div_lt_iff_lt_mul hd, hpow, Nat.mul_right_comm]
  exact Nat.mul_lt_mul_of_pos_right h (Nat.two_pow_pos k)

/-- A quotient is rounded on a scale on which it has at most 53 binary digits. -/
theorem div_scale_lt (units : Nat) {den : Nat} (hden : 0 < den) :
    units / (den * Nat.pow 2 ((units / den).log2 - 52)) < 2 * hiddenBit := by
  generalize hs : (units / den).log2 - 52 = s
  have hdigits : units / den < Nat.pow 2 (52 + (s + 1)) :=
    Nat.lt_of_lt_of_le Nat.lt_log2_self (Nat.pow_le_pow_right (by decide) (by omega))
  have hpos : 0 < den * Nat.pow 2 s := Nat.mul_pos hden (Nat.two_pow_pos s)
  rw [Nat.div_lt_iff_lt_mul hpos, Nat.mul_assoc, Nat.mul_left_comm, ← Interval.mul_pow_succ]
  exact (div_lt_pow_iff hden).1 hdigits

/-- How large the bits of a quotient below a power of two are. -/
theorem nearestBits_le {num den j : Nat} (hden : 0 < den) (h : num < Nat.pow 2 j * den) :
    nearestBits num den ≤ (j + 1023) * hiddenBit := by
  unfold nearestBits
  generalize he : 1074 = e
  have hunits : num * Nat.pow 2 e / den < Nat.pow 2 (j + e) := mul_pow_div_lt hden h
  generalize num * Nat.pow 2 e = units at hunits ⊢
  refine Nat.le_trans (Nat.min_le_left _ _) ?_
  have hquotient := div_scale_lt units hden
  generalize hs : (units / den).log2 - 52 = s at hquotient ⊢
  have hscale : s ≤ j + 1021 := by
    by_cases hzero : units / den = 0
    · rw [hzero, Nat.log2_zero] at hs
      omega
    · have hlog := (Nat.log2_lt hzero).2 hunits
      omega
  have hround := roundDiv_le units (den * Nat.pow 2 s)
  calc s * hiddenBit + roundDiv units (den * Nat.pow 2 s)
      ≤ (j + 1021) * hiddenBit + 2 * hiddenBit :=
        Nat.add_le_add (Nat.mul_le_mul_right _ hscale) (by omega)
    _ = (j + 1023) * hiddenBit := (Nat.add_mul (j + 1021) 2 hiddenBit).symm

/-- A quotient below the greatest power of two that is a float is finite when it is rounded. -/
theorem isFinite_ofRatio {num den j : Nat} (hden : 0 < den) (h : num < Nat.pow 2 j * den)
    (hj : j ≤ 1023) (negative : Bool) : (ofRatio negative num den).isFinite = true := by
  have hlt : (j + 1023) * hiddenBit < infinityBits :=
    Nat.mul_lt_mul_of_pos_right (by omega) (by decide)
  exact isFinite_of_lt (Nat.lt_of_le_of_lt (nearestBits_le hden h) hlt) negative

/-- An integer of 64 bits is a finite float. -/
theorem isFinite_ofInt (i : Int64) : (ofInt i.toInt).isFinite = true := by
  have hlow := i.le_toInt
  have hhigh := i.toInt_lt
  have habs : i.toInt.natAbs < Nat.pow 2 64 := by
    change i.toInt.natAbs < 18446744073709551616
    omega
  exact isFinite_ofRatio Nat.one_pos (by rwa [Nat.mul_one]) (by decide) _

end TripletFacts.Binary64
