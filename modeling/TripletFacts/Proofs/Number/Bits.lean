import Mathlib
import TripletFacts.Number.Binary64

/-!
# Bits of floats

A float is its sign and the rest of its bits.

## Main results

* `Binary64.ofMagnitudeBits_magnitudeBits`: a float is put together from its parts.
* `Binary64.magnitudeBits_lt_of_isFinite`: the bits of a finite float are below those of infinity.
* `Binary64.beq_zero_iff`: which floats are zero.
* `Binary64.neg_ofMagnitudeBits`: the negative of a float differs from it in the sign.
-/

namespace TripletFacts.Binary64

open Float.Model

theorem toNat_toBits (x : Float) :
    x.toBits.toNat = (if isNegative x then Nat.pow 2 63 else 0) + magnitudeBits x := by
  have hlt : x.toBits.toNat < 2 * Nat.pow 2 63 := x.toBits.toNat_lt
  unfold isNegative magnitudeBits
  generalize x.toBits.toNat = n at *
  by_cases h : Nat.pow 2 63 ≤ n
  · rw [decide_eq_true h, if_pos rfl, Nat.mod_eq_sub_mod h, Nat.mod_eq_of_lt (by omega)]
    omega
  · rw [decide_eq_false h, if_neg Bool.false_ne_true, Nat.mod_eq_of_lt (Nat.lt_of_not_le h)]
    omega

/-- A float is put together from its sign and the rest of its bits. -/
theorem ofMagnitudeBits_magnitudeBits (x : Float) :
    ofMagnitudeBits (isNegative x) (magnitudeBits x) = x := by
  rw [ofMagnitudeBits, ← toNat_toBits, UInt64.ofNat_toNat, Float.ofBits_toBits]

/-- The floats that are zero have no bits besides the sign. -/
theorem beq_zero_iff {x : Float} : (x == 0) = true ↔ magnitudeBits x = 0 := by
  constructor
  · intro h
    rcases (Float.beq_iff_ne_nan_and_eq.1 h).2.2 with rfl | ⟨rfl, -⟩ | ⟨rfl, -⟩ <;> rfl
  · intro h
    rw [← ofMagnitudeBits_magnitudeBits x, h]
    cases isNegative x <;> rfl

/-- A finite float is equal to itself. -/
theorem beq_self_of_isFinite {x : Float} (h : x.isFinite = true) : (x == x) = true := by
  have hnan : x ≠ Float.nan := by
    rintro rfl
    cases h
  exact Float.beq_iff_ne_nan_and_eq.2 ⟨hnan, hnan, .inl rfl⟩

/-! ### Fields -/

/-- The sign of a float with a given sign bit. -/
def sign (negative : Bool) : UnpackedFloat.Sign := if negative then .negative else .positive

/-- The bits of a float in its fields: the sign, the exponent and the stored part of the
significand. -/
def fields (negative : Bool) (bits : Nat) : BitVec 64 :=
  UnpackedFloat.packComponents Format.binary64 (sign negative) (BitVec.ofNat 11 (bits / hiddenBit))
    (BitVec.ofNat 52 bits)

theorem toBitVec_ofNat (negative : Bool) {bits : Nat} (h : bits < Nat.pow 2 63) :
    (UInt64.ofNat ((if negative then Nat.pow 2 63 else 0) + bits)).toBitVec =
      fields negative bits := by
  apply BitVec.eq_of_toNat_eq
  unfold fields UnpackedFloat.packComponents
  rw [BitVec.toNat_append, ← Nat.shiftLeft_add_eq_or_of_lt (BitVec.isLt _), BitVec.toNat_append,
    ← Nat.shiftLeft_add_eq_or_of_lt (BitVec.isLt _)]
  have hhidden : hiddenBit = 4503599627370496 := rfl
  have htop : Nat.pow 2 63 = 9223372036854775808 := rfl
  rw [htop] at h
  rw [hhidden, htop]
  simp only [Nat.shiftLeft_eq, BitVec.toNat_ofNat]
  cases negative with
  | true =>
    simp [sign, UnpackedFloat.Sign.toBitVec]
    omega
  | false =>
    simp [sign, UnpackedFloat.Sign.toBitVec]
    omega

theorem magnitudeBits_lt (x : Float) : magnitudeBits x < Nat.pow 2 63 :=
  Nat.mod_lt _ (Nat.two_pow_pos 63)

theorem toBitVec_toBits (x : Float) :
    x.toBits.toBitVec = fields (isNegative x) (magnitudeBits x) := by
  rw [← toBitVec_ofNat _ (magnitudeBits_lt x), ← toNat_toBits, UInt64.ofNat_toNat]

section

variable {bits : Nat}

theorem toNat_exponent (h : bits < Nat.pow 2 63) :
    (BitVec.ofNat 11 (bits / hiddenBit)).toNat = bits / hiddenBit := by
  rw [BitVec.toNat_ofNat]
  exact Nat.mod_eq_of_lt ((Nat.div_lt_iff_lt_mul (by decide)).2 h)

/-- The greatest exponent is that of infinity, and of what is not a number. -/
theorem exponent_eq_neg_one_iff (h : bits < Nat.pow 2 63) :
    BitVec.ofNat 11 (bits / hiddenBit) = -1#11 ↔ infinityBits ≤ bits := by
  have hlt : bits / hiddenBit < 2048 := (Nat.div_lt_iff_lt_mul (by decide)).2 h
  rw [← BitVec.toNat_inj, toNat_exponent h, infinityBits, ← Nat.le_div_iff_mul_le (by decide)]
  change bits / hiddenBit = 2047 ↔ 2047 ≤ bits / hiddenBit
  omega

/-- The least exponent is that of floats without a leading bit. -/
theorem exponent_eq_zero_iff (h : bits < Nat.pow 2 63) :
    BitVec.ofNat 11 (bits / hiddenBit) = 0#11 ↔ bits < hiddenBit := by
  rw [← BitVec.toNat_inj, toNat_exponent h]
  exact Nat.div_eq_zero_iff_lt (by decide)

theorem stored_eq_zero_iff : BitVec.ofNat 52 bits = 0#52 ↔ bits % hiddenBit = 0 := by
  rw [← BitVec.toNat_inj, BitVec.toNat_ofNat]
  rfl

end

/-- The bits of a finite float are below those of infinity. -/
theorem magnitudeBits_lt_of_isFinite {x : Float} (h : x.isFinite = true) :
    magnitudeBits x < infinityBits := by
  refine Nat.lt_of_not_le fun hle => ?_
  have hunpack : (UnpackedFloat.unpack Format.binary64 x.toBits.toBitVec).isFinite = true := h
  rw [toBitVec_toBits, fields, UnpackedFloat.unpack] at hunpack
  simp only [UnpackedFloat.unpackExponent_packComponents] at hunpack
  rw [if_pos ((exponent_eq_neg_one_iff (magnitudeBits_lt x)).2 hle)] at hunpack
  split at hunpack <;> exact absurd hunpack (by simp [UnpackedFloat.isFinite])

/-- The negative of a float in its parts. -/
theorem neg_unpack_fields (negative : Bool) (bits : Nat) :
    (UnpackedFloat.unpack Format.binary64 (fields negative bits)).neg =
      UnpackedFloat.unpack Format.binary64 (fields (!negative) bits) := by
  unfold fields UnpackedFloat.unpack
  simp only [UnpackedFloat.unpackExponent_packComponents,
    UnpackedFloat.unpackMantissa_packComponents, UnpackedFloat.unpackSign_packComponents,
    UnpackedFloat.Sign.ofBitVec_toBitVec]
  split
  · split <;> cases negative <;> rfl
  · split
    · split <;> cases negative <;> rfl
    · cases negative <;> rfl

/-- The absolute value of a float in its parts. -/
theorem abs_unpack_fields (negative : Bool) (bits : Nat) :
    (UnpackedFloat.unpack Format.binary64 (fields negative bits)).abs =
      UnpackedFloat.unpack Format.binary64 (fields false bits) := by
  unfold fields UnpackedFloat.unpack
  simp only [UnpackedFloat.unpackExponent_packComponents,
    UnpackedFloat.unpackMantissa_packComponents, UnpackedFloat.unpackSign_packComponents,
    UnpackedFloat.Sign.ofBitVec_toBitVec]
  split
  · split <;> rfl
  · split
    · split <;> rfl
    · rfl

theorem unpack_ofBits (a : UInt64) :
    (Float.ofBits a).toModel.unpack = UnpackedFloat.unpack Format.binary64 a.toBitVec := by
  have : (Float.ofBits a).toModel.unpack = UnpackedFloat.unpack Format.binary64
    (UnpackedFloat.pack Format.binary64 (UnpackedFloat.unpack Format.binary64 a.toBitVec)) := rfl
  rw [this, UnpackedFloat.pack_unpack]
  split
  · rename_i hnan
    have hfields := of_decide_eq_true hnan
    rw [UnpackedFloat.unpack_packedNaN, UnpackedFloat.unpack]
    simp only [hfields.1, hfields.2, if_pos, if_neg, not_false_eq_true]
  · rfl

theorem unpack_ofMagnitudeBits {bits : Nat} (h : bits < Nat.pow 2 63) (negative : Bool) :
    (ofMagnitudeBits negative bits).toModel.unpack =
      UnpackedFloat.unpack Format.binary64 (fields negative bits) := by
  rw [ofMagnitudeBits, unpack_ofBits, toBitVec_ofNat negative h]

/-- Whether a float is finite does not depend on its sign. -/
theorem isFinite_ofMagnitudeBits {bits : Nat} (h : bits < Nat.pow 2 63) (negative : Bool) :
    (ofMagnitudeBits negative bits).isFinite = (ofMagnitudeBits true bits).isFinite := by
  have hunpack (b : Bool) : (ofMagnitudeBits b bits).isFinite =
      (UnpackedFloat.unpack Format.binary64 (fields b bits)).isFinite :=
    congrArg UnpackedFloat.isFinite (unpack_ofMagnitudeBits h b)
  cases negative with
  | true => rfl
  | false =>
    rw [hunpack, hunpack, show true = !false from rfl, ← neg_unpack_fields]
    cases UnpackedFloat.unpack Format.binary64 (fields false bits) <;> rfl

/-- The negative of a float differs from it in the sign bit. -/
theorem neg_ofMagnitudeBits {bits : Nat} (h : bits < Nat.pow 2 63) (negative : Bool) :
    -ofMagnitudeBits negative bits = ofMagnitudeBits (!negative) bits := by
  have hneg : -ofMagnitudeBits negative bits =
      .ofModel (pack (ofMagnitudeBits negative bits).toModel.unpack.neg) := rfl
  rw [hneg, unpack_ofMagnitudeBits h, neg_unpack_fields, ← toBitVec_ofNat _ h]
  rfl

/-- The absolute value of a float has no sign bit. -/
theorem abs_ofMagnitudeBits {bits : Nat} (h : bits < Nat.pow 2 63) (negative : Bool) :
    (ofMagnitudeBits negative bits).abs = ofMagnitudeBits false bits := by
  have habs : (ofMagnitudeBits negative bits).abs =
      .ofModel (pack (ofMagnitudeBits negative bits).toModel.unpack.abs) := rfl
  rw [habs, unpack_ofMagnitudeBits h, abs_unpack_fields, ← toBitVec_ofNat _ h]
  rfl

end TripletFacts.Binary64
