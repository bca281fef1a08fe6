import TripletFacts.Proofs.Number.Finite
import TripletFacts.Proofs.Number.Shortest

/-!
# The order of floats

The floats that are numbers are ordered as their bits without the sign are, taken with the sign as
integers: positive floats by their scales and, on one scale, by their significands, and both zeros
are one number. A float that is not a number has greater bits than infinity and is in no order.

Rounding to the nearest float keeps this order. On one scale the rounded quotients are in order, and
a carry on a lower scale leads at most to the first number on the next one. So different integers
may become one float, but never change places. Up to `2 ^ 53` no integer is rounded.

## Main definitions

* `Binary64.signedBits`: the bits of a float with its sign, as an integer.

## Main results

* `Binary64.compare_unpack`: two numbers are compared as their bits.
* `Binary64.lt_iff_signedBits_lt`, `Binary64.beq_iff_signedBits_eq`: the operators of comparison.
* `Binary64.nearestBits_mono`, `Binary64.signedBits_ofInt_mono`: rounding keeps the order.
* `Binary64.nearestBits_injective`, `Binary64.signedBits_ofInt_injective`: different integers up to
  `2 ^ 53` are different floats.
-/

namespace TripletFacts.Binary64

open Float.Model

variable {x y : Float}

/-! ### Forms of numbers -/

theorem unpack_toModel (x : Float) : x.toModel.unpack =
    UnpackedFloat.unpack Format.binary64 (fields (isNegative x) (magnitudeBits x)) := by
  rw [← toBitVec_toBits]
  rfl

/-- A float that is a number has bits up to those of infinity. -/
theorem magnitudeBits_le_of_isNaN (h : x.isNaN = false) : magnitudeBits x ≤ infinityBits := by
  refine Nat.le_of_not_lt fun hlt => ?_
  have hstored : BitVec.ofNat 52 (magnitudeBits x) ≠ 0#52 := by
    have hbits := magnitudeBits_lt x
    have hhidden : hiddenBit = 4503599627370496 := rfl
    have hinfinity : infinityBits = 2047 * 4503599627370496 := rfl
    have htop : Nat.pow 2 63 = 2048 * 4503599627370496 := rfl
    rw [ne_eq, stored_eq_zero_iff, hhidden]
    omega
  have hnan : x.toModel.unpack.isNaN = false := h
  rw [unpack_toModel, fields, UnpackedFloat.unpack] at hnan
  simp only [UnpackedFloat.unpackExponent_packComponents,
    UnpackedFloat.unpackMantissa_packComponents] at hnan
  rw [if_pos ((exponent_eq_neg_one_iff (magnitudeBits_lt x)).2 (Nat.le_of_lt hlt)),
    if_neg hstored] at hnan
  cases hnan

theorem unpack_of_eq_infinityBits (h : magnitudeBits x = infinityBits) :
    x.toModel.unpack = .infinity (sign (isNegative x)) := by
  rw [unpack_toModel, h]
  cases isNegative x <;> rfl

theorem unpack_of_eq_zero (h : magnitudeBits x = 0) :
    x.toModel.unpack = .zero (sign (isNegative x)) := by
  rw [unpack_toModel, h]
  cases isNegative x <;> rfl

theorem unpack_of_pos (hpos : 0 < magnitudeBits x) (hlt : magnitudeBits x < infinityBits) :
    ∃ h, x.toModel.unpack =
      .finite (sign (isNegative x)) (significand x) (scale x - 1074) h := by
  have hbits := magnitudeBits_lt x
  rw [unpack_toModel, significand, scale]
  generalize magnitudeBits x = bits at *
  unfold fields UnpackedFloat.unpack
  simp only [UnpackedFloat.unpackExponent_packComponents,
    UnpackedFloat.unpackMantissa_packComponents, UnpackedFloat.unpackSign_packComponents,
    UnpackedFloat.Sign.ofBitVec_toBitVec, exponent_eq_neg_one_iff hbits,
    exponent_eq_zero_iff hbits, stored_eq_zero_iff, toNat_exponent hbits]
  rw [if_neg (Nat.not_le.2 hlt)]
  by_cases hsub : bits < hiddenBit
  · have hstored : (BitVec.ofNat 52 bits).toNat = bits := by
      rw [BitVec.toNat_ofNat]
      exact Nat.mod_eq_of_lt hsub
    have hne : ¬bits % hiddenBit = 0 := by
      rw [Nat.mod_eq_of_lt hsub]
      exact Nat.ne_of_gt hpos
    simp only [if_pos hsub, dif_neg hne, hstored, Nat.div_eq_of_lt hsub]
    exact ⟨hpos, rfl⟩
  · have hquotient : 0 < bits / hiddenBit := Nat.div_pos (Nat.le_of_not_lt hsub) (by decide)
    have hsignificand : (1#1 ++ BitVec.ofNat 52 bits).toNat = bits % hiddenBit + hiddenBit := by
      rw [BitVec.toNat_append, ← Nat.shiftLeft_add_eq_or_of_lt (BitVec.isLt _), Nat.add_comm]
      rfl
    simp only [if_neg hsub, hsignificand]
    refine ⟨Nat.add_pos_right _ (by decide), ?_⟩
    congr 1
    change ((bits / hiddenBit : Nat) : Int) - (1023 + 52) = _
    omega

/-- A number is infinite, zero, or has a significand and a scale. -/
theorem unpack_cases (h : x.isNaN = false) :
    (magnitudeBits x = infinityBits ∧ x.toModel.unpack = .infinity (sign (isNegative x))) ∨
      (magnitudeBits x = 0 ∧ x.toModel.unpack = .zero (sign (isNegative x))) ∨
      (0 < magnitudeBits x ∧ magnitudeBits x < infinityBits ∧ ∃ h, x.toModel.unpack =
        .finite (sign (isNegative x)) (significand x) (scale x - 1074) h) := by
  rcases Nat.eq_or_lt_of_le (magnitudeBits_le_of_isNaN h) with heq | hlt
  · exact .inl ⟨heq, unpack_of_eq_infinityBits heq⟩
  · rcases Nat.eq_zero_or_pos (magnitudeBits x) with hzero | hpos
    · exact .inr (.inl ⟨hzero, unpack_of_eq_zero hzero⟩)
    · exact .inr (.inr ⟨hpos, hlt, unpack_of_pos hpos hlt⟩)

/-! ### The order -/

/-- The bits of a float with its sign, as an integer. -/
def signedBits (x : Float) : Int :=
  if isNegative x then -(magnitudeBits x : Int) else magnitudeBits x

/-- Positive floats are in the order of their scales and, on one scale, of their significands. -/
theorem compare_parts {m s n t : Nat} (h : IsParts m s) (h' : IsParts n t) :
    (compare ((s : Int) - 1074) (t - 1074)).then (compare m n) =
      compare (s * hiddenBit + m) (t * hiddenBit + n) := by
  have hlt {m s n t : Nat} (h : IsParts m s) (h' : IsParts n t) (hst : s < t) :
      s * hiddenBit + m < t * hiddenBit + n := by
    have hmul := Nat.mul_le_mul_right hiddenBit hst
    have hm := h.lt
    have hn := h'.normal (by omega)
    rw [Nat.succ_mul] at hmul
    omega
  rcases Nat.lt_trichotomy s t with hst | rfl | hst
  · rw [compare_lt_iff_lt.2 (by omega), compare_lt_iff_lt.2 (hlt h h' hst)]
    rfl
  · rw [compare_eq_iff_eq.2 rfl, Ordering.eq_then]
    rcases Nat.lt_trichotomy m n with hmn | rfl | hmn
    · rw [compare_lt_iff_lt.2 hmn, compare_lt_iff_lt.2 (by omega)]
    · rw [compare_eq_iff_eq.2 rfl, compare_eq_iff_eq.2 rfl]
    · rw [compare_gt_iff_gt.2 hmn, compare_gt_iff_gt.2 (by omega)]
  · rw [compare_gt_iff_gt.2 (by omega), compare_gt_iff_gt.2 (hlt h' h hst)]
    rfl

theorem compare_scale_significand (hx : 0 < magnitudeBits x) (hx' : magnitudeBits x < infinityBits)
    (hy : 0 < magnitudeBits y) (hy' : magnitudeBits y < infinityBits) :
    (compare ((scale x : Int) - 1074) (scale y - 1074)).then
        (compare (significand x) (significand y)) =
      compare (magnitudeBits x) (magnitudeBits y) := by
  rw [compare_parts (isParts_of_magnitudeBits hx hx') (isParts_of_magnitudeBits hy hy'),
    scale_mul_add_significand, scale_mul_add_significand]

theorem compare_cast (m n : Nat) : compare (m : Int) n = compare m n := by
  rw [← cmp_eq_compare, Nat.strictMono_cast.cmp_map_eq, cmp_eq_compare]

theorem compare_neg_cast (m n : Nat) : compare (-m : Int) (-n) = (compare m n).swap := by
  have hneg : StrictAnti fun k : Nat => -(k : Int) := fun _ _ h => neg_lt_neg (Int.ofNat_lt.2 h)
  rw [← cmp_eq_compare, hneg.cmp_map_eq m n, ← cmp_eq_compare, cmp_swap]

/-- Numbers are in the order of their bits with the sign. -/
theorem compare_unpack (hx : x.isNaN = false) (hy : y.isNaN = false) :
    x.toModel.unpack.compare y.toModel.unpack = some (compare (signedBits x) (signedBits y)) := by
  have hinfinity : infinityBits = 9218868437227405312 := rfl
  have hlt {a b : Int} (h : a < b) : some .lt = some (compare a b) :=
    congrArg some (compare_lt_iff_lt.2 h).symm
  have hgt {a b : Int} (h : b < a) : some .gt = some (compare a b) :=
    congrArg some (compare_gt_iff_gt.2 h).symm
  have heq {a b : Int} (h : a = b) : some .eq = some (compare a b) :=
    congrArg some (compare_eq_iff_eq.2 h).symm
  rw [signedBits, signedBits]
  rcases unpack_cases hx with ⟨hbits, hunpack⟩ | ⟨hbits, hunpack⟩ | ⟨hpos, hfinite, hm, hunpack⟩ <;>
    rcases unpack_cases hy with ⟨hbits', hunpack'⟩ | ⟨hbits', hunpack'⟩ |
      ⟨hpos', hfinite', hm', hunpack'⟩ <;>
    rw [hunpack, hunpack']
  case inr.inr.inr.inr =>
    have hparts := compare_scale_significand hpos hfinite hpos' hfinite'
    cases isNegative x <;> cases isNegative y
    · exact congrArg some (hparts.trans (compare_cast _ _).symm)
    · exact hgt (by simp; omega)
    · exact hlt (by simp; omega)
    · exact congrArg some ((congrArg Ordering.swap hparts).trans (compare_neg_cast _ _).symm)
  -- zero and infinity are compared by their signs
  all_goals
    cases isNegative x <;> cases isNegative y <;>
    first
    | exact hlt (by simp; omega)
    | exact hgt (by simp; omega)
    | exact heq (by simp; omega)

theorem lt_iff_signedBits_lt (hx : x.isNaN = false) (hy : y.isNaN = false) :
    x < y ↔ signedBits x < signedBits y := by
  have hlt : x < y ↔ (x.toModel.unpack.compare y.toModel.unpack == some .lt) = true := by
    change x.lt y = true ↔ _
    unfold Float.lt
    exact decide_eq_true_iff
  rw [hlt, compare_unpack hx hy, beq_iff_eq, Option.some_inj, compare_lt_iff_lt]

theorem beq_iff_signedBits_eq (hx : x.isNaN = false) (hy : y.isNaN = false) :
    (x == y) = true ↔ signedBits x = signedBits y := by
  have hbeq : (x == y) = (x.toModel.unpack.compare y.toModel.unpack == some .eq) := rfl
  rw [hbeq, compare_unpack hx hy, beq_iff_eq, Option.some_inj, compare_eq_iff_eq]

/-! ### Rounding keeps the order -/

theorem div_le_roundDiv (n d : Nat) : n / d ≤ roundDiv n d := by
  unfold roundDiv
  repeat' split
  all_goals omega

theorem roundDiv_mono {m n : Nat} (d : Nat) (h : m ≤ n) : roundDiv m d ≤ roundDiv n d := by
  have hdiv := Nat.div_le_div_right (c := d) h
  rcases Nat.eq_or_lt_of_le hdiv with heq | hlt
  · have hm := Nat.div_add_mod m d
    have hn := Nat.div_add_mod n d
    rw [heq] at hm
    unfold roundDiv
    rw [heq]
    repeat' split
    all_goals omega
  · have hle := roundDiv_le m d
    have hge := div_le_roundDiv n d
    omega

/-- A scale above the least one is chosen for quotients with all of 53 binary digits. -/
theorem hiddenBit_le_div_scale {units den : Nat} (hden : 0 < den)
    (hscale : 0 < (units / den).log2 - 52) :
    hiddenBit ≤ units / (den * Nat.pow 2 ((units / den).log2 - 52)) := by
  generalize hs : (units / den).log2 - 52 = s at *
  have hpos : 0 < den * Nat.pow 2 s := Nat.mul_pos hden (Nat.two_pow_pos s)
  rw [Nat.le_div_iff_mul_le hpos, ← Nat.not_lt, ← div_lt_pow_iff hden, Nat.not_lt]
  have hne : units / den ≠ 0 := by
    intro hzero
    rw [hzero, Nat.log2_zero] at hs
    omega
  exact (Nat.le_log2 hne).1 (by omega)

/-- A greater quotient has greater bits, or the same. -/
theorem nearestBits_mono {m n den : Nat} (hden : 0 < den) (h : m ≤ n) :
    nearestBits m den ≤ nearestBits n den := by
  unfold nearestBits
  refine min_le_min_right _ ?_
  have hunits : m * Nat.pow 2 1074 ≤ n * Nat.pow 2 1074 := Nat.mul_le_mul_right _ h
  generalize m * Nat.pow 2 1074 = u at *
  generalize n * Nat.pow 2 1074 = v at *
  have hlog : (u / den).log2 ≤ (v / den).log2 := by
    rw [Nat.log2_eq_log_two, Nat.log2_eq_log_two]
    exact Nat.log_mono_right (Nat.div_le_div_right hunits)
  rcases Nat.eq_or_lt_of_le (Nat.sub_le_sub_right hlog 52) with heq | hlt
  · rw [heq]
    exact Nat.add_le_add_left (roundDiv_mono _ hunits) _
  · -- a carry leads at most to the first number on the next scale
    have hu := div_scale_lt u hden
    have hv := hiddenBit_le_div_scale hden (Nat.zero_lt_of_lt hlt)
    generalize (u / den).log2 - 52 = s at *
    generalize (v / den).log2 - 52 = t at *
    have hround := roundDiv_le u (den * Nat.pow 2 s)
    have hround' := div_le_roundDiv v (den * Nat.pow 2 t)
    calc s * hiddenBit + roundDiv u (den * Nat.pow 2 s)
        ≤ s * hiddenBit + 2 * hiddenBit := by omega
      _ = (s + 1) * hiddenBit + hiddenBit := by
        rw [Nat.succ_mul s]
        omega
      _ ≤ t * hiddenBit + roundDiv v (den * Nat.pow 2 t) :=
        Nat.add_le_add (Nat.mul_le_mul_right _ hlt) (Nat.le_trans hv hround')

/-! ### Integers that need no rounding -/

section

-- the exponent of the unit is kept as a variable: its power is too great to be evaluated
variable {e m n s : Nat}

/-- A number that is made of a significand and a scale is not rounded. -/
theorem nearestBits_of_isParts (he : e = 1074) (h : IsParts m s)
    (hn : n * Nat.pow 2 e = m * Nat.pow 2 s) : nearestBits n 1 = s * hiddenBit + m := by
  have hcentre : (Interval.ofParts m s).centre = n * Nat.pow 2 1076 := by
    rw [mul_pow_1076, ← he, hn, ← Nat.mul_assoc]
    rfl
  refine Interval.nearestBits_of_contains h Nat.one_pos ?_
  rw [← hcentre, ← Nat.mul_one (Interval.centre _)]
  exact Interval.contains_centre h.pos Nat.one_pos

/-- Integers up to `2 ^ 53` are made of a significand and a scale. -/
theorem exists_isParts (he : e = 1074) (hpos : 0 < n) (hn : n ≤ Nat.pow 2 53) :
    ∃ m s, IsParts m s ∧ n * Nat.pow 2 e = m * Nat.pow 2 s := by
  rcases Nat.eq_or_lt_of_le hn with rfl | hlt
  · refine ⟨hiddenBit, 1075, ⟨by decide, by decide, fun _ => Nat.le_refl _, by decide⟩, ?_⟩
    rw [he]
    decide +kernel
  have hne : n ≠ 0 := Nat.ne_of_gt hpos
  obtain ⟨k, hk⟩ : ∃ k, n.log2 + k = 52 :=
    ⟨52 - n.log2, Nat.add_sub_of_le (Nat.le_of_lt_succ ((Nat.log2_lt hne).2 hlt))⟩
  have hhidden : Nat.pow 2 n.log2 * Nat.pow 2 k = hiddenBit :=
    (Nat.pow_add 2 n.log2 k).symm.trans (congrArg (Nat.pow 2) hk)
  have hlow : hiddenBit ≤ n * Nat.pow 2 k := by
    rw [← hhidden]
    exact Nat.mul_le_mul_right _ (Nat.log2_self_le hne)
  have hhigh : n * Nat.pow 2 k < 2 * hiddenBit := by
    rw [← hhidden, ← Nat.mul_assoc, Nat.mul_comm 2]
    exact Nat.mul_lt_mul_of_pos_right Nat.lt_log2_self (Nat.two_pow_pos k)
  have hscale : (1022 + n.log2) * hiddenBit ≤ 1074 * hiddenBit :=
    Nat.mul_le_mul_right _ (by omega)
  refine ⟨n * Nat.pow 2 k, 1022 + n.log2, ⟨Nat.lt_of_lt_of_le (by decide) hlow, hhigh,
    fun _ => hlow, ?_⟩, ?_⟩
  · rw [infinityBits]
    omega
  · obtain rfl : e = k + (1022 + n.log2) := by omega
    rw [Nat.mul_assoc]
    exact congrArg (n * ·) (Nat.pow_add 2 k _)

theorem nearestBits_zero : nearestBits 0 1 = 0 := by decide +kernel

/-- Different integers up to `2 ^ 53` are different floats. -/
theorem nearestBits_injective (hm : m ≤ Nat.pow 2 53) (hn : n ≤ Nat.pow 2 53)
    (h : nearestBits m 1 = nearestBits n 1) : m = n := by
  obtain ⟨e, he⟩ : ∃ e, e = 1074 := ⟨_, rfl⟩
  have hpos {k : Nat} (hk : 0 < k) (hle : k ≤ Nat.pow 2 53) : 0 < nearestBits k 1 := by
    obtain ⟨p, s, hparts, heq⟩ := exists_isParts he hk hle
    rw [nearestBits_of_isParts he hparts heq]
    exact Nat.add_pos_right _ hparts.pos
  rcases Nat.eq_zero_or_pos m with rfl | hm0 <;> rcases Nat.eq_zero_or_pos n with rfl | hn0
  · rfl
  · exact absurd (nearestBits_zero.symm.trans h) (Nat.ne_of_lt (hpos hn0 hn))
  · exact absurd (h.trans nearestBits_zero) (Nat.ne_of_gt (hpos hm0 hm))
  obtain ⟨p, s, hparts, heq⟩ := exists_isParts he hm0 hm
  obtain ⟨q, t, hparts', heq'⟩ := exists_isParts he hn0 hn
  rw [nearestBits_of_isParts he hparts heq, nearestBits_of_isParts he hparts' heq'] at h
  have hcompare := (compare_parts hparts hparts').trans (compare_eq_iff_eq.2 h)
  rw [Ordering.then_eq_eq, compare_eq_iff_eq, compare_eq_iff_eq] at hcompare
  obtain rfl : s = t := by omega
  obtain rfl := hcompare.2
  exact Nat.eq_of_mul_eq_mul_right (Nat.two_pow_pos e) (heq.trans heq'.symm)

end

/-! ### Rounded integers -/

theorem isNaNBits_fields {bits : Nat} (h : bits ≤ infinityBits) (negative : Bool) :
    @UnpackedFloat.isNaNBits Format.binary64 (fields negative bits) = false := by
  rw [UnpackedFloat.isNaNBits, fields, UnpackedFloat.unpackExponent_packComponents,
    UnpackedFloat.unpackMantissa_packComponents]
  refine decide_eq_false fun hnan => hnan.2 ?_
  have hge := (exponent_eq_neg_one_iff (Nat.lt_of_le_of_lt h (by decide))).1 hnan.1
  rw [Nat.le_antisymm h hge]
  rfl

/-- Bits up to those of infinity are kept as they are. -/
theorem toNat_toBits_ofMagnitudeBits {bits : Nat} (h : bits ≤ infinityBits) (negative : Bool) :
    (ofMagnitudeBits negative bits).toBits.toNat =
      (if negative then Nat.pow 2 63 else 0) + bits := by
  have hlt : bits < Nat.pow 2 63 := Nat.lt_of_le_of_lt h (by decide)
  have hpack (a : UInt64) : (Float.ofBits a).toBits = UInt64.ofBitVec (UnpackedFloat.pack
      Format.binary64 (UnpackedFloat.unpack Format.binary64 a.toBitVec)) := rfl
  rw [ofMagnitudeBits, hpack, UnpackedFloat.pack_unpack, toBitVec_ofNat negative hlt,
    isNaNBits_fields h, if_neg Bool.false_ne_true, ← toBitVec_ofNat negative hlt,
    UInt64.ofBitVec_toBitVec]
  refine UInt64.toNat_ofNat_of_lt' ?_
  have hsize : UInt64.size = 2 * Nat.pow 2 63 := rfl
  split <;> omega

/-- The bits with the sign of a float that is made of them. -/
theorem signedBits_ofMagnitudeBits {bits : Nat} (h : bits ≤ infinityBits) (negative : Bool) :
    signedBits (ofMagnitudeBits negative bits) = if negative then -(bits : Int) else bits := by
  have hlt : bits < Nat.pow 2 63 := Nat.lt_of_le_of_lt h (by decide)
  rw [signedBits, isNegative, magnitudeBits, toNat_toBits_ofMagnitudeBits h]
  cases negative with
  | true =>
    rw [if_pos rfl, if_pos rfl, decide_eq_true (Nat.le_add_right _ _), if_pos rfl,
      Nat.add_mod_left, Nat.mod_eq_of_lt hlt]
  | false =>
    rw [if_neg Bool.false_ne_true, if_neg Bool.false_ne_true, Nat.zero_add,
      decide_eq_false (Nat.not_le.2 hlt), if_neg Bool.false_ne_true, Nat.mod_eq_of_lt hlt]

/-- The bits with the sign of an integer. -/
theorem signedBits_ofInt (i : Int) : signedBits (ofInt i) =
    if i < 0 then -(nearestBits i.natAbs 1 : Int) else nearestBits i.natAbs 1 := by
  have hle : nearestBits i.natAbs 1 ≤ infinityBits := Nat.min_le_right _ _
  rw [ofInt, ofRatio, signedBits_ofMagnitudeBits hle]
  by_cases hi : i < 0 <;> simp [hi]

/-- Integers are rounded in their order. -/
theorem signedBits_ofInt_mono {i j : Int} (h : i ≤ j) :
    signedBits (ofInt i) ≤ signedBits (ofInt j) := by
  have hmono {m n : Nat} : m ≤ n → nearestBits m 1 ≤ nearestBits n 1 := nearestBits_mono Nat.one_pos
  rw [signedBits_ofInt, signedBits_ofInt]
  split
  · split
    · have := hmono (show j.natAbs ≤ i.natAbs by omega)
      omega
    · omega
  · have := hmono (show i.natAbs ≤ j.natAbs by omega)
    rw [if_neg (by omega)]
    omega

/-- Different integers up to `2 ^ 53` in absolute value are different floats. -/
theorem signedBits_ofInt_injective {i j : Int} (hi : i.natAbs ≤ Nat.pow 2 53)
    (hj : j.natAbs ≤ Nat.pow 2 53) (h : signedBits (ofInt i) = signedBits (ofInt j)) : i = j := by
  have hinjective := @nearestBits_injective i.natAbs j.natAbs hi hj
  have hpos {k : Nat} (hk : k ≤ Nat.pow 2 53) (hzero : nearestBits k 1 = 0) : k = 0 :=
    nearestBits_injective hk (Nat.zero_le _) (hzero.trans nearestBits_zero.symm)
  have hi0 := hpos hi
  have hj0 := hpos hj
  rw [signedBits_ofInt, signedBits_ofInt] at h
  split at h <;> split at h <;> omega

end TripletFacts.Binary64
