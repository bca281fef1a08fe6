import TripletFacts.Number.Shortest

/-!
# Rounding within the interval of a float

The interval of `m · 2 ^ s` is made of quotients that are rounded to `m · 2 ^ s`. The quotients in
the half gap below a power of two are the one case in which the rounding works on a finer scale:
they have one binary digit more there, and the carry leads to the same bits.

## Main definitions

* `Binary64.IsParts`: the significands and scales of positive finite floats.

## Main results

* `Binary64.roundDiv_eq`: which quotients are rounded to a number.
* `Interval.nearestBits_of_contains`: the quotients of an interval are rounded to its float.
-/

namespace TripletFacts

namespace Binary64

/-! ### Rounded quotients -/

/-- A quotient is rounded to `k` if it is at most a half away from it, and less than a half if `k`
is odd. -/
theorem roundDiv_eq {n d k : Nat} (hlow : 2 * (k * d) ≤ 2 * n + d) (hhigh : 2 * n ≤ 2 * (k * d) + d)
    (hodd : k % 2 = 1 → 2 * (k * d) ≠ 2 * n + d ∧ 2 * n ≠ 2 * (k * d) + d) (hd : 0 < d) :
    roundDiv n d = k := by
  have hlt := Nat.mod_lt n hd
  have hdiv : n / d * d + n % d = n := Nat.div_add_mod' n d
  unfold roundDiv
  generalize n / d = q at *
  generalize n % d = r at *
  -- the quotient is `k` or, when it is rounded up, the number before `k`
  have hle : k ≤ q + 1 := Nat.le_of_not_lt fun hgt => by
    have := Nat.mul_le_mul_right d hgt
    rw [Nat.succ_mul, Nat.succ_mul] at this
    omega
  have hge : q ≤ k := Nat.le_of_not_lt fun hgt => by
    have := Nat.mul_le_mul_right d hgt
    rw [Nat.succ_mul] at this
    omega
  obtain rfl | rfl : k = q ∨ k = q + 1 := by omega
  · repeat' split
    all_goals omega
  · rw [Nat.succ_mul q d] at hlow hhigh hodd
    repeat' split
    all_goals omega

/-- Whether a quotient has more than `k` binary digits besides the 52 of a significand. -/
theorem div_lt_pow_iff {n d k : Nat} (hd : 0 < d) :
    n / d < Nat.pow 2 (52 + k) ↔ n < hiddenBit * (d * Nat.pow 2 k) := by
  have hpow : Nat.pow 2 (52 + k) = hiddenBit * Nat.pow 2 k := Nat.pow_add 2 52 k
  rw [Nat.div_lt_iff_lt_mul hd, hpow, Nat.mul_assoc, Nat.mul_comm d]

/-- A quotient below `2 ^ 53` is rounded to a natural number. -/
theorem log2_sub_eq_zero {n : Nat} (h : n < Nat.pow 2 53) : n.log2 - 52 = 0 := by
  by_cases hzero : n = 0
  · rw [hzero]
    decide
  · have := (Nat.log2_lt hzero).2 h
    omega

/-- The scale on which a quotient with `k` binary digits besides the 53 of a significand is
rounded. -/
theorem log2_sub_eq {n k : Nat} (hlow : Nat.pow 2 (52 + k) ≤ n) (hhigh : n < Nat.pow 2 (53 + k)) :
    n.log2 - 52 = k := by
  have hne : n ≠ 0 := Nat.ne_of_gt (Nat.lt_of_lt_of_le (Nat.two_pow_pos _) hlow)
  rw [(Nat.log2_eq_iff (k := 52 + k) hne).2 ⟨hlow, by rwa [Nat.add_right_comm]⟩,
    Nat.add_sub_cancel_left]

/-- Intervals are counted in quarters of the units of floats. -/
theorem mul_pow_1076 (num : Nat) : num * Nat.pow 2 1076 = 4 * (num * Nat.pow 2 1074) := by
  rw [Nat.mul_left_comm, show Nat.pow 2 1076 = 4 * Nat.pow 2 1074 by decide +kernel]

/-! ### Significands and scales -/

/-- The significands and scales of positive finite floats: numbers below `2 ^ 53`, and with their
leading bit unless the scale is the least. -/
structure IsParts (m s : Nat) : Prop where
  pos : 0 < m
  lt : m < 2 * hiddenBit
  normal : 0 < s → hiddenBit ≤ m
  finite : s * hiddenBit + m < infinityBits

theorem IsParts.scale_le {m s : Nat} (h : IsParts m s) : s ≤ 2046 := by
  refine Nat.le_of_not_lt fun hgt => ?_
  have hmul := Nat.mul_le_mul_right hiddenBit hgt
  have hfinite := h.finite
  rw [infinityBits] at hfinite
  omega

/-- The scale and the significand of a float give its bits. -/
theorem scale_mul_add_significand (x : Float) :
    scale x * hiddenBit + significand x = magnitudeBits x := by
  have hdiv := Nat.div_add_mod' (magnitudeBits x) hiddenBit
  unfold scale significand
  split
  · rename_i hlt
    rw [Nat.div_eq_of_lt hlt, Nat.zero_sub, Nat.zero_mul, Nat.zero_add]
  · rename_i hge
    obtain ⟨q, hq⟩ : ∃ q, magnitudeBits x / hiddenBit = q + 1 :=
      ⟨_, (Nat.succ_pred_eq_of_pos (Nat.div_pos (Nat.le_of_not_lt hge) (by decide))).symm⟩
    rw [hq, Nat.succ_mul] at hdiv
    rw [hq, Nat.add_sub_cancel]
    omega

theorem isParts_of_magnitudeBits {x : Float} (hpos : 0 < magnitudeBits x)
    (hfinite : magnitudeBits x < infinityBits) : IsParts (significand x) (scale x) where
  pos := by
    unfold significand
    split
    · exact hpos
    · exact Nat.add_pos_right _ (by decide)
  lt := by
    unfold significand
    split
    · omega
    · have := Nat.mod_lt (magnitudeBits x) (show 0 < hiddenBit by decide)
      omega
  normal hscale := by
    unfold significand
    split
    · rename_i hlt
      rw [scale, Nat.div_eq_of_lt hlt] at hscale
      exact absurd hscale (by decide)
    · exact Nat.le_add_left _ _
  finite := by rwa [scale_mul_add_significand]

end Binary64

namespace Interval

open Binary64

/-- The quotients of an interval lie between its ends. -/
theorem le_of_contains {I : Interval} {num den : Nat} (h : I.contains num den = true) :
    I.low * den ≤ num ∧ num ≤ I.high * den ∧
      (I.closed = false → I.low * den ≠ num ∧ num ≠ I.high * den) := by
  unfold contains at h
  split at h
  · rename_i hclosed
    have := of_decide_eq_true h
    exact ⟨this.1, this.2, fun hopen => absurd (hclosed.symm.trans hopen) (by decide)⟩
  · have := of_decide_eq_true h
    exact ⟨Nat.le_of_lt this.1, Nat.le_of_lt this.2,
      fun _ => ⟨Nat.ne_of_lt this.1, Nat.ne_of_lt this.2⟩⟩

/-- The ends of the interval of a float, in steps of its scale. The lower end is nearer below a
power of two. -/
theorem ends_of_contains {m s units den : Nat} (hm : 0 < m)
    (hc : (ofParts m s).contains (4 * units) den = true) :
    2 * (m * (den * Nat.pow 2 s)) ≤ 2 * units + den * Nat.pow 2 s ∧
      2 * units ≤ 2 * (m * (den * Nat.pow 2 s)) + den * Nat.pow 2 s ∧
      (m % 2 = 1 → 2 * (m * (den * Nat.pow 2 s)) ≠ 2 * units + den * Nat.pow 2 s ∧
        2 * units ≠ 2 * (m * (den * Nat.pow 2 s)) + den * Nat.pow 2 s) ∧
      (m = hiddenBit → 0 < s →
        4 * (m * (den * Nat.pow 2 s)) ≤ 4 * units + den * Nat.pow 2 s) := by
  obtain ⟨hlow, hhigh, hopen⟩ := le_of_contains hc
  have hmul (k : Nat) : k * Nat.pow 2 s * den = k * (den * Nat.pow 2 s) := by
    rw [Nat.mul_assoc, Nat.mul_comm den]
  simp only [ofParts, hmul] at hlow hhigh hopen
  generalize den * Nat.pow 2 s = w at *
  have hup : (4 * m + 2) * w = 4 * (m * w) + 2 * w := by rw [Nat.add_mul, Nat.mul_assoc]
  have hdown : (4 * m - 2) * w + 2 * w = 4 * (m * w) := by
    rw [← Nat.add_mul, Nat.sub_add_cancel (by omega), Nat.mul_assoc]
  have hnear : (4 * m - 1) * w + w = 4 * (m * w) := by
    rw [← Nat.succ_mul, Nat.succ_eq_add_one, Nat.sub_add_cancel (by omega), Nat.mul_assoc]
  rw [hup] at hhigh hopen
  by_cases hpower : m = hiddenBit ∧ 0 < s
  · rw [if_pos hpower] at hlow hopen
    refine ⟨by omega, by omega, fun hodd => ?_, fun _ _ => by omega⟩
    rw [hpower.1] at hodd
    exact absurd hodd (by decide)
  · rw [if_neg hpower] at hlow hopen
    refine ⟨by omega, by omega, fun hodd => ?_, fun hhidden hs => absurd ⟨hhidden, hs⟩ hpower⟩
    have := hopen (by simp [hodd])
    omega

section

variable {m s units den : Nat}

theorem mul_pow_succ (k : Nat) : den * Nat.pow 2 (k + 1) = 2 * (den * Nat.pow 2 k) := by
  rw [show Nat.pow 2 (k + 1) = 2 * Nat.pow 2 k from Nat.pow_succ', Nat.mul_left_comm]

/-- The quotients of the interval of a float are below the second power of two after it. -/
theorem div_lt_of_contains (h : IsParts m s) (hden : 0 < den)
    (hc : (ofParts m s).contains (4 * units) den = true) :
    units / den < Nat.pow 2 (53 + s) := by
  obtain ⟨-, hhigh, -⟩ := ends_of_contains h.pos hc
  have hw : 0 < den * Nat.pow 2 s := Nat.mul_pos hden (Nat.two_pow_pos s)
  have hm := Nat.mul_le_mul_right (den * Nat.pow 2 s) h.lt
  rw [Nat.succ_mul, Nat.mul_assoc 2] at hm
  rw [Nat.add_right_comm 52 1 s, Nat.add_assoc 52 s 1, div_lt_pow_iff hden, mul_pow_succ,
    Nat.mul_left_comm]
  omega

/-- The quotients that have the leading bit of a float are rounded on its scale. -/
theorem round_of_le (h : IsParts m s) (hden : 0 < den)
    (hc : (ofParts m s).contains (4 * units) den = true)
    (hcoarse : 0 < s → hiddenBit * (den * Nat.pow 2 s) ≤ units) :
    ((units / den).log2 - 52) * hiddenBit +
      roundDiv units (den * Nat.pow 2 ((units / den).log2 - 52)) = s * hiddenBit + m := by
  obtain ⟨hlow, hhigh, hodd, -⟩ := ends_of_contains h.pos hc
  have hlt := div_lt_of_contains h hden hc
  have hscale : (units / den).log2 - 52 = s := by
    cases s with
    | zero => exact log2_sub_eq_zero hlt
    | succ s =>
      refine log2_sub_eq (Nat.le_of_not_lt fun hsmall => ?_) hlt
      exact Nat.not_lt.2 (hcoarse s.succ_pos) ((div_lt_pow_iff hden).1 hsmall)
  rw [hscale, roundDiv_eq hlow hhigh hodd (Nat.mul_pos hden (Nat.two_pow_pos s))]

/-- The quotients that lack the leading bit of a float lie below a power of two; they are rounded
on the finer scale, up to that power. -/
theorem round_of_lt {t : Nat} (h : IsParts m (t + 1)) (hden : 0 < den)
    (hc : (ofParts m (t + 1)).contains (4 * units) den = true)
    (hfine : units < hiddenBit * (den * Nat.pow 2 (t + 1))) :
    ((units / den).log2 - 52) * hiddenBit +
      roundDiv units (den * Nat.pow 2 ((units / den).log2 - 52)) = (t + 1) * hiddenBit + m := by
  obtain ⟨hlow, -, -, hnear⟩ := ends_of_contains h.pos hc
  have hhidden : hiddenBit = m := by
    refine Nat.le_antisymm (h.normal t.succ_pos) (Nat.le_of_not_lt fun hgt => ?_)
    have := Nat.mul_le_mul_right (den * Nat.pow 2 (t + 1)) hgt
    rw [Nat.succ_mul] at this
    omega
  replace hnear := hnear hhidden.symm t.succ_pos
  have hlt : units / den < Nat.pow 2 (53 + t) := by
    rw [Nat.add_right_comm 52 1 t]
    exact (div_lt_pow_iff hden).2 hfine
  rw [← hhidden, mul_pow_succ, Nat.mul_left_comm hiddenBit 2] at hnear
  rw [mul_pow_succ, Nat.mul_left_comm hiddenBit 2] at hfine
  have hscale : (units / den).log2 - 52 = t := by
    refine log2_sub_eq (Nat.le_of_not_lt fun hsmall => ?_) hlt
    have := (div_lt_pow_iff hden).1 hsmall
    have := Nat.le_mul_of_pos_left (den * Nat.pow 2 t) (show 0 < hiddenBit by decide)
    omega
  have hround : roundDiv units (den * Nat.pow 2 t) = 2 * hiddenBit := by
    refine roundDiv_eq ?_ ?_ (fun hodd => absurd hodd (by decide))
      (Nat.mul_pos hden (Nat.two_pow_pos t)) <;>
    · rw [Nat.mul_assoc 2]
      omega
  rw [hscale, hround, ← hhidden, Nat.succ_mul t, Nat.add_assoc, Nat.two_mul]

end

/-- The quotients of the interval of a float are rounded to the bits of the float. -/
theorem nearestBits_of_contains {m s num den : Nat} (h : IsParts m s) (hden : 0 < den)
    (hc : (ofParts m s).contains (num * Nat.pow 2 1076) den = true) :
    nearestBits num den = s * hiddenBit + m := by
  rw [mul_pow_1076] at hc
  unfold nearestBits
  generalize num * Nat.pow 2 1074 = units at *
  suffices hround : ((units / den).log2 - 52) * hiddenBit +
      roundDiv units (den * Nat.pow 2 ((units / den).log2 - 52)) = s * hiddenBit + m by
    dsimp only
    rw [hround]
    exact Nat.min_eq_left (Nat.le_of_lt h.finite)
  cases s with
  | zero => exact round_of_le h hden hc fun hs => absurd hs (Nat.lt_irrefl 0)
  | succ t =>
    by_cases hfine : units < hiddenBit * (den * Nat.pow 2 (t + 1))
    · exact round_of_lt h hden hc hfine
    · exact round_of_le h hden hc fun _ => Nat.le_of_not_lt hfine

end Interval
end TripletFacts
