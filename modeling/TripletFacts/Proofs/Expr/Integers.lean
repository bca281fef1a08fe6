import Mathlib
import TripletFacts.Proofs.Expr.Values
import TripletFacts.Proofs.Outcome

/-!
# Modulo and power of integers

An operation on integers of 64 bits either has a result of 64 bits, and then this integer is its
value, or it is done with floats, and then it is never an integer that comes out.

The modulo is computed in two steps, the remainder of a division that truncates its quotient and a
correction that gives it the sign of the divisor. The correction adds numbers of opposite signs and
stays within 64 bits. The remainder itself is refused if the quotient has no 64 bits, which is the
case for a single pair of operands, although the remainder would be zero there.

The power is computed for exponents of at most 32 bits. A greater exponent makes no difference to
bases other than -1, 0 and 1, whose powers are too great from the 64th on. The powers of these three
have 64 bits for every exponent, and become floats where the exponent is too great.

## Main definitions

* `IsFlooredModulo`: the modulo of two integers, by its properties.
* `IsExactPower`: results that are the power of two integers wherever this has 64 bits.

## Main results

* `Arithmetic.onInts_cases`: the results of operations on integers.
* `Expr.eval_mod_iff`: where the modulo of integers is exact.
* `Expr.eval_pow_iff`: where the power of integers is exact.
-/

namespace TripletFacts

/-! ### Integers of 64 bits -/

section

variable {i : Int} {j : Int64}

theorem int64?_eq_some_iff : int64? i = some j ↔ j.toInt = i := by
  constructor
  · intro h
    rw [int64?] at h
    split at h
    · next hrange =>
      obtain rfl := Option.some.inj h
      exact Int64.toInt_ofInt_of_le hrange.1 (Int.lt_add_one_iff.2 hrange.2)
    · cases h
  · rintro rfl
    exact int64?_toInt j

theorem int64?_eq_none_iff : int64? i = none ↔ ∀ j : Int64, j.toInt ≠ i := by
  simp only [Option.eq_none_iff_forall_ne_some, ne_eq, int64?_eq_some_iff]

/-- The range of 64 bits. -/
theorem int64?_eq_none_iff_range : int64? i = none ↔ ¬(-2 ^ 63 ≤ i ∧ i < 2 ^ 63) := by
  have hmax : i ≤ Int64.maxValue.toInt ↔ i < 2 ^ 63 := Int.lt_add_one_iff.symm
  rw [int64?, ← hmax]
  exact ite_eq_right_iff.trans (by simp)

end

namespace Arithmetic

variable {op : Arithmetic} {l r m : Int64}

/-! ### Results of operations -/

/-- A float, or an error about values. -/
def IsFloatOrRefused (result : Except EvalError Value) : Prop :=
  (∃ x, result = .ok (.float x)) ∨ ∃ e, result = .error e ∧ e.category = .value

/-- No integer comes out of floats. -/
theorem isFloatOrRefused_onFloats (op : Arithmetic) (x y : Float) :
    IsFloatOrRefused (onFloats op x y) := by
  have hchecked (z : Float) : IsFloatOrRefused
      (if !z.isFinite && x.isFinite && y.isFinite then .error (.noFiniteResult op x y)
        else .ok (.float z)) := by
    split
    · exact .inr ⟨_, rfl, rfl⟩
    · exact .inl ⟨z, rfl⟩
  have hdivision (c : Prop) [Decidable c] {rest : Except EvalError Value}
      (h : IsFloatOrRefused rest) :
      IsFloatOrRefused (if c then .error .divisionByZero else rest) := by
    split
    · exact .inr ⟨_, rfl, rfl⟩
    · exact h
  cases op with
  | add | sub | mul => exact hchecked _
  | div | mod | pow => exact hdivision _ (hchecked _)

theorem IsFloatOrRefused.ne_int {result : Except EvalError Value} (h : IsFloatOrRefused result)
    (i : Int64) : result ≠ .ok (.int i) := by
  rintro rfl
  obtain ⟨x, hx⟩ | ⟨e, he, -⟩ := h
  · cases hx
  · cases he

theorem apply_int (op : Arithmetic) (l r : Int64) :
    op.apply (.int l) (.int r) = onInts op l r := by
  cases op <;> rfl

/-- An operation on integers gives its integer result if there is one, and no integer
otherwise. -/
theorem onInts_cases (h : ¬(op = mod ∧ r = 0)) :
    (∃ i, intResult? op l r = some i ∧ onInts op l r = .ok (.int i)) ∨
      intResult? op l r = none ∧ IsFloatOrRefused (onInts op l r) := by
  rw [onInts, if_neg h]
  cases hresult : intResult? op l r with
  | some i => exact .inl ⟨i, rfl, rfl⟩
  | none => exact .inr ⟨rfl, isFloatOrRefused_onFloats op _ _⟩

/-- The integers that come out of an operation on integers. -/
theorem onInts_eq_ok_int_iff (h : ¬(op = mod ∧ r = 0)) {i : Int64} :
    onInts op l r = .ok (.int i) ↔ intResult? op l r = some i := by
  obtain ⟨j, hj, hvalue⟩ | ⟨hnone, hfloat⟩ := onInts_cases (l := l) h
  · simp [hj, hvalue]
  · simp [hnone, hfloat.ne_int i]

theorem isFloatOrRefused_onInts_iff (h : ¬(op = mod ∧ r = 0)) :
    IsFloatOrRefused (onInts op l r) ↔ intResult? op l r = none := by
  obtain ⟨i, hi, hvalue⟩ | ⟨hnone, hfloat⟩ := onInts_cases (l := l) h
  · simpa [hi] using fun hfloat : IsFloatOrRefused _ => hfloat.ne_int i hvalue
  · simp [hnone, hfloat]

/-! ### Modulo -/

/-- The modulo of two integers: it differs from the dividend by a multiple of the divisor, is
smaller than the divisor, and has its sign unless it is zero. -/
structure IsFlooredModulo (l r m : Int64) : Prop where
  dvd : r.toInt ∣ l.toInt - m.toInt
  natAbs_lt : m.toInt.natAbs < r.toInt.natAbs
  sign : m = 0 ∨ m.toInt.sign = r.toInt.sign

theorem eq_minValue_iff : l = Int64.minValue ↔ l.toInt = -2 ^ 63 := Int64.toInt_inj.symm

theorem eq_neg_one_iff : r = -1 ↔ r.toInt = -1 := Int64.toInt_inj.symm

/-- The quotient has 64 bits, except for the negative of the least integer. -/
theorem int64?_tdiv_eq_none_iff :
    int64? (l.toInt.tdiv r.toInt) = none ↔ l = Int64.minValue ∧ r = -1 := by
  have hlow := l.le_toInt
  have hhigh := l.toInt_lt
  rw [int64?_eq_none_iff_range, eq_minValue_iff, eq_neg_one_iff]
  by_cases hunit : r.toInt.natAbs ≤ 1
  · obtain hr | hr | hr : r.toInt = 0 ∨ r.toInt = 1 ∨ r.toInt = -1 := by omega
    · rw [hr, Int.tdiv_zero]
      omega
    · rw [hr, Int.tdiv_one]
      omega
    · rw [hr, Int.tdiv_neg, Int.tdiv_one]
      omega
  · -- a quotient by a greater divisor is at most a half of the dividend
    have hquotient := Int.natAbs_tdiv l.toInt r.toInt
    have hhalf : l.toInt.natAbs.div r.toInt.natAbs ≤ l.toInt.natAbs / 2 :=
      Nat.div_le_div_left (by omega) (by decide)
    omega

theorem natAbs_tmod_lt (hr : r ≠ 0) : (l.toInt.tmod r.toInt).natAbs < r.toInt.natAbs := by
  rw [Int.natAbs_tmod]
  exact Nat.mod_lt _ (Int.natAbs_pos.2 fun h => hr (Int64.toInt_inj.1 h))

theorem intRemainder?_eq_some_iff :
    intRemainder? l r = some m ↔
      ¬(l = Int64.minValue ∧ r = -1) ∧ m.toInt = l.toInt.tmod r.toInt := by
  rw [intRemainder?, Option.bind_eq_some_iff, ← int64?_tdiv_eq_none_iff,
    ← int64?_eq_some_iff (i := l.toInt.tmod r.toInt), exists_and_right,
    ← Option.isSome_iff_exists, ← ne_eq, Option.isSome_iff_ne_none]

/-- The remainder is refused for one pair of operands only. -/
theorem exists_intRemainder? (hr : r ≠ 0) (h : ¬(l = Int64.minValue ∧ r = -1)) :
    ∃ m, intRemainder? l r = some m := by
  have hlt := natAbs_tmod_lt (l := l) hr
  have hlow := r.le_toInt
  have hhigh := r.toInt_lt
  have hrange : int64? (l.toInt.tmod r.toInt) ≠ none := by
    rw [ne_eq, int64?_eq_none_iff_range]
    omega
  obtain ⟨m, hm⟩ := Option.ne_none_iff_exists'.1 hrange
  exact ⟨m, intRemainder?_eq_some_iff.2 ⟨h, int64?_eq_some_iff.1 hm⟩⟩

theorem isOpposed_iff : isOpposed m r = true ↔ m.toInt ≠ 0 ∧ ¬(m.toInt < 0 ↔ r.toInt < 0) := by
  rw [isOpposed, Bool.and_eq_true, bne_iff_ne, bne_iff_ne, ne_eq, ne_eq, decide_eq_decide,
    Int64.lt_iff_toInt_lt, Int64.lt_iff_toInt_lt, ← Int64.toInt_inj, Int64.toInt_zero]

/-- Numbers of opposite signs are added without an overflow. -/
theorem toInt_add_of_isOpposed (h : isOpposed m r = true) :
    (m + r).toInt = m.toInt + r.toInt := by
  obtain ⟨hm, hsign⟩ := isOpposed_iff.1 h
  have hmlow := m.le_toInt
  have hmhigh := m.toInt_lt
  have hrlow := r.le_toInt
  have hrhigh := r.toInt_lt
  rw [Int64.toInt_add]
  apply Int.bmod_eq_of_le <;> omega

/-- The correction of the remainder gives the modulo. -/
theorem isFlooredModulo_intModulo (hr : r ≠ 0) (hm : m.toInt = l.toInt.tmod r.toInt) :
    IsFlooredModulo l r (intModulo m r) := by
  have hzero : r.toInt ≠ 0 := fun h => hr (Int64.toInt_inj.1 h)
  have hdvd : r.toInt ∣ l.toInt - m.toInt := hm ▸ Int.dvd_self_sub_tmod
  have hlt : m.toInt.natAbs < r.toInt.natAbs := hm ▸ natAbs_tmod_lt hr
  rw [intModulo]
  split
  · next hopposed =>
    have hadd := toInt_add_of_isOpposed hopposed
    obtain ⟨hne, hsign⟩ := isOpposed_iff.1 hopposed
    refine ⟨?_, by omega, .inr ?_⟩
    · rw [hadd, ← Int.sub_sub]
      exact Int.dvd_sub hdvd (Int.dvd_refl _)
    · rw [hadd]
      rcases Int.lt_or_gt_of_ne hzero with hneg | hpos
      · rw [Int.sign_eq_neg_one_of_neg hneg, Int.sign_eq_neg_one_of_neg (by omega)]
      · rw [Int.sign_eq_one_of_pos hpos, Int.sign_eq_one_of_pos (by omega)]
  · next hopposed =>
    refine ⟨hdvd, hlt, ?_⟩
    rw [isOpposed_iff] at hopposed
    rcases Int.lt_trichotomy m.toInt 0 with hneg | heq | hpos
    · rw [Int.sign_eq_neg_one_of_neg hneg, Int.sign_eq_neg_one_of_neg (by omega)]
      exact .inr rfl
    · exact .inl (Int64.toInt_inj.1 heq)
    · rw [Int.sign_eq_one_of_pos hpos, Int.sign_eq_one_of_pos (by omega)]
      exact .inr rfl

/-! ### Power -/

/-- The powers of -1, 0 and 1 depend on the parity of the exponent only, from the square on. -/
theorem pow_eq_of_natAbs_le_one {i : Int} (hi : i.natAbs ≤ 1) {n : Nat} (hn : 2 ≤ n) :
    i ^ n = i ^ (n % 2 + 2) := by
  obtain rfl | rfl | rfl : i = 0 ∨ i = 1 ∨ i = -1 := by omega
  · rw [zero_pow (by omega), zero_pow (by omega)]
  · rw [one_pow, one_pow]
  · rw [neg_one_pow_eq_pow_mod_two, pow_add, neg_one_sq, mul_one]

/-- The powers of other integers are too great from the 64th on. -/
theorem int64?_pow_eq_none {i : Int} (hi : 1 < i.natAbs) {n : Nat} (hn : 64 ≤ n) :
    int64? (i ^ n) = none := by
  have hgreat : 2 ^ 64 ≤ (i ^ n).natAbs :=
    calc 2 ^ 64 ≤ 2 ^ n := Nat.pow_le_pow_right (by decide) hn
      _ ≤ i.natAbs ^ n := Nat.pow_le_pow_left hi n
      _ = (i ^ n).natAbs := (Int.natAbs_pow i n).symm
  rw [int64?_eq_none_iff_range]
  omega

/-- For exponents of 32 bits the power is found if it has 64 bits. -/
theorem intPower?_eq (h : r.toInt < 2 ^ 32) : intPower? l r = int64? (l.toInt ^ r.toInt.toNat) := by
  have hsize : ¬UInt32.size ≤ r.toInt.toNat := by
    change ¬2 ^ 32 ≤ r.toInt.toNat
    omega
  rw [intPower?]
  simp only [if_neg hsize]
  split
  · rfl
  · next hlarge =>
    rw [Nat.not_lt] at hlarge
    split
    · next hbase =>
      rw [pow_eq_of_natAbs_le_one hbase (by omega)]
      rfl
    · next hbase => exact (int64?_pow_eq_none (by omega) hlarge).symm

/-- For greater exponents no power is found. -/
theorem intPower?_eq_none (h : 2 ^ 32 ≤ r.toInt) : intPower? l r = none := by
  have hsize : UInt32.size ≤ r.toInt.toNat := by
    change 2 ^ 32 ≤ r.toInt.toNat
    omega
  rw [intPower?]
  simp only [if_pos hsize]

/-- A result that is the power of two integers wherever this has 64 bits, and no integer
otherwise. -/
structure IsExactPower (l r : Int64) (result : Except EvalError Value) : Prop where
  exact : ∀ i : Int64, i.toInt = l.toInt ^ r.toInt.toNat → result = .ok (.int i)
  refused : (∀ i : Int64, i.toInt ≠ l.toInt ^ r.toInt.toNat) → IsFloatOrRefused result

/-- A base whose powers have 64 bits for all exponents. -/
theorem exists_toInt_eq_pow (hl : l.toInt.natAbs ≤ 1) (n : Nat) :
    ∃ i : Int64, i.toInt = l.toInt ^ n := by
  have hpow : (l.toInt ^ n).natAbs ≤ 1 := by
    rw [Int.natAbs_pow]
    exact pow_le_one₀ (Nat.zero_le _) hl
  have hrange : int64? (l.toInt ^ n) ≠ none := by
    rw [ne_eq, int64?_eq_none_iff_range]
    omega
  obtain ⟨i, hi⟩ := Option.ne_none_iff_exists'.1 hrange
  exact ⟨i, int64?_eq_some_iff.1 hi⟩

theorem pow_defined : ¬(pow = mod ∧ r = 0) := fun h => nomatch h.1

theorem intResult?_pow (hr : 0 ≤ r) : intResult? pow l r = intPower? l r :=
  if_neg (Int64.not_lt.2 hr)

/-- The results of `**` are exact where no power of 64 bits is missed. -/
theorem isExactPower_onInts_iff (hr : 0 ≤ r) :
    IsExactPower l r (onInts pow l r) ↔ intPower? l r = int64? (l.toInt ^ r.toInt.toNat) := by
  rw [← intResult?_pow hr]
  constructor
  · intro h
    cases hfound : int64? (l.toInt ^ r.toInt.toNat) with
    | some i => exact (onInts_eq_ok_int_iff pow_defined).1 (h.exact i (int64?_eq_some_iff.1 hfound))
    | none =>
      exact (isFloatOrRefused_onInts_iff pow_defined).1 (h.refused (int64?_eq_none_iff.1 hfound))
  · intro h
    refine ⟨fun i hi => ?_, fun hnone => ?_⟩
    · rw [onInts_eq_ok_int_iff pow_defined, h, int64?_eq_some_iff, hi]
    · rw [isFloatOrRefused_onInts_iff pow_defined, h, int64?_eq_none_iff]
      exact hnone

/-- A power of 64 bits is missed only for exponents of more than 32 bits, and only for the bases
-1, 0 and 1. -/
theorem intPower?_eq_iff :
    intPower? l r = int64? (l.toInt ^ r.toInt.toNat) ↔ r.toInt < 2 ^ 32 ∨ 1 < l.toInt.natAbs := by
  rcases Int.lt_or_le r.toInt (2 ^ 32) with hsmall | hlarge
  · exact iff_of_true (intPower?_eq hsmall) (.inl hsmall)
  · rw [intPower?_eq_none hlarge, or_iff_right (Int.not_lt.2 hlarge)]
    constructor
    · intro h
      by_contra! hbase
      obtain ⟨i, hi⟩ := exists_toInt_eq_pow hbase r.toInt.toNat
      exact int64?_eq_none_iff.1 h.symm i hi
    · intro hbase
      exact (int64?_pow_eq_none hbase (by omega)).symm

/-- Whatever `**` gives as an integer is the power. -/
theorem toInt_eq_pow_of_intPower? {i : Int64} (h : intPower? l r = some i) :
    i.toInt = l.toInt ^ r.toInt.toNat := by
  have hsmall : r.toInt < 2 ^ 32 := by
    by_contra! hlarge
    rw [intPower?_eq_none hlarge] at h
    cases h
  rw [intPower?_eq hsmall] at h
  exact int64?_eq_some_iff.1 h

end Arithmetic

/-! ### Expressions -/

namespace Expr

open Arithmetic

variable {left right : Expr} {l r : Int64}

/-- **Where the modulo of integers is exact.** The value of `%` is the floored modulo, as an
integer, and no step of the computation overflows, neither the remainder nor its correction. This
holds for all operands with a divisor other than zero but one pair, for which the quotient has no
64 bits. -/
theorem eval_mod_iff (hl : left.eval = .ok (.int l)) (hr : right.eval = .ok (.int r))
    (hzero : r ≠ 0) :
    (∃ m, (binary left (.compute .mod) right).eval = .ok (.int m) ∧ IsFlooredModulo l r m ∧
        ∃ rest, intRemainder? l r = some rest ∧ intModulo rest r = m ∧
          (isOpposed rest r = true → (rest + r).toInt = rest.toInt + r.toInt)) ↔
      ¬(l = Int64.minValue ∧ r = -1) := by
  have hmod : ¬(Arithmetic.mod = .mod ∧ r = 0) := fun h => hzero h.2
  rw [eval_compute hl hr, apply_int]
  constructor
  · rintro ⟨m, -, -, rest, hrest, -⟩
    exact (intRemainder?_eq_some_iff.1 hrest).1
  · intro h
    obtain ⟨rest, hrest⟩ := exists_intRemainder? hzero h
    have hresult : intResult? .mod l r = some (intModulo rest r) := by
      rw [intResult?, hrest, Option.map_some]
    exact ⟨intModulo rest r, (onInts_eq_ok_int_iff hmod).2 hresult,
      isFlooredModulo_intModulo hzero (intRemainder?_eq_some_iff.1 hrest).2,
      rest, hrest, rfl, toInt_add_of_isOpposed⟩

/-- The correction at both ends of the range. -/
theorem eval_mod_iff_greatest :
    (literal (.int Int64.minValue)).eval = .ok (.int Int64.minValue) ∧
      (literal (.int Int64.maxValue)).eval = .ok (.int Int64.maxValue) ∧ Int64.maxValue ≠ 0 ∧
      ∃ m, (binary (literal (.int Int64.minValue)) (.compute .mod)
          (literal (.int Int64.maxValue))).eval = .ok (.int m) ∧
        IsFlooredModulo Int64.minValue Int64.maxValue m ∧ m = 9223372036854775806 := by
  have hleast : (literal (.int Int64.minValue)).eval = .ok (.int Int64.minValue) := rfl
  have hgreatest : (literal (.int Int64.maxValue)).eval = .ok (.int Int64.maxValue) := rfl
  have hzero : Int64.maxValue ≠ 0 := by decide
  obtain ⟨m, hm, hfloored, -⟩ := (eval_mod_iff hleast hgreatest hzero).2 (by decide)
  refine ⟨hleast, hgreatest, hzero, m, hm, hfloored, ?_⟩
  have hvalue : (binary (literal (.int Int64.minValue)) (.compute .mod)
      (literal (.int Int64.maxValue))).eval = .ok (.int 9223372036854775806) := by
    decide
  rw [hvalue] at hm
  cases hm
  rfl

/-- The least integer modulo -1 is zero, but as a float, and with a sign. -/
theorem eval_mod_least :
    (∀ m, (binary (literal (.int Int64.minValue)) (.compute .mod) (literal (.int (-1)))).eval ≠
        .ok (.int m)) ∧
      evaluate "(-9223372036854775807 - 1) % -1".toList = .ok (.float (-0.0)) := by
  have hfloat : (binary (literal (.int Int64.minValue)) (.compute .mod)
      (literal (.int (-1)))).eval = .ok (.float (-0.0)) := by
    decide +kernel
  refine ⟨fun m hm => ?_, by decide +kernel⟩
  rw [hfloat] at hm
  cases hm

/-- **Where the power of integers is exact.** The value of `**` with an exponent that is not
negative is the power, as an integer, if it has 64 bits, and a float or an error about values
otherwise. This holds for all exponents below `2 ^ 32` and for all bases but -1, 0 and 1. For no
operands is the value another integer. -/
theorem eval_pow_iff (hl : left.eval = .ok (.int l)) (hr : right.eval = .ok (.int r))
    (hneg : 0 ≤ r) :
    (IsExactPower l r (binary left (.compute .pow) right).eval ↔
        r.toInt < 2 ^ 32 ∨ 1 < l.toInt.natAbs) ∧
      ∀ i, (binary left (.compute .pow) right).eval = .ok (.int i) →
        i.toInt = l.toInt ^ r.toInt.toNat := by
  rw [eval_compute hl hr, apply_int, isExactPower_onInts_iff hneg]
  refine ⟨intPower?_eq_iff, fun i hi => toInt_eq_pow_of_intPower? ?_⟩
  rw [← intResult?_pow hneg]
  exact (onInts_eq_ok_int_iff pow_defined).1 hi

/-- A power of 63 binary digits. -/
theorem eval_pow_iff_minus_two :
    (literal (.int (-2))).eval = .ok (.int (-2)) ∧ (literal (.int 63)).eval = .ok (.int 63) ∧
      (0 : Int64) ≤ 63 ∧
      IsExactPower (-2) 63
        (binary (literal (.int (-2))) (.compute .pow) (literal (.int 63))).eval ∧
      (binary (literal (.int (-2))) (.compute .pow) (literal (.int 63))).eval =
        .ok (.int Int64.minValue) := by
  have hbase : (literal (.int (-2))).eval = .ok (.int (-2)) := rfl
  have hexponent : (literal (.int 63)).eval = .ok (.int 63) := rfl
  have hexact := (eval_pow_iff hbase hexponent (by decide)).1.2 (.inl (by decide))
  exact ⟨hbase, hexponent, by decide, hexact, hexact.exact Int64.minValue (by decide)⟩

/-- The power of 1 is 1 for every exponent, and for this one it is no integer. -/
theorem eval_pow_great_exponent :
    (1 : Int64).toInt = (1 : Int64).toInt ^ (4294967296 : Int64).toInt.toNat ∧
      (∀ i, (binary (literal (.int 1)) (.compute .pow) (literal (.int 4294967296))).eval ≠
        .ok (.int i)) ∧
      ∀ i, evaluate "1 ** 4294967296".toList ≠ .ok (.int i) := by
  have hrefused (i : Int64) : (binary (literal (.int 1)) (.compute .pow)
      (literal (.int 4294967296))).eval ≠ .ok (.int i) := by
    rw [eval_compute rfl rfl, apply_int, ne_eq, onInts_eq_ok_int_iff pow_defined,
      intResult?_pow (by decide), intPower?_eq_none (by decide)]
    exact nofun
  have hparse : parse "1 ** 4294967296".toList =
      .ok (binary (literal (.int 1)) (.compute .pow) (literal (.int 4294967296))) := by
    cbv
  refine ⟨(one_pow _).symm, hrefused, fun i hi => ?_⟩
  rw [evaluate, hparse] at hi
  exact hrefused i hi

end Expr

end TripletFacts
