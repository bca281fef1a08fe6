import TripletFacts.Proofs.Expr.Extremes

/-!
# Comparisons of three values

Values that can be compared are equal if neither of them comes before the other one. The order is
transitive, but this equality is not. Two integers are compared exactly and an integer and a float
as floats, so that a float can be equal to two different integers which are rounded to it. Nothing
else goes wrong: the two outer values are integers of that kind whenever two steps do not add up to
one. Integers are rounded only beyond `2 ^ 53`, and truth values count as 0 and 1, so that all
comparisons of smaller integers, of truth values and of texts are consistent.

## Main definitions

* `Number.Same`, `Value.Same`: neither of two numbers or values comes before the other one.
* `Number.Merges`, `Value.Merges`: two different integers that are rounded to one float.

## Main results

* `Comparison.lt_apply_iff`, `Comparison.eq_apply_iff`: the operators `<` and `==`.
* `Number.Same.trans_iff`, `Number.Before.trans_same_iff`: when two steps add up to one.
* `Comparison.consistent_unless_merged`: the same of all values.
* `Number.Merges.lt_natAbs`, `Value.Merges.exists_lt_natAbs`: merged integers lie beyond `2 ^ 53`.
-/

namespace TripletFacts

open Binary64

/-! ### Equal numbers -/

namespace Number

variable {k m n : Number}

/-- Neither of two numbers comes before the other one. -/
def Same (m n : Number) : Prop := ¬m.Before n ∧ ¬n.Before m

/-- Two different integers that are rounded to one float. -/
def Merges (m n : Number) : Prop :=
  ∃ i j, m = .int i ∧ n = .int j ∧ i ≠ j ∧ (ofInt i.toInt == ofInt j.toInt) = true

/-- Equal numbers are equal as floats. -/
theorem Same.signedBits_eq (h : m.Same n) : signedBits m.toFloat = signedBits n.toFloat :=
  Int.le_antisymm (Int.not_lt.1 fun hlt => h.2 (before_of_lt hlt))
    (Int.not_lt.1 fun hlt => h.1 (before_of_lt hlt))

/-- Numbers that are equal as floats are equal, unless both are integers. -/
theorem same_of_signedBits_eq (hints : ∀ i j, m = .int i → n = .int j → False)
    (h : signedBits m.toFloat = signedBits n.toFloat) : m.Same n := by
  rw [Same, before_iff hints, before_iff fun j i hj hi => hints i j hi hj, h]
  exact ⟨Int.lt_irrefl _, Int.lt_irrefl _⟩

theorem same_int_iff {i j : Int64} : (int i).Same (.int j) ↔ i = j := by
  change ¬i < j ∧ ¬j < i ↔ i = j
  rw [← Int64.toInt_inj, Int64.lt_iff_toInt_lt, Int64.lt_iff_toInt_lt]
  omega

theorem merges_int_iff {i j : Int64} : (int i).Merges (.int j) ↔
    i ≠ j ∧ signedBits (ofInt i.toInt) = signedBits (ofInt j.toInt) := by
  have hbeq := beq_iff_signedBits_eq (isNaN_of_isFinite (isFinite_ofInt i))
    (isNaN_of_isFinite (isFinite_ofInt j))
  simp [Merges, hbeq]

theorem not_merges_float_left {x : Float} : ¬(float x).Merges n := nofun

theorem not_merges_float_right {x : Float} : ¬m.Merges (.float x) := nofun

/-- Integers that are rounded to one float lie beyond `2 ^ 53`, at least one of them. -/
theorem Merges.lt_natAbs {i j : Int64} (h : (int i).Merges (.int j)) :
    2 ^ 53 < max i.toInt.natAbs j.toInt.natAbs := by
  obtain ⟨hne, hbits⟩ := merges_int_iff.1 h
  refine Nat.lt_of_not_le fun hle => hne (Int64.toInt_inj.1 ?_)
  obtain ⟨hi, hj⟩ := Nat.max_le.1 hle
  exact signedBits_ofInt_injective hi hj hbits

/-- Two equalities add up to one, unless a float stands between two integers that are rounded to
it. -/
theorem Same.trans_iff (h : k.Same m) (h' : m.Same n) :
    k.Same n ↔ ¬((∃ x, m = .float x) ∧ k.Merges n) := by
  have hbits := h.signedBits_eq.trans h'.signedBits_eq
  cases m with
  | int j =>
    refine iff_of_true ?_ fun ⟨⟨_, hx⟩, _⟩ => nomatch hx
    cases k with
    | float x => exact same_of_signedBits_eq nofun hbits
    | int i =>
      obtain rfl := same_int_iff.1 h
      exact h'
  | float y =>
    cases k with
    | float x =>
      exact iff_of_true (same_of_signedBits_eq nofun hbits) fun h => not_merges_float_left h.2
    | int i =>
      cases n with
      | float z =>
        exact iff_of_true (same_of_signedBits_eq nofun hbits) fun h => not_merges_float_right h.2
      | int l =>
        have hmerges : (int i).Merges (.int l) ↔ i ≠ l :=
          merges_int_iff.trans (and_iff_left hbits)
        simp [same_int_iff, hmerges]

/-- A number before an equal one comes before it, unless the last one is a float to which the two
integers before it are rounded. -/
theorem Before.trans_same_iff (h : k.Before m) (h' : m.Same n) :
    k.Before n ↔ ¬((∃ x, n = .float x) ∧ k.Merges m) := by
  have hbits := h'.signedBits_eq
  cases k with
  | float x =>
    have hlt : signedBits x < signedBits m.toFloat := h
    exact iff_of_true (before_of_lt (hbits ▸ hlt)) fun h => not_merges_float_left h.2
  | int i =>
    cases m with
    | float y =>
      have hlt : signedBits (ofInt i.toInt) < signedBits y := h
      exact iff_of_true (before_of_lt (hbits ▸ hlt)) fun h => not_merges_float_right h.2
    | int j =>
      cases n with
      | int l =>
        obtain rfl := same_int_iff.1 h'
        exact iff_of_true h fun ⟨⟨_, hx⟩, _⟩ => nomatch hx
      | float z =>
        have hne : i ≠ j := fun heq => Int64.lt_irrefl (heq ▸ h : j < j)
        have hmerges : (int i).Merges (.int j) ↔
            signedBits (ofInt i.toInt) = signedBits (ofInt j.toInt) :=
          merges_int_iff.trans (and_iff_right hne)
        have hbefore : (int i).Before (.float z) ↔ signedBits (ofInt i.toInt) < signedBits z :=
          Iff.rfl
        have hle : signedBits (ofInt i.toInt) ≤ signedBits (ofInt j.toInt) := h.le
        have hfloat : signedBits (ofInt j.toInt) = signedBits z := hbits
        rw [hbefore, ← hfloat, hmerges]
        simp only [float.injEq, exists_eq', true_and]
        omega

end Number

/-! ### Equal values -/

namespace Value

variable {u v w : Value}

theorem isOrdered_int (i : Int64) : (int i).IsOrdered := fun _ h => nomatch h

theorem isOrdered_bool (b : Bool) : (bool b).IsOrdered := fun _ h => nomatch h

theorem isOrdered_float {x : Float} (h : x.isNaN = false) : (float x).IsOrdered := by
  rintro _ ⟨⟩
  exact h

/-- Two values that can be compared, of which neither comes before the other one. -/
def Same (v w : Value) : Prop := v.IsAlike w ∧ ¬v.Before w ∧ ¬w.Before v

/-- Two values that count as different integers and are rounded to one float. -/
def Merges (v w : Value) : Prop :=
  ∃ i j, v.operand? = some (.int i) ∧ w.operand? = some (.int j) ∧ i ≠ j ∧
    (ofInt i.toInt == ofInt j.toInt) = true

theorem merges_iff_of_operands {m n : Number} (hv : v.operand? = some m)
    (hw : w.operand? = some n) : v.Merges w ↔ m.Merges n := by
  simp [Merges, Number.Merges, hv, hw]

/-- Values that are rounded to one float count as integers beyond `2 ^ 53`, at least one of them. -/
theorem Merges.exists_lt_natAbs (h : v.Merges w) :
    ∃ i j, v.operand? = some (.int i) ∧ w.operand? = some (.int j) ∧
      2 ^ 53 < max i.toInt.natAbs j.toInt.natAbs := by
  obtain ⟨i, j, hi, hj, -⟩ := id h
  exact ⟨i, j, hi, hj, ((merges_iff_of_operands hi hj).1 h).lt_natAbs⟩

theorem not_str_merges {s : String} : ¬(str s).Merges w := by
  rintro ⟨i, j, hi, -⟩
  cases hi

theorem eq_float_iff {m : Number} (hv : v.operand? = some m) :
    (∃ x, v = .float x) ↔ ∃ x, m = .float x := by
  cases v <;> cases hv <;> simp

theorem Before.isAlike (h : v.Before w) : v.IsAlike w := by
  cases h with
  | text _ => exact Iff.rfl
  | number hv hw _ => simp [IsAlike, hv, hw]

theorem same_str_iff {s : String} : (str s).Same w ↔ w = .str s := by
  constructor
  · rintro ⟨halike, hbefore, hbehind⟩
    obtain ⟨t, rfl⟩ := operand?_eq_none_iff.1 (halike.1 rfl)
    rw [before_str_iff] at hbefore hbehind
    have heq : t = s := Std.Trichotomous.trichotomous t s hbehind hbefore
    rw [heq]
  · rintro rfl
    exact ⟨Iff.rfl, not_before_self _, not_before_self _⟩

theorem same_iff_of_operands {m n : Number} (hv : v.operand? = some m)
    (hw : w.operand? = some n) : v.Same w ↔ m.Same n := by
  have halike : v.IsAlike w := by simp [IsAlike, hv, hw]
  rw [Same, Number.Same, before_iff_of_operands hv hw, before_iff_of_operands hw hv]
  exact and_iff_right halike

/-- Two equalities add up to one, unless a float stands between two integers that are rounded to
it. -/
theorem Same.trans_iff (h : u.Same v) (h' : v.Same w) :
    u.Same w ↔ ¬((∃ x, v = .float x) ∧ u.Merges w) := by
  cases hu : u.operand? with
  | none =>
    obtain ⟨s, rfl⟩ := operand?_eq_none_iff.1 hu
    obtain rfl := same_str_iff.1 h
    exact iff_of_true h' fun hmerged => not_str_merges hmerged.2
  | some k =>
    obtain ⟨m, hv⟩ := h.1.exists_operand hu
    obtain ⟨n, hw⟩ := h'.1.exists_operand hv
    rw [same_iff_of_operands hu hw, eq_float_iff hv, merges_iff_of_operands hu hw]
    exact ((same_iff_of_operands hu hv).1 h).trans_iff ((same_iff_of_operands hv hw).1 h')

/-- A value before an equal one comes before it, unless the last one is a float to which the two
integers before it are rounded. -/
theorem Before.trans_same_iff (h : u.Before v) (h' : v.Same w) :
    u.Before w ↔ ¬((∃ x, w = .float x) ∧ u.Merges v) := by
  cases hu : u.operand? with
  | none =>
    obtain ⟨s, rfl⟩ := operand?_eq_none_iff.1 hu
    obtain ⟨t, rfl⟩ := operand?_eq_none_iff.1 (h.isAlike.1 hu)
    obtain rfl := same_str_iff.1 h'
    exact iff_of_true h fun hmerged => not_str_merges hmerged.2
  | some k =>
    obtain ⟨m, hv⟩ := h.isAlike.exists_operand hu
    obtain ⟨n, hw⟩ := h'.1.exists_operand hv
    rw [before_iff_of_operands hu hw, eq_float_iff hw, merges_iff_of_operands hu hv]
    exact ((before_iff_of_operands hu hv).1 h).trans_same_iff ((same_iff_of_operands hv hw).1 h')

end Value

/-! ### The operators -/

namespace Comparison

open Value

variable {a b c v w : Value}

/-- `<` holds of values in order. -/
theorem lt_apply_iff (hv : v.IsOrdered) (hw : w.IsOrdered) :
    lt.apply v w = .ok true ↔ v.Before w := by
  have hstrict : lt.IsStrict := .inl rfl
  by_cases halike : v.IsAlike w
  · rw [hstrict.apply_eq_ok_iff hv hw halike, Beats, if_neg (by decide)]
    simp
  · refine iff_of_false (fun hlt => ?_) fun hbefore => halike hbefore.isAlike
    exact halike (hstrict.exists_apply_iff.1 ⟨_, hlt⟩)

/-- `==` holds of values that can be compared and of which neither comes before the other one. -/
theorem eq_apply_iff (hv : v.IsOrdered) (hw : w.IsOrdered) :
    eq.apply v w = .ok true ↔ v.Same w := by
  by_cases halike : v.IsAlike w
  · obtain ⟨o, ho, hlt, hgt⟩ := Value.exists_relation hv hw halike
    rw [apply, ho, Value.Same, ← hlt, ← hgt, and_iff_right halike]
    cases o <;> simp [holds]
  · rw [apply, Value.relation_eq_apart_iff.2 halike]
    exact iff_of_false (fun h => by cases h) fun hsame => halike hsame.1

/-- **Consistency of comparisons.** Of three values that are no floats that are not numbers, `<` is
transitive. Two steps of which the second one is `==` add up to one, unless a float is compared
with two different integers that are rounded to it, and then they do not. One of these integers
lies beyond `2 ^ 53`. -/
theorem consistent_unless_merged (ha : a.IsOrdered) (hb : b.IsOrdered) (hc : c.IsOrdered) :
    (lt.apply a b = .ok true → lt.apply b c = .ok true → lt.apply a c = .ok true) ∧
      (eq.apply a b = .ok true → eq.apply b c = .ok true →
        (eq.apply a c = .ok true ↔ ¬((∃ x, b = .float x) ∧ a.Merges c))) ∧
      (lt.apply a b = .ok true → eq.apply b c = .ok true →
        (lt.apply a c = .ok true ↔ ¬((∃ x, c = .float x) ∧ a.Merges b))) ∧
      ∀ v w : Value, v.Merges w → ∃ i j, v.operand? = some (.int i) ∧ w.operand? = some (.int j) ∧
        2 ^ 53 < max i.toInt.natAbs j.toInt.natAbs := by
  rw [lt_apply_iff ha hb, lt_apply_iff hb hc, lt_apply_iff ha hc, eq_apply_iff ha hb,
    eq_apply_iff hb hc, eq_apply_iff ha hc]
  exact ⟨Value.Before.trans, Value.Same.trans_iff, Value.Before.trans_same_iff,
    fun _ _ h => h.exists_lt_natAbs⟩

/-- An integer before its neighbour is before the float behind both; a truth value, a float and an
integer are equal; and the greatest integer before `2 ^ 53` is before this float. -/
theorem consistent_unless_merged_near_limit :
    (lt.apply (.int 9007199254740992) (.int 9007199254740993) = .ok true ∧
      lt.apply (.int 9007199254740993) (.float 9007199254740994.0) = .ok true ∧
      lt.apply (.int 9007199254740992) (.float 9007199254740994.0) = .ok true) ∧
    (eq.apply (.bool true) (.float 1.0) = .ok true ∧ eq.apply (.float 1.0) (.int 1) = .ok true ∧
      eq.apply (.bool true) (.int 1) = .ok true) ∧
    lt.apply (.int 9007199254740991) (.int 9007199254740992) = .ok true ∧
      eq.apply (.int 9007199254740992) (.float 9007199254740992.0) = .ok true ∧
      lt.apply (.int 9007199254740991) (.float 9007199254740992.0) = .ok true := by
  have hbehind : (Value.float 9007199254740994.0).IsOrdered := isOrdered_float (by decide +kernel)
  have hone : (Value.float 1.0).IsOrdered := isOrdered_float (by decide +kernel)
  have hlimit : (Value.float 9007199254740992.0).IsOrdered := isOrdered_float (by decide +kernel)
  have hints : lt.apply (.int 9007199254740992) (.int 9007199254740993) = .ok true := by decide
  have hfloat : lt.apply (.int 9007199254740993) (.float 9007199254740994.0) = .ok true := by
    decide +kernel
  have hleft : eq.apply (.bool true) (.float 1.0) = .ok true := by decide +kernel
  have hright : eq.apply (.float 1.0) (.int 1) = .ok true := by decide +kernel
  have hbelow : lt.apply (.int 9007199254740991) (.int 9007199254740992) = .ok true := by decide
  have hequal : eq.apply (.int 9007199254740992) (.float 9007199254740992.0) = .ok true := by
    decide +kernel
  refine ⟨⟨hints, hfloat, ?_⟩, ⟨hleft, hright, ?_⟩, hbelow, hequal, ?_⟩
  · exact (consistent_unless_merged (isOrdered_int _) (isOrdered_int _) hbehind).1 hints hfloat
  · refine ((consistent_unless_merged (isOrdered_bool _) hone (isOrdered_int _)).2.1 hleft
      hright).2 fun hmerged => ?_
    exact absurd ((merges_iff_of_operands rfl rfl).1 hmerged.2).lt_natAbs (by decide)
  · refine ((consistent_unless_merged (isOrdered_int _) (isOrdered_int _) hlimit).2.2.1 hbelow
      hequal).2 fun hmerged => ?_
    exact absurd ((merges_iff_of_operands rfl rfl).1 hmerged.2).lt_natAbs (by decide)

/-- The float `2 ^ 53` is equal to this integer and to the next one, which are not equal. -/
theorem not_forall_consistent : ¬∀ a b c : Value, a.IsOrdered → b.IsOrdered → c.IsOrdered →
    (eq.apply a b = .ok true → eq.apply b c = .ok true → eq.apply a c = .ok true) ∧
      (lt.apply a b = .ok true → lt.apply b c = .ok true → lt.apply a c = .ok true) ∧
      (lt.apply a b = .ok true → eq.apply b c = .ok true → lt.apply a c = .ok true) := by
  intro h
  have hlimit : (Value.float 9007199254740992.0).IsOrdered := isOrdered_float (by decide +kernel)
  have hequal := (h (.int 9007199254740992) (.float 9007199254740992.0) (.int 9007199254740993)
    (isOrdered_int _) hlimit (isOrdered_int _)).1 (by decide +kernel) (by decide +kernel)
  exact absurd hequal (by decide +kernel)

end Comparison

end TripletFacts
