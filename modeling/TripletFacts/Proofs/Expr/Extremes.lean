import TripletFacts.Proofs.Expr.Values
import TripletFacts.Proofs.Number.Order
import TripletFacts.Proofs.Outcome

/-!
# The least and the greatest of several values

The extreme one of several values is found by going through them once and keeping the best one so
far. Texts are compared with texts and numbers with numbers, integers exactly and other numbers as
floats. So two different integers can both be as great as one and the same float, and "neither is
greater" is no equivalence. But "greater" itself is transitive, since integers are never put into
another order by rounding them. So nothing that was beaten on the way beats the value that is kept
in the end: the value kept beats all that were kept before it.

## Main definitions

* `Number.Before`, `Value.Before`: the strict order of numbers and of values.
* `Value.IsAlike`: two texts, or two numbers.
* `Value.IsOrdered`: values other than floats that are not numbers.

## Main results

* `Number.Before.trans`, `Value.Before.trans`: the order is transitive.
* `Value.exists_relation`: values that are alike are compared by the order.
* `Function.exists_firstExtreme_iff`, `Function.not_beats_of_firstExtreme`: the search.
* `callFunction_extreme`: what `max` and `min` give.
-/

namespace TripletFacts

open Binary64

/-! ### Orders -/

section

variable {α : Type} [LT α] [DecidableEq α] [DecidableLT α] {a b : α}

theorem orderOf_eq_lt_iff : orderOf a b = .lt ↔ a < b := by
  unfold orderOf
  split
  · next h => exact iff_of_true rfl h
  · next h =>
    refine iff_of_false ?_ h
    split <;> exact nofun

theorem orderOf_eq_gt_iff [Std.Asymm (fun a b : α => a < b)]
    [Std.Trichotomous (fun a b : α => a < b)] : orderOf a b = .gt ↔ b < a := by
  unfold orderOf
  split
  · next h => exact iff_of_false nofun (Std.Asymm.asymm a b h)
  · next h =>
    split
    · next heq => exact iff_of_false nofun (heq ▸ h)
    · next hne =>
      refine iff_of_true rfl ?_
      by_contra hgt
      exact hne (Std.Trichotomous.trichotomous a b h hgt)

end

/-- Floats are compared as their bits with the sign. -/
theorem floatOrder_eq {x y : Float} (hx : x.isNaN = false) (hy : y.isNaN = false) :
    floatOrder x y = some (orderOf (signedBits x) (signedBits y)) := by
  simp only [floatOrder, orderOf, lt_iff_signedBits_lt hx hy, lt_iff_signedBits_lt hy hx,
    beq_iff_signedBits_eq hx hy]
  split
  · rfl
  · split
    · rfl
    · rw [if_pos (by omega)]

/-! ### The order of numbers -/

namespace Number

variable {k m n : Number}

/-- The order of numbers: integers exactly, other numbers as floats. -/
def Before : Number → Number → Prop
  | .int i, .int j => i < j
  | m, n => signedBits m.toFloat < signedBits n.toFloat

theorem before_iff (h : ∀ i j, m = .int i → n = .int j → False) :
    m.Before n ↔ signedBits m.toFloat < signedBits n.toFloat := by
  unfold Before
  split
  · exact (h _ _ rfl rfl).elim
  · exact Iff.rfl

/-- The floats of two numbers in order are in order, or the same. -/
theorem Before.le (h : m.Before n) : signedBits m.toFloat ≤ signedBits n.toFloat := by
  unfold Before at h
  split at h
  · exact signedBits_ofInt_mono (Int.le_of_lt (Int64.lt_iff_toInt_lt.1 h))
  · exact Int.le_of_lt h

/-- Numbers whose floats are in order are in order, also two integers. -/
theorem before_of_lt (h : signedBits m.toFloat < signedBits n.toFloat) : m.Before n := by
  unfold Before
  split
  · next i j =>
    refine Int64.lt_iff_toInt_lt.2 (Int.lt_of_not_ge fun hge => ?_)
    exact Int.not_lt.2 (signedBits_ofInt_mono hge) h
  · exact h

theorem not_before_self (n : Number) : ¬n.Before n := by
  unfold Before
  split
  · next heq =>
    cases heq
    exact Int64.lt_irrefl
  · exact Int.lt_irrefl _

/-- Of two steps between three numbers one is a step between floats, unless all are integers. -/
theorem Before.trans (h : k.Before m) (h' : m.Before n) : k.Before n := by
  cases k with
  | float x => exact before_of_lt (Int.lt_of_lt_of_le h h'.le)
  | int i =>
    cases m with
    | float y => exact before_of_lt (Int.lt_of_lt_of_le h h'.le)
    | int j =>
      cases n with
      | float z => exact before_of_lt (Int.lt_of_le_of_lt h.le h')
      | int l => exact Int64.lt_trans h h'

end Number

/-! ### The order of values -/

namespace Value

variable {u v w : Value}

/-- Two texts, or two numbers. -/
def IsAlike (v w : Value) : Prop := v.operand? = none ↔ w.operand? = none

/-- A value other than a float that is not a number. -/
def IsOrdered (v : Value) : Prop := ∀ x, v = .float x → x.isNaN = false

/-- The order of texts, and of numbers. -/
inductive Before : Value → Value → Prop
  | text {s t : String} (h : s < t) : Before (.str s) (.str t)
  | number {v w : Value} {m n : Number} (hv : v.operand? = some m) (hw : w.operand? = some n)
      (h : m.Before n) : Before v w

theorem not_before_self (v : Value) : ¬v.Before v := by
  intro h
  cases h with
  | text h => exact String.lt_irrefl _ h
  | number hv hw h =>
    obtain rfl := Option.some.inj (hv.symm.trans hw)
    exact Number.not_before_self _ h

theorem Before.trans (h : u.Before v) (h' : v.Before w) : u.Before w := by
  cases h with
  | text h =>
    cases h' with
    | text h' => exact .text (String.lt_trans h h')
    | number hv _ _ => cases hv
  | number hu hv h =>
    cases h' with
    | text _ => cases hv
    | number hv' hw h' =>
      obtain rfl := Option.some.inj (hv.symm.trans hv')
      exact .number hu hw (h.trans h')

theorem operand?_eq_none_iff : v.operand? = none ↔ ∃ s, v = .str s := by
  cases v <;> simp [operand?]

theorem before_str_iff {s t : String} : (str s).Before (.str t) ↔ s < t := by
  constructor
  · intro h
    cases h with
    | text h => exact h
    | number hv _ _ => cases hv
  · exact .text

theorem before_iff_of_operands {m n : Number} (hv : v.operand? = some m)
    (hw : w.operand? = some n) : v.Before w ↔ m.Before n := by
  constructor
  · intro h
    cases h with
    | text h => cases hv
    | number hv' hw' h =>
      obtain rfl := Option.some.inj (hv.symm.trans hv')
      obtain rfl := Option.some.inj (hw.symm.trans hw')
      exact h
  · exact .number hv hw

theorem IsAlike.exists_operand (h : v.IsAlike w) {m : Number} (hv : v.operand? = some m) :
    ∃ n, w.operand? = some n :=
  Option.ne_none_iff_exists'.1 fun hw => nomatch hv.symm.trans (h.2 hw)

/-- The number that a value counts as is in the order of floats. -/
theorem IsOrdered.isNaN_toFloat (hv : v.IsOrdered) {n : Number} (hn : v.operand? = some n) :
    n.toFloat.isNaN = false := by
  cases n with
  | int i => exact isNaN_of_isFinite (isFinite_ofInt i)
  | float x =>
    refine hv x ?_
    cases v <;> simp_all [operand?]

/-! ### Comparisons -/

/-- Only a text and a number are in no relation. -/
theorem relation_eq_apart_iff : v.relation w = .apart ↔ ¬v.IsAlike w := by
  unfold relation IsAlike
  split
  · exact iff_of_false nofun (not_not.2 Iff.rfl)
  · next htexts =>
    split
    · next hv hw => simp [hv, hw]
    · next hv hw =>
      rw [hv, hw]
      split <;> simp
    · next hnumbers =>
      refine iff_of_true rfl fun halike => ?_
      cases hv : v.operand? with
      | none =>
        obtain ⟨s, hs⟩ := operand?_eq_none_iff.1 hv
        obtain ⟨t, ht⟩ := operand?_eq_none_iff.1 (halike.1 hv)
        exact htexts s t hs ht
      | some m =>
        obtain ⟨n, hw⟩ := IsAlike.exists_operand halike hv
        exact hnumbers m n hv hw

theorem exists_relation_of_operands {m n : Number} (hv : v.operand? = some m)
    (hw : w.operand? = some n) (hm : m.toFloat.isNaN = false) (hn : n.toFloat.isNaN = false) :
    ∃ o, v.relation w = .ordered o ∧ (o = .lt ↔ m.Before n) ∧ (o = .gt ↔ n.Before m) := by
  unfold relation
  split
  · cases hv
  · split
    · next i j hi hj =>
      obtain rfl := Option.some.inj (hv.symm.trans hi)
      obtain rfl := Option.some.inj (hw.symm.trans hj)
      exact ⟨_, rfl, orderOf_eq_lt_iff, orderOf_eq_gt_iff⟩
    · next hints hm' hn' =>
      obtain rfl := Option.some.inj (hv.symm.trans hm')
      obtain rfl := Option.some.inj (hw.symm.trans hn')
      rw [floatOrder_eq hm hn, Number.before_iff hints,
        Number.before_iff fun j i hj hi => hints i j hi hj]
      exact ⟨_, rfl, orderOf_eq_lt_iff, orderOf_eq_gt_iff⟩
    · next hnumbers => exact (hnumbers m n hv hw).elim

/-- Values that are alike are related by their order. -/
theorem exists_relation (hv : v.IsOrdered) (hw : w.IsOrdered) (h : v.IsAlike w) :
    ∃ o, v.relation w = .ordered o ∧ (o = .lt ↔ v.Before w) ∧ (o = .gt ↔ w.Before v) := by
  cases hm : v.operand? with
  | none =>
    obtain ⟨s, rfl⟩ := operand?_eq_none_iff.1 hm
    obtain ⟨t, rfl⟩ := operand?_eq_none_iff.1 (h.1 hm)
    rw [before_str_iff, before_str_iff]
    exact ⟨_, rfl, orderOf_eq_lt_iff, orderOf_eq_gt_iff⟩
  | some m =>
    obtain ⟨n, hn⟩ := h.exists_operand hm
    rw [before_iff_of_operands hm hn, before_iff_of_operands hn hm]
    exact exists_relation_of_operands hm hn (hv.isNaN_toFloat hm) (hw.isNaN_toFloat hn)

end Value

namespace Comparison

variable {beats : Comparison} {u v w : Value}

/-- The comparisons by which an extreme value is chosen. -/
def IsStrict (op : Comparison) : Prop := op = lt ∨ op = gt

/-- One value beats another one if it comes before it, or for `>` if it comes behind it. -/
def Beats (op : Comparison) (v w : Value) : Prop := if op = gt then w.Before v else v.Before w

theorem not_beats_self (beats : Comparison) (v : Value) : ¬beats.Beats v v := by
  unfold Beats
  split <;> exact v.not_before_self

theorem Beats.trans (h : beats.Beats u v) (h' : beats.Beats v w) : beats.Beats u w := by
  by_cases hgt : beats = gt
  · rw [Beats, if_pos hgt] at *
    exact h'.trans h
  · rw [Beats, if_neg hgt] at *
    exact h.trans h'

/-- A value is compared with the values that are like it, and with no others. -/
theorem IsStrict.exists_apply_iff (h : beats.IsStrict) :
    (∃ b, beats.apply v w = .ok b) ↔ v.IsAlike w := by
  unfold apply
  by_cases halike : v.IsAlike w
  · refine iff_of_true ?_ halike
    cases hrelation : v.relation w with
    | ordered o => exact ⟨_, rfl⟩
    | unordered => exact ⟨_, rfl⟩
    | apart => exact absurd halike (Value.relation_eq_apart_iff.1 hrelation)
  · rw [Value.relation_eq_apart_iff.2 halike]
    refine iff_of_false ?_ halike
    rintro ⟨b, hb⟩
    rcases h with rfl | rfl <;> cases hb

/-- A comparison of values that are alike tells whether the one beats the other. -/
theorem IsStrict.apply_eq_ok_iff (h : beats.IsStrict) (hv : v.IsOrdered) (hw : w.IsOrdered)
    (halike : v.IsAlike w) {b : Bool} : beats.apply v w = .ok b ↔ (b = true ↔ beats.Beats v w) := by
  obtain ⟨o, ho, hlt, hgt⟩ := Value.exists_relation hv hw halike
  unfold apply
  rw [ho]
  rcases h with rfl | rfl
  · rw [Beats, if_neg (by decide), ← hlt]
    cases b <;> simp [holds]
  · rw [Beats, if_pos rfl, ← hgt]
    cases b <;> simp [holds]

end Comparison

/-! ### The search -/

namespace Function

variable {beats : Comparison} {best u v : Value} {vs : List Value}

/-- The search succeeds if all values are like the first one. -/
theorem exists_firstExtreme_iff (hbeats : beats.IsStrict) :
    (∃ u, firstExtreme beats best vs = .ok u) ↔ ∀ v ∈ vs, v.IsAlike best := by
  induction vs generalizing best with
  | nil => exact iff_of_true ⟨best, rfl⟩ nofun
  | cons v vs ih =>
    rw [List.forall_mem_cons]
    constructor
    · rintro ⟨u, hu⟩
      obtain ⟨hstep, h⟩ | ⟨hstep, h⟩ := firstExtreme_cons_eq_ok_iff.1 hu
      · have halike := hbeats.exists_apply_iff.1 ⟨_, hstep⟩
        exact ⟨halike, fun w hw => (ih.1 ⟨u, h⟩ w hw).trans halike⟩
      · exact ⟨hbeats.exists_apply_iff.1 ⟨_, hstep⟩, ih.1 ⟨u, h⟩⟩
    · rintro ⟨halike, hvs⟩
      obtain ⟨b, hb⟩ := hbeats.exists_apply_iff.2 halike
      cases b with
      | true =>
        obtain ⟨u, hu⟩ := ih.2 fun w hw => (hvs w hw).trans halike.symm
        exact ⟨u, firstExtreme_cons_eq_ok_iff.2 (.inl ⟨hb, hu⟩)⟩
      | false =>
        obtain ⟨u, hu⟩ := ih.2 hvs
        exact ⟨u, firstExtreme_cons_eq_ok_iff.2 (.inr ⟨hb, hu⟩)⟩

/-- **The invariant of the search.** The value that is found beats the first one, unless it is the
first one, and no value beats it. -/
theorem not_beats_of_firstExtreme (hbeats : beats.IsStrict)
    (hordered : ∀ v ∈ best :: vs, v.IsOrdered) (h : firstExtreme beats best vs = .ok u) :
    (u = best ∨ beats.Beats u best) ∧ ∀ w ∈ best :: vs, ¬beats.Beats w u := by
  induction vs generalizing best with
  | nil =>
    cases h
    exact ⟨.inl rfl, fun w hw => List.mem_singleton.1 hw ▸ beats.not_beats_self w⟩
  | cons v vs ih =>
    obtain ⟨hbest, hv, hvs⟩ : best.IsOrdered ∧ v.IsOrdered ∧ ∀ w ∈ vs, w.IsOrdered := by
      simpa only [List.forall_mem_cons] using hordered
    obtain ⟨hstep, h⟩ | ⟨hstep, h⟩ := firstExtreme_cons_eq_ok_iff.1 h
    · have halike := hbeats.exists_apply_iff.1 ⟨_, hstep⟩
      have hbeaten := ((hbeats.apply_eq_ok_iff hv hbest halike).1 hstep).1 rfl
      obtain ⟨hu, hunbeaten⟩ := ih (List.forall_mem_cons.2 ⟨hv, hvs⟩) h
      have hbeats_best : beats.Beats u best := by
        rcases hu with rfl | hu
        · exact hbeaten
        · exact hu.trans hbeaten
      refine ⟨.inr hbeats_best, List.forall_mem_cons.2 ⟨fun hback => ?_, hunbeaten⟩⟩
      exact beats.not_beats_self best (hback.trans hbeats_best)
    · have halike := hbeats.exists_apply_iff.1 ⟨_, hstep⟩
      have hkept : ¬beats.Beats v best := fun hbeaten =>
        nomatch ((hbeats.apply_eq_ok_iff hv hbest halike).1 hstep).2 hbeaten
      obtain ⟨hu, hunbeaten⟩ := ih (List.forall_mem_cons.2 ⟨hbest, hvs⟩) h
      rw [List.forall_mem_cons] at hunbeaten
      refine ⟨hu, List.forall_mem_cons.2 ⟨hunbeaten.1, List.forall_mem_cons.2 ⟨?_, hunbeaten.2⟩⟩⟩
      rcases hu with rfl | hu
      · exact hkept
      · exact fun hback => hkept (hback.trans hu)

/-- No value that the search went through is greater, or less, than the one that is found. -/
theorem apply_of_firstExtreme (hbeats : beats.IsStrict)
    (hordered : ∀ v ∈ best :: vs, v.IsOrdered) (h : firstExtreme beats best vs = .ok u) :
    ∀ w ∈ best :: vs, beats.apply w u = .ok false := by
  have halike : ∀ w ∈ best :: vs, w.IsAlike best :=
    List.forall_mem_cons.2 ⟨Iff.rfl, (exists_firstExtreme_iff hbeats).1 ⟨u, h⟩⟩
  have hu := mem_of_firstExtreme h
  intro w hw
  rw [hbeats.apply_eq_ok_iff (hordered w hw) (hordered u hu)
    ((halike w hw).trans (halike u hu).symm)]
  exact iff_of_false Bool.false_ne_true ((not_beats_of_firstExtreme hbeats hordered h).2 w hw)

/-- The functions that give an extreme value, with the comparison by which they choose it. -/
theorem callFunction_eq_applyExtreme {name : String}
    (h : (name, beats) ∈ [("max", Comparison.gt), ("min", Comparison.lt)]) :
    beats.IsStrict ∧ ∃ f : Function, callFunction name = f.applyExtreme beats := by
  simp only [List.mem_cons, List.not_mem_nil, or_false, Prod.mk.injEq] at h
  rcases h with ⟨rfl, rfl⟩ | ⟨rfl, rfl⟩
  · exact ⟨.inr rfl, max, funext (callFunction_name max)⟩
  · exact ⟨.inl rfl, min, funext (callFunction_name min)⟩

end Function

theorem Value.forall_isAlike_iff {first : Value} {vs : List Value} :
    (∀ v ∈ vs, v.IsAlike first) ↔
      (∀ v ∈ first :: vs, ∃ s, v = .str s) ∨ ∀ v ∈ first :: vs, ¬∃ s, v = .str s := by
  simp only [IsAlike, operand?_eq_none_iff, List.forall_mem_cons]
  by_cases htext : ∃ s, first = .str s
  · simp only [htext, iff_true, true_and, not_true_eq_false, false_and, or_false]
  · simp only [htext, iff_false, false_and, false_or, not_false_eq_true, true_and]

/-- **What `max` and `min` give.** For at least two values, none of them a float that is not a
number, they succeed if and only if all values are texts or none is. The result is one of the
values, and none is greater than the result of `max`, or less than that of `min`. -/
theorem callFunction_extreme {name : String} {beats : Comparison}
    (h : (name, beats) ∈ [("max", Comparison.gt), ("min", Comparison.lt)]) {args : List Value}
    (hlength : 2 ≤ args.length) (hordered : ∀ x, Value.float x ∈ args → x.isNaN = false) :
    ((∃ v, callFunction name args = .ok v) ↔
        (∀ v ∈ args, ∃ s, v = .str s) ∨ ∀ v ∈ args, ¬∃ s, v = .str s) ∧
      ∀ v, callFunction name args = .ok v →
        v ∈ args ∧ ∀ w ∈ args, beats.apply w v = .ok false := by
  obtain ⟨hbeats, f, hf⟩ := Function.callFunction_eq_applyExtreme h
  obtain ⟨first, second, vs, rfl⟩ : ∃ first second vs, args = first :: second :: vs := by
    match args, hlength with
    | first :: second :: vs, _ => exact ⟨first, second, vs, rfl⟩
  have hsearch : callFunction name (first :: second :: vs) =
      Function.firstExtreme beats first (second :: vs) := by
    rw [hf, Function.applyExtreme]
  rw [hsearch]
  refine ⟨(Function.exists_firstExtreme_iff hbeats).trans Value.forall_isAlike_iff,
    fun v hv => ⟨Function.mem_of_firstExtreme hv, ?_⟩⟩
  refine Function.apply_of_firstExtreme hbeats (fun w hw x hx => ?_) hv
  exact hordered x (hx ▸ hw)

/-- The float is as great as both integers, and still the less one of them is found. -/
theorem callFunction_extreme_min :
    let args := [Value.int 9007199254740993, .float 9007199254740992.0, .int 9007199254740992]
    ("min", Comparison.lt) ∈ [("max", Comparison.gt), ("min", Comparison.lt)] ∧
      2 ≤ args.length ∧ (∀ x, Value.float x ∈ args → x.isNaN = false) ∧
      callFunction "min" args = .ok (.int 9007199254740992) ∧
      ∀ w ∈ args, Comparison.lt.apply w (.int 9007199254740992) = .ok false := by
  intro args
  have hmin : ("min", Comparison.lt) ∈ [("max", Comparison.gt), ("min", Comparison.lt)] := by
    decide
  have hordered : ∀ x, Value.float x ∈ args → x.isNaN = false := by
    intro x hx
    simp only [args, List.mem_cons, List.not_mem_nil, reduceCtorEq, Value.float.injEq, or_false,
      false_or] at hx
    subst hx
    decide +kernel
  have hvalue : callFunction "min" args = .ok (.int 9007199254740992) := by
    decide +kernel
  exact ⟨hmin, by decide, hordered, hvalue,
    ((callFunction_extreme hmin (by decide) hordered).2 _ hvalue).2⟩

end TripletFacts
