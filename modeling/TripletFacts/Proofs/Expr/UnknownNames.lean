import TripletFacts.Proofs.Expr.Scan
import TripletFacts.Proofs.Expr.Values
import TripletFacts.Proofs.Expr.Variation

/-!
# Names that are not known

A name that is no word of the grammar and names no function can only be the name of a call, and such
a call has no value. An expression that has a value skips these calls, and it keeps the value when
they get other names.

## Main definitions

* `Expr.IsUnknown`: names that are not known.
* `Variation.unknown`: expressions that differ in unknown names.

## Main results

* `Token.Varies.trans`: one exchange of unknown names after another is one exchange.
* `Scan.run_of_varies`: exchanged names do not matter for parentheses and comparisons.
* `Expr.eval_of_varies`: an expression keeps its value.
-/

namespace TripletFacts

namespace Expr

/-- A name that may be the name of a call and nothing else. -/
def IsCallable (name : String) : Prop := name ≠ "not" ∧ constant? name = none

/-- A name that is no word of the grammar and names no function. -/
def IsUnknown (name : String) : Prop :=
  IsCallable name ∧ name ≠ "and" ∧ name ≠ "or" ∧ Function.ofName? name = none

instance (name : String) : Decidable (IsCallable name) := inferInstanceAs (Decidable (_ ∧ _))

instance (name : String) : Decidable (IsUnknown name) := inferInstanceAs (Decidable (_ ∧ _ ∧ _ ∧ _))

end Expr

open TripletFacts.Expr

/-- Names that are not known get other names. -/
def Variation.unknown : Variation where
  text _ _ := False
  name a b := IsUnknown a ∧ IsCallable b
  not_connective := by
    rintro a b ⟨⟨-, hand, hor, -⟩, -⟩ c
    cases c with
    | and => exact hand
    | or => exact hor
  not_negation := fun _ _ h => ⟨h.1.1.1, h.2.1⟩
  not_constant := fun _ _ h => ⟨h.1.1.2, h.2.2⟩

/-! ### Tokens -/

/-- One exchange of names after another. -/
theorem Token.Varies.trans {t t' t'' : Token} (h : t.Varies .unknown t')
    (h' : t'.Varies .unknown t'') : t.Varies .unknown t'' := by
  cases h with
  | same => exact h'
  | text h => exact h.elim
  | name h =>
    cases h' with
    | same => exact .name h
    | name h' => exact .name ⟨h.1, h'.2⟩

theorem forall₂_varies_trans {ts ts' ts'' : List Token}
    (h : List.Forall₂ (Token.Varies .unknown) ts ts')
    (h' : List.Forall₂ (Token.Varies .unknown) ts' ts'') :
    List.Forall₂ (Token.Varies .unknown) ts ts'' := by
  induction h generalizing ts'' with
  | nil =>
    cases h'
    exact .nil
  | cons ht _ ih =>
    cases h' with
    | cons ht' hts' => exact .cons (ht.trans ht') (ih hts')

theorem forall₂_varies_refl (V : Variation) (ts : List Token) :
    List.Forall₂ (Token.Varies V) ts ts :=
  List.forall₂_same.2 fun t _ => .same t

/-- Exchanged names do not matter for parentheses and comparisons. -/
theorem Scan.run_of_varies {V : Variation} {ts ts' : List Token}
    (h : List.Forall₂ (Token.Varies V) ts ts') (s : Scan) : s.run ts' = s.run ts := by
  induction h generalizing s with
  | nil => rfl
  | @cons t t' ts ts' ht _ ih =>
    have hnext : s.next t' = s.next t := by cases ht <;> rfl
    rw [Scan.run_cons, Scan.run_cons, hnext]
    congr 1
    funext s'
    exact ih s'

/-! ### Values -/

namespace Expr

/-- A call of an unknown name has no value, whatever its arguments. -/
theorem eval_call_of_isUnknown {name : String} (h : IsUnknown name) (args : List Expr)
    (v : Value) : (call name args).eval ≠ .ok v := by
  intro hv
  obtain ⟨vs, -, hvalue⟩ := eval_call_eq_ok_iff.1 hv
  rw [callFunction, h.2.2.2] at hvalue
  cases hvalue

mutual

/-- An expression that has a value keeps it when unknown names are exchanged. -/
theorem eval_of_varies : (e : Expr) → {e' : Expr} → {v : Value} → e.Varies .unknown e' →
    e.eval = .ok v → e'.eval = .ok v
  | literal _, _, _, h, hv => by
    cases h with
    | same => exact hv
    | text h => exact h.elim
  | binary left op right, _, v, h, hv => by
    cases h with
    | @binary _ left' _ right' _ hleft hright =>
      cases op with
      | combine op =>
        obtain ⟨l, hl, hrest⟩ := eval_combine_eq_ok_iff.1 hv
        refine eval_combine_eq_ok_iff.2 ⟨l, eval_of_varies left hleft hl, ?_⟩
        split_ifs at hrest ⊢ with hdecides
        · exact hrest
        · obtain ⟨r, hr, hv⟩ := hrest
          exact ⟨r, eval_of_varies right hright hr, hv⟩
      | compare op =>
        obtain ⟨l, r, hl, hr, hv⟩ := eval_compare_eq_ok_iff.1 hv
        exact eval_compare_eq_ok_iff.2
          ⟨l, r, eval_of_varies left hleft hl, eval_of_varies right hright hr, hv⟩
      | compute op =>
        obtain ⟨l, r, hl, hr, hv⟩ := eval_compute_eq_ok_iff.1 hv
        exact eval_compute_eq_ok_iff.2
          ⟨l, r, eval_of_varies left hleft hl, eval_of_varies right hright hr, hv⟩
  | unary op operand, _, v, h, hv => by
    cases h with
    | unary _ hoperand =>
      obtain ⟨w, hw, hv⟩ := eval_unary_eq_ok_iff.1 hv
      exact eval_unary_eq_ok_iff.2 ⟨w, eval_of_varies operand hoperand hw, hv⟩
  | call name args, _, v, h, hv => by
    cases h with
    | call hname hargs =>
      rcases hname with rfl | hname
      · obtain ⟨vs, hvs, hv⟩ := eval_call_eq_ok_iff.1 hv
        exact eval_call_eq_ok_iff.2 ⟨vs, evalList_of_varies args hargs hvs, hv⟩
      · exact absurd hv (eval_call_of_isUnknown hname.1 args v)

/-- Expressions that have values keep them. -/
theorem evalList_of_varies : (es : List Expr) → {es' : List Expr} → {vs : List Value} →
    List.Forall₂ (Varies .unknown) es es' → evalList es = .ok vs → evalList es' = .ok vs
  | [], _, _, h, hvs => by
    cases h
    exact hvs
  | e :: es, _, vs, h, hvs => by
    cases h with
    | cons he hes =>
      obtain ⟨v, ws, hv, hws, rfl⟩ := evalList_cons_eq_ok_iff.1 hvs
      exact evalList_cons_eq_ok_iff.2
        ⟨v, ws, eval_of_varies e he hv, evalList_of_varies es hes hws, rfl⟩

end

end Expr

end TripletFacts
