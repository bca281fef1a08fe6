import TripletFacts.Formula.Compute
import TripletFacts.Proofs.Expr.Operand
import TripletFacts.Proofs.Expr.Spelling
import TripletFacts.Proofs.Expr.Values
import TripletFacts.Proofs.Number.Finite

/-!
# Values are finite

No expression has a value that is infinite or not a number. The numerals of a text are finite, since
others are refused, and an operation on finite numbers is refused if its result is not finite. This
is checked only when the operands are finite, so that it has to be known of them first: it goes from
the numerals through the tree to the value, and it holds of the value of every part on the way.

A value of this kind is written as an operand, and can be put into another expression.

## Main definitions

* `Value.IsFinite`: values that are finite as operands.
* `Expr.Inside`: the parts of an expression.
* `Value.reread`: what a value is when it was written and is read again.

## Main results

* `Expr.isFinite_of_eval`: operations lead from finite numbers to finite numbers.
* `Expr.Derives.isFinite`: the literals of a tree are numbers of its text.
* `finite_of_evaluate_of_compute`: the values of texts, of their parts and of formulas.
-/

namespace TripletFacts

/-- A value that is finite if it is taken as an operand. -/
def Value.IsFinite (v : Value) : Prop := ∀ n, v.operand? = some n → n.toFloat.isFinite = true

namespace Value

variable {v : Value}

@[simp] theorem isFinite_float {x : Float} : (float x).IsFinite ↔ x.isFinite = true := by
  simp [IsFinite, operand?, Number.toFloat]

@[simp] theorem isFinite_int (i : Int64) : (int i).IsFinite := by
  rintro n h
  obtain rfl : Number.int i = n := Option.some.inj h
  exact Binary64.isFinite_ofInt i

@[simp] theorem isFinite_bool (b : Bool) : (bool b).IsFinite := by
  rintro n h
  obtain rfl : Number.int (if b then 1 else 0) = n := Option.some.inj h
  exact Binary64.isFinite_ofInt _

@[simp] theorem isFinite_str (s : String) : (str s).IsFinite := nofun

theorem isFinite_toValue {n : Number} (h : n.toFloat.isFinite = true) : n.toValue.IsFinite := by
  cases n with
  | int i => exact isFinite_int i
  | float x => exact isFinite_float.2 h

end Value

/-! ### Operations -/

namespace Arithmetic

variable {op : Arithmetic} {v : Value}

/-- A result of floats is checked if they are finite. -/
theorem isFinite_onFloats {l r : Float} (hl : l.isFinite = true) (hr : r.isFinite = true)
    (h : onFloats op l r = .ok v) : v.IsFinite := by
  have hchecked {x : Float} (hx : (if !x.isFinite && l.isFinite && r.isFinite then
      .error (.noFiniteResult op l r) else .ok (.float x)) =
        (Except.ok v : Except EvalError Value)) :
      v.IsFinite := by
    cases hfinite : x.isFinite with
    | true =>
      rw [hfinite] at hx
      obtain rfl : Value.float x = v := Except.ok.inj hx
      exact Value.isFinite_float.2 hfinite
    | false =>
      rw [hfinite, hl, hr] at hx
      cases hx
  cases op with
  | add | sub | mul => exact hchecked h
  | div | mod | pow =>
    rw [onFloats] at h
    split at h
    · cases h
    · exact hchecked h

theorem isFinite_onInts {i j : Int64} (h : onInts op i j = .ok v) : v.IsFinite := by
  unfold onInts at h
  split at h
  · cases h
  · split at h
    · cases h
      exact Value.isFinite_int _
    · exact isFinite_onFloats (Binary64.isFinite_ofInt i) (Binary64.isFinite_ofInt j) h

theorem isFinite_apply {l r : Value} (hl : l.IsFinite) (hr : r.IsFinite)
    (h : op.apply l r = .ok v) : v.IsFinite := by
  unfold apply at h
  split at h
  · cases h
    exact Value.isFinite_str _
  · split at h
    · exact isFinite_onInts h
    · next m n _ hm hn => exact isFinite_onFloats (hl m hm) (hr n hn) h
    · cases h

end Arithmetic

theorem UnaryOperator.isFinite_apply {op : UnaryOperator} {w v : Value} (hw : w.IsFinite)
    (h : op.apply w = .ok v) : v.IsFinite := by
  unfold apply at h
  split at h
  · cases h
    exact Value.isFinite_bool _
  · split at h
    · cases h
      exact Value.isFinite_int _
    · cases h
      exact Value.isFinite_float.2 (Binary64.isFinite_neg (Binary64.isFinite_ofInt _))
  · next x hx =>
    have hfinite := hw (.float x) hx
    cases h
    exact Value.isFinite_float.2 (Binary64.isFinite_neg hfinite)
  · next n hn =>
    have hfinite := hw n hn
    cases h
    exact Value.isFinite_toValue hfinite
  · cases h

namespace Function

variable {f : Function} {args : List Value} {v : Value}

/-- The only argument of a function is finite. -/
theorem isFinite_numericArgument (hargs : ∀ w ∈ args, w.IsFinite) {n : Number}
    (h : f.numericArgument args = .ok n) : n.toFloat.isFinite = true := by
  unfold numericArgument at h
  split at h
  · next w =>
    split at h
    · next m hm =>
      cases h
      exact hargs w List.mem_cons_self n hm
    · cases h
  · cases h

theorem isFinite_applyElementary {g : Float → Float} (hargs : ∀ w ∈ args, w.IsFinite)
    (h : f.applyElementary g args = .ok v) : v.IsFinite := by
  unfold applyElementary at h
  split at h
  · cases h
  · next n hn =>
    have hx := isFinite_numericArgument hargs hn
    cases hy : (g n.toFloat).isFinite with
    | true =>
      simp only [hx, hy, Bool.not_true, Bool.and_false, Bool.false_eq_true, if_false] at h
      cases h
      exact Value.isFinite_float.2 hy
    | false =>
      simp only [hx, hy, Bool.not_false, Bool.and_true, if_true] at h
      cases h

theorem isFinite_applyAbs (hargs : ∀ w ∈ args, w.IsFinite) (h : applyAbs args = .ok v) :
    v.IsFinite := by
  unfold applyAbs at h
  split at h
  · cases h
  · split at h
    · cases h
      exact Value.isFinite_int _
    · cases h
      exact Value.isFinite_float.2 (Binary64.isFinite_abs (Binary64.isFinite_ofInt _))
  · next x hx =>
    have hfinite := isFinite_numericArgument hargs hx
    cases h
    exact Value.isFinite_float.2 (Binary64.isFinite_abs hfinite)

theorem isFinite_applyExtreme {beats : Comparison} (hargs : ∀ w ∈ args, w.IsFinite)
    (h : f.applyExtreme beats args = .ok v) : v.IsFinite := by
  unfold applyExtreme at h
  split at h
  · exact hargs v (mem_of_firstExtreme h)
  · cases h

theorem isFinite_apply (hargs : ∀ w ∈ args, w.IsFinite) (h : f.apply args = .ok v) :
    v.IsFinite := by
  unfold apply at h
  split at h
  · exact isFinite_applyElementary hargs h
  · exact isFinite_applyAbs hargs h
  · split at h
    · next a b =>
      exact Arithmetic.isFinite_apply (hargs a (by simp)) (hargs b (by simp)) h
    · cases h
  · exact isFinite_applyExtreme hargs h
  · exact isFinite_applyExtreme hargs h

end Function

theorem isFinite_callFunction {name : String} {args : List Value} {v : Value}
    (hargs : ∀ w ∈ args, w.IsFinite) (h : callFunction name args = .ok v) : v.IsFinite := by
  unfold callFunction at h
  split at h
  · exact Function.isFinite_apply hargs h
  · cases h

namespace Expr

/-! ### Trees -/

/-- An expression is inside of another one: it is a part of it, or the whole. -/
inductive Inside (e : Expr) : Expr → Prop
  | self : Inside e e
  | left {l r : Expr} (op : Operator) (h : Inside e l) : Inside e (binary l op r)
  | right {l r : Expr} (op : Operator) (h : Inside e r) : Inside e (binary l op r)
  | operand {x : Expr} (op : UnaryOperator) (h : Inside e x) : Inside e (unary op x)
  | argument {x : Expr} {args : List Expr} (name : String) (hx : x ∈ args) (h : Inside e x) :
      Inside e (call name args)

/-- A part of a part is a part. -/
theorem Inside.trans {e e' e'' : Expr} (h : Inside e e') (h' : Inside e' e'') : Inside e e'' := by
  induction h' with
  | self => exact h
  | left op _ ih => exact .left op ih
  | right op _ ih => exact .right op ih
  | operand op _ ih => exact .operand op ih
  | argument name hx _ ih => exact .argument name hx ih

/-- The literals of an expression are finite. -/
def HasFiniteLiterals (e : Expr) : Prop := ∀ v, Inside (literal v) e → v.IsFinite

theorem HasFiniteLiterals.of_inside {e e' : Expr} (h : e'.HasFiniteLiterals) (he : Inside e e') :
    e.HasFiniteLiterals :=
  fun v hv => h v (hv.trans he)

mutual

/-- An expression with finite literals has a finite value. -/
theorem isFinite_of_eval : (e : Expr) → {v : Value} → e.HasFiniteLiterals → e.eval = .ok v →
    v.IsFinite
  | literal w, v, h, hv => by
    rw [eval] at hv
    cases hv
    exact h w .self
  | binary left op right, v, h, hv => by
    have hleft := h.of_inside (.left op .self)
    have hright := h.of_inside (.right op .self)
    cases op with
    | combine op =>
      obtain ⟨l, -, hrest⟩ := eval_combine_eq_ok_iff.1 hv
      split at hrest
      · exact hrest ▸ Value.isFinite_bool _
      · obtain ⟨r, -, rfl⟩ := hrest
        exact Value.isFinite_bool _
    | compare op =>
      obtain ⟨l, r, -, -, hv⟩ := eval_compare_eq_ok_iff.1 hv
      obtain ⟨b, -, rfl⟩ := map_eq_ok_iff.1 hv
      exact Value.isFinite_bool b
    | compute op =>
      obtain ⟨l, r, hl, hr, hv⟩ := eval_compute_eq_ok_iff.1 hv
      exact Arithmetic.isFinite_apply (isFinite_of_eval left hleft hl)
        (isFinite_of_eval right hright hr) hv
  | unary op operand, v, h, hv => by
    obtain ⟨w, hw, hv⟩ := eval_unary_eq_ok_iff.1 hv
    exact UnaryOperator.isFinite_apply
      (isFinite_of_eval operand (h.of_inside (.operand op .self)) hw) hv
  | call name args, v, h, hv => by
    obtain ⟨vs, hvs, hv⟩ := eval_call_eq_ok_iff.1 hv
    exact isFinite_callFunction
      (isFinite_of_evalList args (fun a ha => h.of_inside (.argument name ha .self)) hvs) hv

/-- Expressions with finite literals have finite values. -/
theorem isFinite_of_evalList : (es : List Expr) → {vs : List Value} →
    (∀ e ∈ es, e.HasFiniteLiterals) → evalList es = .ok vs → ∀ v ∈ vs, v.IsFinite
  | [], vs, _, hvs => by
    rw [evalList] at hvs
    cases hvs
    exact nofun
  | e :: es, vs, h, hvs => by
    obtain ⟨v, ws, hv, hws, rfl⟩ := evalList_cons_eq_ok_iff.1 hvs
    rw [List.forall_mem_cons] at h ⊢
    exact ⟨isFinite_of_eval e h.1 hv, isFinite_of_evalList es h.2 hws⟩

end

/-! ### Chains -/

theorem hasFiniteLiterals_literal {v : Value} (h : v.IsFinite) :
    (literal v).HasFiniteLiterals := by
  intro w hw
  cases hw
  exact h

theorem HasFiniteLiterals.binary {left right : Expr} (op : Operator)
    (hleft : left.HasFiniteLiterals) (hright : right.HasFiniteLiterals) :
    (Expr.binary left op right).HasFiniteLiterals := by
  intro v hv
  cases hv with
  | left _ hv => exact hleft v hv
  | right _ hv => exact hright v hv

theorem HasFiniteLiterals.unary {e : Expr} (op : UnaryOperator) (h : e.HasFiniteLiterals) :
    (Expr.unary op e).HasFiniteLiterals := by
  intro v hv
  cases hv with
  | operand _ hv => exact h v hv

theorem HasFiniteLiterals.call {args : List Expr} (name : String)
    (h : ∀ a ∈ args, a.HasFiniteLiterals) : (Expr.call name args).HasFiniteLiterals := by
  intro v hv
  cases hv with
  | argument _ ha hv => exact h _ ha v hv

theorem hasFiniteLiterals_leftNested {first : Expr} {links : List Link}
    (hfirst : first.HasFiniteLiterals) (hlinks : ∀ l ∈ links, l.expr.HasFiniteLiterals) :
    (leftNested first links).HasFiniteLiterals := by
  induction links generalizing first with
  | nil => exact hfirst
  | cons l links ih =>
    rw [List.forall_mem_cons] at hlinks
    exact ih (hfirst.binary l.op hlinks.1) hlinks.2

theorem hasFiniteLiterals_neighbours {first : Expr} {links : List Link}
    (hfirst : first.HasFiniteLiterals) (hlinks : ∀ l ∈ links, l.expr.HasFiniteLiterals) :
    ∀ e ∈ neighbours first links, e.HasFiniteLiterals := by
  induction links generalizing first with
  | nil => exact nofun
  | cons l links ih =>
    rw [List.forall_mem_cons] at hlinks
    rw [neighbours, List.forall_mem_cons]
    exact ⟨hfirst.binary l.op hlinks.1, ih hlinks.1 hlinks.2⟩

theorem hasFiniteLiterals_allOf {first : Expr} {es : List Expr} (hfirst : first.HasFiniteLiterals)
    (hes : ∀ e ∈ es, e.HasFiniteLiterals) : (allOf first es).HasFiniteLiterals := by
  induction es generalizing first with
  | nil => exact hfirst
  | cons e es ih =>
    rw [List.forall_mem_cons] at hes
    exact ih (hfirst.binary _ hes.1) hes.2

/-- The literals of a chain are those of its operands. -/
theorem hasFiniteLiterals_result (level : Level) {first : Expr} {links : List Link}
    (hfirst : first.HasFiniteLiterals) (hlinks : ∀ l ∈ links, l.expr.HasFiniteLiterals) :
    (level.result first links).HasFiniteLiterals := by
  cases level with
  | disjunction | conjunction | sum | product => exact hasFiniteLiterals_leftNested hfirst hlinks
  | comparison =>
    have hneighbours := hasFiniteLiterals_neighbours hfirst hlinks
    rw [Level.result, comparisons]
    split
    · exact hfirst
    · next c cs hcs =>
      rw [hcs, List.forall_mem_cons] at hneighbours
      exact hasFiniteLiterals_allOf hneighbours.1 hneighbours.2

/-! ### Texts -/

/-- A token that is no number, or a finite one. -/
def IsFiniteToken (t : Token) : Prop := ∀ n, t = .number n → n.toFloat.isFinite = true

/-- The number of a numeral is finite. -/
theorem isFinite_of_readNumber {p : Nat} {text : List Char} {n : Number}
    (h : Token.readNumber p text = .ok n) : n.toFloat.isFinite = true := by
  unfold Token.readNumber at h
  split at h
  · cases h
    exact Binary64.isFinite_ofInt _
  · split at h
    · cases h
    · next d _ =>
      cases hfinite : (d.toFloat false).isFinite with
      | true =>
        simp only [hfinite, if_true] at h
        cases h
        exact hfinite
      | false =>
        simp only [hfinite, Bool.false_eq_true, if_false] at h
        cases h

theorem isFiniteToken_of_spells {text : List Char} {ts : List Token} (h : Spells text ts) :
    ∀ t ∈ ts, IsFiniteToken t := by
  induction h with
  | nil => exact nofun
  | blank hc h ih => exact ih
  | token hc ht h ih =>
    refine List.forall_mem_cons.2 ⟨fun n hn => ?_, ih⟩
    subst hn
    generalize List.length _ = width at ht
    cases Token.begins_of_read?_eq_some ht with
    | number _ hread => exact isFinite_of_readNumber hread

/-- The literals of a tree are numbers of its text. -/
theorem Derives.isFinite {n : Nat} {A : Nonterminal} {ts : List Token} {e : Expr}
    (h : Derives n A ts e) (hts : ∀ t ∈ ts, IsFiniteToken t) : e.HasFiniteLiterals := by
  induction h with
  | @chain n level first links hfirst hsign hlink ihfirst ihlink =>
    rw [List.forall_mem_append] at hts
    refine hasFiniteLiterals_result level (ihfirst hts.1) fun l hl => ihlink l hl fun t ht => ?_
    exact hts.2 t (List.mem_flatMap.2 ⟨l, hl, List.mem_cons_of_mem _ ht⟩)
  | @unary n A t op ts e ht h ih => exact (ih (List.forall_mem_cons.1 hts).2).unary op
  | unnegated h hnot ih => exact ih hts
  | unsigned h ih | base h ih => exact ih hts
  | power hbase hexponent ihbase ihexponent =>
    rw [List.forall_mem_append, List.forall_mem_cons] at hts
    exact (ihbase hts.1).binary _ (ihexponent hts.2.2)
  | number x =>
    exact hasFiniteLiterals_literal (Value.isFinite_toValue (hts _ List.mem_cons_self x rfl))
  | str s => exact hasFiniteLiterals_literal (Value.isFinite_str s)
  | constant h => exact hasFiniteLiterals_literal (Value.isFinite_bool _)
  | group h ih =>
    rw [List.forall_mem_cons, List.forall_mem_append] at hts
    exact ih hts.2.1
  | emptyCall h => exact .call _ nofun
  | @call n name first more h hfirst hmore ihfirst ihmore =>
    simp only [List.forall_mem_cons, List.forall_mem_append] at hts
    refine .call name (List.forall_mem_cons.2 ⟨ihfirst hts.2.2.1.1, ?_⟩)
    rw [List.forall_mem_map]
    exact fun a ha => ihmore a ha fun t ht =>
      hts.2.2.1.2 t (List.mem_flatMap.2 ⟨a, ha, List.mem_cons_of_mem _ ht⟩)

/-- What is parsed has finite literals. -/
theorem hasFiniteLiterals_of_parse {text : List Char} {e : Expr} (h : parse text = .ok e) :
    e.HasFiniteLiterals := by
  obtain ⟨ts, hts, -, -, hderives⟩ := parse_eq_ok_iff_tokens?.1 h
  exact hderives.isFinite (isFiniteToken_of_spells (spells_of_tokens? hts))

end Expr

theorem isFinite_of_evaluate {text : List Char} {v : Value} (h : evaluate text = .ok v) :
    v.IsFinite := by
  obtain ⟨e, he, hv⟩ := evaluate_eq_ok_iff.1 h
  exact Expr.isFinite_of_eval e (Expr.hasFiniteLiterals_of_parse he) hv

/-! ### Operands -/

/-- What is read where a value was written. The digits of the least integer are too long for an
integer when they are read without the sign, and are read as a float. -/
def Value.reread (v : Value) : Value :=
  if v = .int Int64.minValue then .float (Binary64.ofInt Int64.minValue.toInt) else v

/-- A finite value is written as an operand with this value. -/
theorem Value.IsFinite.standsFor {v : Value} (h : v.IsFinite) :
    StandsFor v.operandText v.reread := by
  by_cases hleast : v = .int Int64.minValue
  · rw [reread, if_pos hleast, hleast]
    exact standsFor_operandText_minValue
  · rw [reread, if_neg hleast]
    cases v with
    | bool b => exact standsFor_operandText_bool b
    | int i => exact standsFor_operandText_int fun hi => hleast (hi ▸ rfl)
    | float x => exact standsFor_operandText_float (isFinite_float.1 h)
    | str s => exact standsFor_operandText_str s

/-- **Values are finite.** If a text has a float as its value, then the float is finite. So is the
value of every part of its expression that has one, also when it is taken as an operand. The result
of a formula is finite whatever the facts say, and where the formula is an item of another one, the
text of the result is read as one operand with this value. -/
theorem finite_of_evaluate_of_compute :
    (∀ text x, evaluate text = .ok (.float x) → x.isFinite = true) ∧
      (∀ text e, Expr.parse text = .ok e →
        ∀ (part : Expr) v, part.Inside e → part.eval = .ok v → v.IsFinite) ∧
      ∀ (f : Formula) facts special v, f.compute facts special = .ok v →
        v.IsFinite ∧
          (Item.formula f.items f.settings).operand facts special = .ok v.operandText ∧
          StandsFor v.operandText v.reread := by
  refine ⟨fun text x h => Value.isFinite_float.1 (isFinite_of_evaluate h),
    fun text e he part v hpart hv => ?_, fun f facts special v h => ?_⟩
  · exact part.isFinite_of_eval ((Expr.hasFiniteLiterals_of_parse he).of_inside hpart) hv
  · rw [Formula.compute] at h
    rw [Item.operand]
    cases hcode : Item.operands facts special f.items with
    | error err =>
      rw [hcode] at h
      cases h
    | ok code =>
      rw [hcode] at h
      have hv : evaluate code = .ok v := h
      have hfinite := isFinite_of_evaluate hv
      refine ⟨hfinite, ?_, hfinite.standsFor⟩
      simp only [hv]
      rfl

/-- An integer that is too great is a float, and its text has a sign and an exponent. -/
theorem finite_of_compute_square :
    let f : Formula := ⟨[.number (.int (-4294967296)), .text "*4294967296"], .standard⟩
    f.compute (.empty .standard) none = .ok (.float (-18446744073709551616.0)) ∧
      (-18446744073709551616.0 : Float).isFinite = true ∧
      (Item.formula f.items f.settings).operand (.empty .standard) none =
        .ok "(-1.8446744073709552e19)".toList ∧
      StandsFor "(-1.8446744073709552e19)".toList (.float (-18446744073709551616.0)) := by
  intro f
  have hvalue : f.compute (.empty .standard) none = .ok (.float (-18446744073709551616.0)) := by
    decide +kernel
  have hwritten : (Value.float (-18446744073709551616.0)).operandText =
      "(-1.8446744073709552e19)".toList := by
    decide +kernel
  obtain ⟨hfinite, hoperand, hstands⟩ := finite_of_evaluate_of_compute.2.2 f _ _ _ hvalue
  rw [hwritten] at hoperand hstands
  exact ⟨hvalue, Value.isFinite_float.1 hfinite, hoperand, hstands⟩

end TripletFacts
