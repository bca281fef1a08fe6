import TripletFacts.Expr.Eval

/-!
# Values of expressions

When an expression has a value, in terms of the values of its parts. The second operand of a
connective has a value only if the first one does not decide.

## Main results

* `Expr.eval_combine_eq_ok_iff`, `Expr.eval_compare_eq_ok_iff`, `Expr.eval_compute_eq_ok_iff`,
  `Expr.eval_unary_eq_ok_iff`, `Expr.eval_call_eq_ok_iff`: one kind of expression each.
* `callFunction_name`: the value of a call by the name of a function.
* `Function.mem_of_firstExtreme`: the extreme one of several values is one of them.
* `evaluate_eq_ok_iff`: the value of a text.
-/

namespace TripletFacts

namespace Expr

variable {left right operand e : Expr} {v : Value}

theorem eval_combine_eq_ok_iff {op : Connective} :
    (binary left (.combine op) right).eval = .ok v ↔ ∃ l, left.eval = .ok l ∧
      if l.isTruthy = (op == .or) then .bool l.isTruthy = v
      else ∃ r, right.eval = .ok r ∧ .bool r.isTruthy = v := by
  rw [eval]
  cases left.eval with
  | error err => simp
  | ok l =>
    by_cases hdecides : l.isTruthy = (op == .or)
    · simp [hdecides]
    · cases right.eval <;> simp [hdecides]

theorem eval_compare_eq_ok_iff {op : Comparison} :
    (binary left (.compare op) right).eval = .ok v ↔
      ∃ l r, left.eval = .ok l ∧ right.eval = .ok r ∧ (op.apply l r).map Value.bool = .ok v := by
  rw [eval]
  cases left.eval <;> cases right.eval <;> simp

theorem eval_compute_eq_ok_iff {op : Arithmetic} :
    (binary left (.compute op) right).eval = .ok v ↔
      ∃ l r, left.eval = .ok l ∧ right.eval = .ok r ∧ op.apply l r = .ok v := by
  rw [eval]
  cases left.eval <;> cases right.eval <;> simp

/-- An operator is applied to the values of its operands. -/
theorem eval_compute {op : Arithmetic} {l r : Value} (hl : left.eval = .ok l)
    (hr : right.eval = .ok r) : (binary left (.compute op) right).eval = op.apply l r := by
  rw [eval, hl, hr]

theorem eval_unary_eq_ok_iff {op : UnaryOperator} :
    (unary op operand).eval = .ok v ↔ ∃ w, operand.eval = .ok w ∧ op.apply w = .ok v := by
  rw [eval]
  cases operand.eval <;> simp

theorem eval_call_eq_ok_iff {name : String} {args : List Expr} :
    (call name args).eval = .ok v ↔
      ∃ vs, evalList args = .ok vs ∧ callFunction name vs = .ok v := by
  rw [eval]
  cases evalList args <;> simp

theorem evalList_cons_eq_ok_iff {es : List Expr} {vs : List Value} :
    evalList (e :: es) = .ok vs ↔
      ∃ v ws, e.eval = .ok v ∧ evalList es = .ok ws ∧ v :: ws = vs := by
  rw [evalList]
  cases e.eval <;> cases evalList es <;> simp

end Expr

/-! ### Calls -/

theorem name_of_ofName? {name : String} {f : Function} (h : Function.ofName? name = some f) :
    f.name = name := by
  have hfind := List.find?_some h
  exact eq_of_beq hfind

/-- A function is called by its name. -/
theorem callFunction_name (f : Function) (args : List Value) :
    callFunction f.name args = f.apply args := by
  rw [callFunction, Function.ofName?_name]

namespace Function

variable {beats : Comparison} {best v u : Value} {vs : List Value}

/-- The search for an extreme value goes on with the one that beats the other. -/
theorem firstExtreme_cons_eq_ok_iff :
    firstExtreme beats best (v :: vs) = .ok u ↔
      (beats.apply v best = .ok true ∧ firstExtreme beats v vs = .ok u) ∨
        (beats.apply v best = .ok false ∧ firstExtreme beats best vs = .ok u) := by
  rw [firstExtreme]
  cases beats.apply v best with
  | error e => simp
  | ok b => cases b <;> simp

/-- The extreme one of several values is one of them. -/
theorem mem_of_firstExtreme (h : firstExtreme beats best vs = .ok u) : u ∈ best :: vs := by
  induction vs generalizing best with
  | nil =>
    cases h
    exact List.mem_cons_self
  | cons v vs ih =>
    obtain ⟨-, h⟩ | ⟨-, h⟩ := firstExtreme_cons_eq_ok_iff.1 h
    · exact List.mem_cons_of_mem _ (ih h)
    · exact List.mem_cons.2 ((List.mem_cons.1 (ih h)).imp_right (List.mem_cons_of_mem _))

end Function

/-- A text has the value of the expression that it is parsed to. -/
theorem evaluate_eq_ok_iff {text : List Char} {v : Value} :
    evaluate text = .ok v ↔ ∃ e, Expr.parse text = .ok e ∧ e.eval = .ok v := by
  rw [evaluate]
  cases Expr.parse text <;> simp

end TripletFacts
