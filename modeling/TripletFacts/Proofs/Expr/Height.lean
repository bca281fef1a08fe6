import TripletFacts.Expr.Eval
import TripletFacts.Proofs.Expr.Growth

/-!
# Heights of trees

Evaluation enters itself once for every level of a tree. Every level is paid for by a token of its
own, an operator, a parenthesis or a name, so a tree is no higher than its text is long in tokens,
and the limit of the parser on tokens is a limit on the levels of evaluation.

## Main definitions

* `Expr.evalWithin`: evaluation that may enter itself a bounded number of times.

## Main results

* `Expr.Derives.height_le`: the height of a derived tree.
* `Expr.evalWithin_of_height_le`: as many levels as a tree has are enough.
* `Expr.parse_bounds_levels`: what the tokens of a text say about the levels of evaluation.
-/

namespace TripletFacts.Expr

/-! ### Levels and tokens -/

theorem heightList_le {b : Nat} {es : List Expr} (h : ∀ e ∈ es, e.height ≤ b) :
    heightList es ≤ b := by
  induction es with
  | nil => exact Nat.zero_le b
  | cons e es ih =>
    rw [List.forall_mem_cons] at h
    exact Nat.max_le.2 ⟨h.1, ih h.2⟩

theorem height_le_heightList {e : Expr} {es : List Expr} (h : e ∈ es) :
    e.height ≤ heightList es := by
  induction es with
  | nil => cases h
  | cons e' es ih =>
    rw [heightList]
    rcases List.mem_cons.1 h with rfl | h
    · exact Nat.le_max_left _ _
    · exact Nat.le_trans (ih h) (Nat.le_max_right _ _)

/-- A node is one level above its parts. -/
theorem growth_height : Growth height 1 where
  literal _ := Nat.le_refl 1
  binary _ _ _ := Nat.le_refl _
  unary _ _ := Nat.le_refl _
  call _ _ _ h := Nat.add_le_add (by decide) (heightList_le h)

/-- A derived tree has a token for each of its levels. -/
theorem Derives.height_le {n : Nat} {A : Nonterminal} {ts : List Token} {e : Expr}
    (h : Derives n A ts e) : e.height ≤ ts.length := by
  rw [← Nat.one_mul ts.length]
  exact growth_height.le_of_derives h

/-! ### Levels of evaluation -/

/-- An outcome that needs no further level. -/
def settled {α : Type} (r : Except EvalError α) : ExceptT EvalError Option α := ExceptT.mk (some r)

/-- The value of a tree if evaluation may enter itself `n` times, one inside of the other; nothing
if this is not enough. -/
def evalWithin : Nat → Expr → ExceptT EvalError Option Value
  | 0, _ => ExceptT.mk none
  | _ + 1, literal v => pure v
  | n + 1, binary left (.combine op) right => do
    let l ← evalWithin n left
    if l.isTruthy = (op == .or) then return .bool l.isTruthy
    let r ← evalWithin n right
    return .bool r.isTruthy
  | n + 1, binary left (.compare op) right => do
    let l ← evalWithin n left
    let r ← evalWithin n right
    settled ((op.apply l r).map Value.bool)
  | n + 1, binary left (.compute op) right => do
    let l ← evalWithin n left
    let r ← evalWithin n right
    settled (op.apply l r)
  | n + 1, unary op operand => do
    let v ← evalWithin n operand
    settled (op.apply v)
  | n + 1, call name args => do
    let vs ← args.mapM (evalWithin n)
    settled (callFunction name vs)

/-- What comes after an outcome. -/
theorem settled_bind {α β : Type} (r : Except EvalError α) (f : α → ExceptT EvalError Option β) :
    settled r >>= f =
      match r with
      | .ok a => f a
      | .error e => settled (.error e) := by
  cases r <;> rfl

theorem mapM_evalWithin {n : Nat} {args : List Expr}
    (h : ∀ e ∈ args, evalWithin n e = settled e.eval) :
    args.mapM (evalWithin n) = settled (evalList args) := by
  induction args with
  | nil => rfl
  | cons e args ih =>
    rw [List.forall_mem_cons] at h
    rw [List.mapM_cons, h.1, settled_bind, evalList]
    cases e.eval with
    | error err => rfl
    | ok v =>
      dsimp only
      rw [ih h.2, settled_bind]
      cases evalList args <;> rfl

/-- Evaluation enters itself no more often than a tree has levels. -/
theorem evalWithin_of_height_le {n : Nat} {e : Expr} (h : e.height ≤ n) :
    evalWithin n e = settled e.eval := by
  induction n generalizing e with
  | zero => cases e <;> simp [height] at h
  | succ n ih =>
    cases e with
    | literal v => rfl
    | binary left op right =>
      rw [height] at h
      have hleft : evalWithin n left = settled left.eval := ih (by omega)
      have hright : evalWithin n right = settled right.eval := ih (by omega)
      cases op with
      | combine op =>
        rw [evalWithin, eval, hleft, hright, settled_bind]
        cases left.eval with
        | error e => rfl
        | ok l =>
          -- the right operand is entered unless the left one decides
          dsimp only
          split
          · rfl
          · cases right.eval <;> rfl
      | compare op | compute op =>
        rw [evalWithin, eval, hleft, hright]
        cases left.eval <;> cases right.eval <;> rfl
    | unary op operand =>
      rw [height] at h
      have hoperand : evalWithin n operand = settled operand.eval := ih (by omega)
      rw [evalWithin, eval, hoperand, settled_bind]
      cases operand.eval <;> rfl
    | call name args =>
      rw [height] at h
      have hwithin (e : Expr) (he : e ∈ args) : evalWithin n e = settled e.eval := by
        have hheight := height_le_heightList he
        exact ih (by omega)
      have hargs := mapM_evalWithin hwithin
      rw [evalWithin, eval, hargs, settled_bind]
      cases evalList args <;> rfl

/-- **Accepted expressions are shallow.** If a text with `n` tokens is an expression, then its tree
has at most `n` levels, which the parser limits, and evaluation enters itself at most `n` times,
one inside of the other. -/
theorem parse_bounds_levels {text : List Char} {ts : List Placed} {e : Expr}
    (hts : tokenize text = .ok ts) (he : parse text = .ok e) :
    e.height ≤ ts.length ∧ ts.length ≤ maxTokens ∧
      ∀ n, ts.length ≤ n → (evalWithin n e).run = some (evaluate text) := by
  obtain ⟨ts', hts', -, hlength, hderives⟩ := parse_eq_ok_iff.1 he
  obtain rfl := Except.ok.inj (hts.symm.trans hts')
  have hheight : e.height ≤ ts.length := by
    have hheight := hderives.height_le
    rwa [plain, List.length_map] at hheight
  have heval : evaluate text = e.eval := by rw [evaluate, he]
  refine ⟨hheight, hlength, fun n hn => ?_⟩
  rw [heval]
  exact evalWithin_of_height_le (Nat.le_trans hheight hn)

/-- The tree of three comparisons has a level for each of them and one more, and seven tokens. -/
theorem parse_bounds_levels_chain :
    ∃ ts e, tokenize "1<2<3<4".toList = .ok ts ∧ parse "1<2<3<4".toList = .ok e ∧
      ts.length = 7 ∧ e.height = 4 ∧
      (evalWithin maxTokens e).run = some (evaluate "1<2<3<4".toList) := by
  have hts : tokenize "1<2<3<4".toList = .ok [⟨.number (.int 1), 0⟩,
      ⟨.op (.binary (.compare .lt)), 1⟩, ⟨.number (.int 2), 2⟩, ⟨.op (.binary (.compare .lt)), 3⟩,
      ⟨.number (.int 3), 4⟩, ⟨.op (.binary (.compare .lt)), 5⟩, ⟨.number (.int 4), 6⟩] := by
    decide +kernel
  have hheight : (parse "1<2<3<4".toList).toOption.map height = some 4 := by decide +kernel
  cases he : parse "1<2<3<4".toList with
  | error _ =>
    rw [he] at hheight
    cases hheight
  | ok e =>
    rw [he] at hheight
    have hbounds := parse_bounds_levels hts he
    exact ⟨_, e, hts, rfl, rfl, Option.some.inj hheight, hbounds.2.2 maxTokens hbounds.2.1⟩

end TripletFacts.Expr
