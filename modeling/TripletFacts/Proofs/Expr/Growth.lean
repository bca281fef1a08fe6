import TripletFacts.Proofs.Expr.TreeSize

/-!
# Measures of levels

A measure of trees that counts along one branch, such as the number of levels, grows by a bounded
amount with every node that is put on top of others. Chains and nesting both add nodes: a chain
associated to the left has one for every operator, and so have the comparisons of a chain, which
are joined to the left as well. But every node on a branch is paid for by tokens of its own, an
operator, or a name and two parentheses, so the measure of a tree is bounded by the tokens of its
text.

## Main definitions

* `Expr.Growth`: measures that grow by at most a given amount for each token of a node.

## Main results

* `Expr.Growth.le_of_derives`: such a measure is bounded by the tokens of a tree.
-/

namespace TripletFacts.Expr

/-- A measure of trees that grows by at most `k` for each of the tokens that a node has besides
those of its parts; a call has three of them. -/
structure Growth (m : Expr → Nat) (k : Nat) : Prop where
  literal (v : Value) : m (.literal v) ≤ k
  binary (left : Expr) (op : Operator) (right : Expr) :
    m (.binary left op right) ≤ k + max (m left) (m right)
  unary (op : UnaryOperator) (operand : Expr) : m (.unary op operand) ≤ k + m operand
  call (name : String) {args : List Expr} {b : Nat} (h : ∀ e ∈ args, m e ≤ b) :
    m (.call name args) ≤ 3 * k + b

namespace Growth

variable {m : Expr → Nat} {k : Nat}

/-! ### Chains -/

/-- Operators on top of one another, to the left, are one node each. -/
theorem foldl_le (g : Growth m k) {α : Type} (op : α → Operator) (right : α → Expr) {b : Nat}
    {first : Expr} {as : List α} (hfirst : m first ≤ b) (has : ∀ a ∈ as, m (right a) ≤ b) :
    m (as.foldl (fun e a => .binary e (op a) (right a)) first) ≤ b + k * as.length := by
  induction as generalizing first b with
  | nil => exact hfirst
  | cons a as ih =>
    rw [List.forall_mem_cons] at has
    have hnext : m (.binary first (op a) (right a)) ≤ b + k := by
      have hbinary := g.binary first (op a) (right a)
      omega
    have hchain := ih hnext fun a' ha' => Nat.le_add_right_of_le (has.2 a' ha')
    rw [List.foldl_cons, List.length_cons, Nat.mul_succ]
    omega

/-- The comparison of two neighbours is one node above them. -/
theorem le_of_mem_neighbours (g : Growth m k) {b : Nat} {first : Expr} {links : List Link}
    (hfirst : m first ≤ b) (hlink : ∀ l ∈ links, m l.expr ≤ b) {e : Expr}
    (he : e ∈ neighbours first links) : m e ≤ b + k := by
  induction links generalizing first with
  | nil => cases he
  | cons l links ih =>
    rw [List.forall_mem_cons] at hlink
    rcases List.mem_cons.1 he with rfl | he
    · have hbinary := g.binary first l.op l.expr
      omega
    · exact ih hlink.1 hlink.2 he

/-- There is one comparison more than there are connectives between them, so the comparisons of a
chain grow no more than operators in a row. -/
theorem comparisons_le (g : Growth m k) {b : Nat} {first : Expr} {links : List Link}
    (hfirst : m first ≤ b) (hlink : ∀ l ∈ links, m l.expr ≤ b) :
    m (comparisons first links) ≤ b + k * links.length := by
  have hneighbour {e : Expr} (he : e ∈ neighbours first links) :=
    g.le_of_mem_neighbours hfirst hlink he
  have hlength := length_neighbours first links
  unfold comparisons
  split
  · exact Nat.le_add_right_of_le hfirst
  · next c cs hcs =>
    rw [hcs] at hneighbour hlength
    have hall := g.foldl_le (fun _ => .combine .and) id (hneighbour List.mem_cons_self)
      fun e he => hneighbour (List.mem_cons_of_mem c he)
    rw [← hlength, List.length_cons, Nat.mul_succ, Nat.add_comm _ k, ← Nat.add_assoc]
    exact hall

/-- A chain has a node for every sign, apart from those of its operands. -/
theorem result_le (g : Growth m k) {b : Nat} (level : Level) {first : Expr} {links : List Link}
    (hfirst : m first ≤ b) (hlink : ∀ l ∈ links, m l.expr ≤ b) :
    m (level.result first links) ≤ b + k * links.length := by
  cases level with
  | comparison => exact g.comparisons_le hfirst hlink
  | disjunction | conjunction | sum | product =>
    exact g.foldl_le (fun l : Link => l.op) (fun l => l.expr) hfirst hlink

end Growth

/-! ### Tokens -/

/-- The tokens of operands after signs are theirs and the signs. -/
theorem length_flatMap_all (links : List Link) :
    (links.flatMap Link.all).length =
      (links.flatMap fun l => l.tokens).length + links.length := by
  induction links with
  | nil => rfl
  | cons l links ih =>
    simp only [List.flatMap_cons, List.length_append, Link.all, List.length_cons, ih]
    omega

/-- A derived tree is paid for by its tokens. -/
theorem Growth.le_of_derives {m : Expr → Nat} {k : Nat} (g : Growth m k) {n : Nat}
    {A : Nonterminal} {ts : List Token} {e : Expr} (h : Derives n A ts e) :
    m e ≤ k * ts.length := by
  induction h with
  | @chain n level first links hfirst hsign hlink ihfirst ihlink =>
    -- the tokens of all operands pay for each of them, and the signs are left
    let operands := first.tokens ++ links.flatMap fun l => l.tokens
    have hfirst : m first.expr ≤ k * operands.length :=
      Nat.le_trans ihfirst
        (Nat.mul_le_mul_left k (List.sublist_append_left _ _).length_le)
    have hlink : ∀ l ∈ links, m l.expr ≤ k * operands.length := fun l hl =>
      Nat.le_trans (ihlink l hl) (Nat.mul_le_mul_left k
        (sublist_append_flatMap (f := fun l => l.tokens) hl _).length_le)
    have hlength : (first.tokens ++ links.flatMap Link.all).length =
        operands.length + links.length := by
      rw [List.length_append, List.length_append, length_flatMap_all, Nat.add_assoc]
    rw [hlength, Nat.mul_add]
    exact g.result_le level hfirst hlink
  | @unary n A t op ts e ht h ih =>
    rw [List.length_cons, Nat.mul_succ, Nat.add_comm]
    exact Nat.le_trans (g.unary op e) (Nat.add_le_add_left ih k)
  | unnegated h hnot ih => exact ih
  | unsigned h ih | base h ih => exact ih
  | @power n ts us e x hbase hexponent ihbase ihexponent =>
    have hbinary := g.binary e (.compute .pow) x
    rw [List.length_append, List.length_cons, Nat.mul_add, Nat.mul_succ]
    omega
  | number | str | constant => exact Nat.le_trans (g.literal _) (Nat.le_of_eq (Nat.mul_one k).symm)
  | group h ih =>
    refine Nat.le_trans ih (Nat.mul_le_mul_left k ?_)
    rw [List.length_cons, List.length_append]
    omega
  | @emptyCall n name hname =>
    have hcall : m (.call name []) ≤ 3 * k + 0 := g.call name fun _ he => absurd he List.not_mem_nil
    rwa [Nat.add_zero, Nat.mul_comm] at hcall
  | @call n name first more hname hfirst hmore ihfirst ihmore =>
    let arguments := first.tokens ++ more.flatMap fun a => .comma :: a.tokens
    have hargs : ∀ e ∈ first.expr :: more.map Operand.expr, m e ≤ k * arguments.length := by
      refine List.forall_mem_cons.2 ⟨?_, List.forall_mem_map.2 fun a ha => ?_⟩
      · exact Nat.le_trans ihfirst (Nat.mul_le_mul_left k (List.sublist_append_left _ _).length_le)
      · exact Nat.le_trans (ihmore a ha) (Nat.mul_le_mul_left k
          ((List.sublist_cons_self _ _).trans
            (sublist_append_flatMap (f := fun a => .comma :: a.tokens) ha _)).length_le)
    have hlength : (Token.ident name :: .lparen :: (arguments ++ [.rparen])).length =
        3 + arguments.length := by
      rw [List.length_cons, List.length_cons, List.length_append, List.length_singleton]
      omega
    rw [hlength, Nat.mul_add, Nat.mul_comm k 3]
    exact g.call name hargs

end TripletFacts.Expr
