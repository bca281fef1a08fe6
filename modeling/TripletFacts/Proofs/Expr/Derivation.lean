import TripletFacts.Expr.Grammar

/-!
# Derivations of expressions

The grammar of expressions as a relation between tokens and trees, apart from any way of reading.
A derivation is bounded: `Derives n A ts e` says that the tokens `ts` derive the tree `e` from the
nonterminal `A` and that at most `n` groups, arguments, prefix operators and exponents are nested
inside one another.

The rules `or`, `and`, `compare`, `sum` and `product` have one shape, operands with signs between
them, and are the levels of one rule `chain`. The grammar is ambiguous at one place only: the name
`not` could be the name of a call where the rule `not` begins, and is taken for the negation.

## Main definitions

* `Expr.Level`, `Expr.Nonterminal`: the levels of chains, and the nonterminals.
* `Expr.Operand`, `Expr.Link`: an operand, and an operand after a sign, with their tokens.
* `Expr.Level.result`: the tree of a chain.
* `Expr.Derives`: the grammar.
* `Expr.strength?`, `Expr.Nonterminal.strength`, `Expr.Ends`: which tokens go on after a phrase.

## Main results

* `Expr.Level.operator?_eq_some_iff`: the operators that a reader of a level looks for.
* `Expr.Ends.operand`: what ends a chain ends its last operand.
-/

namespace TripletFacts.Expr

/-! ### Levels and nonterminals -/

/-- The levels of chains, from the weakest to the strongest. -/
inductive Level where
  | disjunction | conjunction | comparison | sum | product
deriving DecidableEq

/-- The nonterminals of the grammar. -/
inductive Nonterminal where
  | chain (level : Level)
  | negation
  | sign
  | power
  | primary
deriving DecidableEq

namespace Level

/-- The nonterminal of the operands of a chain. -/
def operand : Level → Nonterminal
  | disjunction => .chain .conjunction
  | conjunction => .negation
  | comparison => .chain .sum
  | sum => .chain .product
  | product => .sign

/-- The operators of a level. -/
def operators : Level → List Operator
  | disjunction => [.combine .or]
  | conjunction => [.combine .and]
  | comparison => [.compare .eq, .compare .ne, .compare .gt, .compare .ge, .compare .lt,
      .compare .le]
  | sum => [.compute .add, .compute .sub]
  | product => [.compute .mul, .compute .div, .compute .mod]

/-- A token that stands for an operator of a level: its sign, or the word of a connective. -/
inductive Joins (level : Level) : Token → Operator → Prop
  | sign {op : Operator} (h : op ∈ level.operators) : level.Joins (.op (.binary op)) op
  | word {c : Connective} (h : .combine c ∈ level.operators) :
      level.Joins (.ident c.symbol) (.combine c)

end Level

/-- Tokens in front of an operand, with the nonterminal of the operand. -/
inductive Precedes : Nonterminal → Token → UnaryOperator → Prop
  | bang : Precedes .negation (.op .bang) .not
  | word : Precedes .negation (.ident "not") .not
  | minus : Precedes .sign (.op (.binary (.compute .sub))) .negate
  | plus : Precedes .sign (.op (.binary (.compute .add))) .plus

/-- The truth value that a name stands for. -/
def constant? (name : String) : Option Bool :=
  if name = "True" ∨ name = "true" then some true
  else if name = "False" ∨ name = "false" then some false
  else none

/-! ### Chains -/

/-- An operand: its tokens and its tree. -/
structure Operand where
  tokens : List Token
  expr : Expr

/-- An operand after a sign. -/
structure Link extends Operand where
  sign : Token
  op : Operator

/-- The tokens of an operand with the sign before it. -/
def Link.all (l : Link) : List Token := l.sign :: l.tokens

/-- Operators with their right operands after a first operand, associated to the left. -/
def leftNested (first : Expr) (links : List Link) : Expr :=
  links.foldl (fun e l => .binary e l.op l.expr) first

/-- The comparisons of neighbours. -/
def neighbours : Expr → List Link → List Expr
  | _, [] => []
  | e, l :: ls => .binary e l.op l.expr :: neighbours l.expr ls

/-- Trees joined by `and`, associated to the left. -/
def allOf (first : Expr) (es : List Expr) : Expr :=
  es.foldl (fun e c => .binary e (.combine .and) c) first

/-- The tree of a chain of comparisons: every operand is compared with the next one. -/
def comparisons (first : Expr) (links : List Link) : Expr :=
  match neighbours first links with
  | [] => first
  | c :: cs => allOf c cs

/-- The tree of a chain. -/
def Level.result : Level → Expr → List Link → Expr
  | comparison => comparisons
  | _ => leftNested

/-! ### The grammar -/

/-- The tokens derive the tree from the nonterminal, and at most a given number of groups,
arguments, prefix operators and exponents are nested inside one another. -/
inductive Derives : Nat → Nonterminal → List Token → Expr → Prop
  | chain {n : Nat} {level : Level} {first : Operand} {links : List Link}
      (hfirst : Derives n level.operand first.tokens first.expr)
      (hsign : ∀ l ∈ links, level.Joins l.sign l.op)
      (hlink : ∀ l ∈ links, Derives n level.operand l.tokens l.expr) :
      Derives n (.chain level) (first.tokens ++ links.flatMap Link.all)
        (level.result first.expr links)
  | unary {n : Nat} {A : Nonterminal} {t : Token} {op : UnaryOperator} {ts : List Token} {e : Expr}
      (ht : Precedes A t op) (h : Derives n A ts e) : Derives (n + 1) A (t :: ts) (.unary op e)
  | unnegated {n : Nat} {ts : List Token} {e : Expr} (h : Derives n (.chain .comparison) ts e)
      (hnot : ts.head? ≠ some (.ident "not")) : Derives n .negation ts e
  | unsigned {n : Nat} {ts : List Token} {e : Expr} (h : Derives n .power ts e) :
      Derives n .sign ts e
  | base {n : Nat} {ts : List Token} {e : Expr} (h : Derives n .primary ts e) :
      Derives n .power ts e
  | power {n : Nat} {ts us : List Token} {e x : Expr} (hbase : Derives (n + 1) .primary ts e)
      (hexponent : Derives n .sign us x) :
      Derives (n + 1) .power (ts ++ .op (.binary (.compute .pow)) :: us)
        (.binary e (.compute .pow) x)
  | number {n : Nat} (x : Number) : Derives n .primary [.number x] (.literal x.toValue)
  | str {n : Nat} (s : String) : Derives n .primary [.str s] (.literal (.str s))
  | constant {n : Nat} {name : String} {b : Bool} (h : constant? name = some b) :
      Derives n .primary [.ident name] (.literal (.bool b))
  | group {n : Nat} {ts : List Token} {e : Expr} (h : Derives n (.chain .disjunction) ts e) :
      Derives (n + 1) .primary (.lparen :: (ts ++ [.rparen])) e
  | emptyCall {n : Nat} {name : String} (h : constant? name = none) :
      Derives n .primary [.ident name, .lparen, .rparen] (.call name [])
  | call {n : Nat} {name : String} {first : Operand} {more : List Operand}
      (h : constant? name = none)
      (hfirst : Derives n (.chain .disjunction) first.tokens first.expr)
      (hmore : ∀ a ∈ more, Derives n (.chain .disjunction) a.tokens a.expr) :
      Derives (n + 1) .primary
        (.ident name :: .lparen ::
          (first.tokens ++ more.flatMap (fun a => .comma :: a.tokens) ++ [.rparen]))
        (.call name (first.expr :: more.map Operand.expr))

namespace Derives

variable {n : Nat} {ts : List Token} {e : Expr}

/-- An operand is a chain of its own. -/
theorem alone {level : Level} (h : Derives n level.operand ts e) :
    Derives n (.chain level) ts e := by
  have hchain := @chain n level ⟨ts, e⟩ [] h
    (fun _ hl => absurd hl List.not_mem_nil) (fun _ hl => absurd hl List.not_mem_nil)
  rw [List.flatMap_nil, List.append_nil] at hchain
  cases level <;> exact hchain

/-- A chain goes on with an operand after a sign. -/
theorem append_link {level : Level} (hlevel : level ≠ .comparison)
    (h : Derives n (.chain level) ts e) {l : Link} (hsign : level.Joins l.sign l.op)
    (hlink : Derives n level.operand l.tokens l.expr) :
    Derives n (.chain level) (ts ++ l.all) (.binary e l.op l.expr) := by
  have hresult : level.result = leftNested := by
    cases level <;> first | rfl | exact absurd rfl hlevel
  cases h with
  | @chain _ _ first links hfirst hsigns hlinks =>
    have hchain := @chain n level first (links ++ [l]) hfirst
      (fun k hk => (List.mem_append.1 hk).elim (hsigns k) fun hk => List.mem_singleton.1 hk ▸ hsign)
      (fun k hk => (List.mem_append.1 hk).elim (hlinks k) fun hk => List.mem_singleton.1 hk ▸ hlink)
    rw [hresult, leftNested, List.foldl_append, List.flatMap_append, List.flatMap_singleton,
      ← List.append_assoc] at hchain
    rw [hresult]
    exact hchain
  | unary ht => cases ht

/-- A phrase with a sign in front of it, or without one, is a sum. -/
theorem sum_of_sign (h : Derives n .sign ts e) : Derives n (.chain .sum) ts e :=
  alone (alone h)

/-- A chain of comparisons is a whole expression if no negation begins there. -/
theorem disjunction_of_comparison (h : Derives n (.chain .comparison) ts e)
    (hnot : ts.head? ≠ some (.ident "not")) : Derives n (.chain .disjunction) ts e :=
  alone (alone (unnegated h hnot))

end Derives

/-! ### Ends of phrases -/

/-- How strongly an operator holds its operands together, if it stands between two of them. -/
def strength? : Token → Option Nat
  | .op (.binary (.combine .or)) => some 1
  | .op (.binary (.combine .and)) => some 2
  | .op (.binary (.compare _)) => some 3
  | .op (.binary (.compute .add)) | .op (.binary (.compute .sub)) => some 4
  | .op (.binary (.compute .pow)) => some 6
  | .op (.binary (.compute _)) => some 5
  | .ident name => if name = "or" then some 1 else if name = "and" then some 2 else none
  | _ => none

/-- The strength of a level. -/
def Level.strength : Level → Nat
  | disjunction => 1
  | conjunction => 2
  | comparison => 3
  | sum => 4
  | product => 5

/-- The strength of the weakest operator that a phrase of a nonterminal may go on with. -/
def Nonterminal.strength : Nonterminal → Nat
  | chain level => level.strength
  | negation => 3
  | sign | power => 6
  | primary => 7

/-- A phrase of a nonterminal does not go on in the tokens after it: the first of them is no
operator, or one that is too weak. -/
def Ends (A : Nonterminal) (rest : List Token) : Prop :=
  ∀ t k, rest.head? = some t → strength? t = some k → k < A.strength

theorem ends_nil (A : Nonterminal) : Ends A [] := by
  intro t k h
  simp at h

theorem ends_of_strength?_eq_none {A : Nonterminal} {t : Token} {rest : List Token}
    (h : strength? t = none) : Ends A (t :: rest) := by
  intro t' k ht hk
  simp only [List.head?_cons, Option.some.injEq] at ht
  subst ht
  simp [h] at hk

theorem Ends.mono {A B : Nonterminal} {rest : List Token} (h : Ends A rest)
    (hAB : A.strength ≤ B.strength) : Ends B rest :=
  fun t k ht hk => Nat.lt_of_lt_of_le (h t k ht hk) hAB

theorem Level.strength_lt_operand (level : Level) : level.strength < level.operand.strength := by
  cases level <;> decide

/-- What ends a chain ends its last operand. -/
theorem Ends.operand {level : Level} {rest : List Token} (h : Ends (.chain level) rest) :
    Ends level.operand rest :=
  h.mono (Nat.le_of_lt level.strength_lt_operand)

/-- The strength of an operator is that of its level. -/
theorem Level.Joins.strength? {level : Level} {t : Token} {op : Operator} (h : level.Joins t op) :
    strength? t = some level.strength := by
  cases h with
  | sign h =>
    revert h
    rcases op with c | a | c
    · cases c <;> cases level <;> decide
    · cases a <;> cases level <;> decide
    · cases c <;> cases level <;> decide
  | @word c h =>
    revert h
    cases c <;> cases level <;> decide

/-- The sign of a chain ends the operand before it. -/
theorem Level.Joins.ends {level : Level} {t : Token} {op : Operator} {rest : List Token}
    (h : level.Joins t op) : Ends level.operand (t :: rest) := by
  intro t' k ht hk
  simp only [List.head?_cons, Option.some.injEq] at ht
  subst ht
  rw [h.strength?, Option.some.injEq] at hk
  exact hk ▸ level.strength_lt_operand

end TripletFacts.Expr
