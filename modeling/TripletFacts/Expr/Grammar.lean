import TripletFacts.Expr.Token

/-!
# The grammar of expressions

```text
or      := and (("or" | "||") and)*
and     := not (("and" | "&&") not)*
not     := ("not" | "!") not | compare
compare := sum (cmp_op sum)*
sum     := product (("+" | "-") product)*
product := unary (("*" | "/" | "%") unary)*
unary   := ("-" | "+") unary | power
power   := primary ("**" unary)?
primary := number | string | bool | ident "(" args ")" | "(" or ")"
```

A chain of comparisons such as `a < b < c` stands for `a < b and b < c`. An expression has a bounded
number of tokens, and parentheses, arguments, prefix operators and exponents can be nested to a
bounded depth only. The recursion of the grammar goes through these four, so a reader that may
still go `n + 1` levels deeper is built from the one that may go `n` levels deeper.

## Main definitions

* `Expr.Reading`: an expression read from some tokens, and the tokens that are left.
* `Expr.Rules`: readers for the rules `or`, `not` and `unary` at one level.
* `Expr.rulesAt`: the readers that may go a given number of levels deeper.
* `Expr.parse`: the expression that a text denotes.
-/

namespace TripletFacts.Expr

/-- The tokens that are still to be read. -/
abbrev Tokens := List Placed

/-- An expression that was read, and what is left: fewer than `n` tokens. -/
structure Reading (n : Nat) where
  expr : Expr
  rest : Tokens
  shorter : rest.length < n

/-- A reading that leaves fewer than `m` tokens leaves fewer than any greater number. -/
def Reading.weaken {m n : Nat} (r : Reading m) (h : m ≤ n) : Reading n :=
  ⟨r.expr, r.rest, Nat.lt_of_lt_of_le r.shorter h⟩

/-- A reader of a rule takes at least one token. -/
abbrev Rule := (ts : Tokens) → Except SyntaxError (Reading ts.length)

/-- The readers of the three rules that are entered again at the next level. -/
structure Rules where
  disjunction : Rule
  negation : Rule
  sign : Rule

/-- The most tokens of an expression. -/
def maxTokens : Nat := 1024

/-- The most levels of nesting. -/
def maxDepth : Nat := 128

/-- The position of the next token, and 0 at the end. -/
def positionOf : Tokens → Nat
  | [] => 0
  | t :: _ => t.position

/-- No level is left: nothing can be read. -/
def Rules.exhausted : Rules where
  disjunction ts := .error (.tooDeep (positionOf ts) maxDepth)
  negation ts := .error (.tooDeep (positionOf ts) maxDepth)
  sign ts := .error (.tooDeep (positionOf ts) maxDepth)

/-! ### Operands -/

/-- The arguments of a call after its opening parenthesis, and what is left after the closing
one. -/
def arguments (inner : Rules) (ts : Tokens) :
    Except SyntaxError (List Expr × { rest : Tokens // rest.length < ts.length }) :=
  match inner.disjunction ts with
  | .error e => .error e
  | .ok ⟨_, [], _⟩ => .error .openArguments
  | .ok ⟨e, ⟨t, p⟩ :: rest, h⟩ =>
    have hrest : rest.length < ts.length := by simp at h; omega
    match t with
    | .comma =>
      match arguments inner rest with
      | .error e => .error e
      | .ok (es, ⟨rest', h'⟩) => .ok (e :: es, ⟨rest', Nat.lt_trans h' hrest⟩)
    | .rparen => .ok ([e], ⟨rest, hrest⟩)
    | t => .error (.notSeparating p t)
termination_by ts.length

/-- The rule `primary`. -/
def primary (inner : Rules) : Rule
  | [] => .error .noOperand
  | ⟨.number n, _⟩ :: ts => .ok ⟨.literal n.toValue, ts, by simp⟩
  | ⟨.str s, _⟩ :: ts => .ok ⟨.literal (.str s), ts, by simp⟩
  | ⟨.lparen, _⟩ :: ts =>
    match inner.disjunction ts with
    | .error e => .error e
    | .ok ⟨_, [], _⟩ => .error .noClosing
    | .ok ⟨e, ⟨.rparen, _⟩ :: rest, h⟩ => .ok ⟨e, rest, by simp at h ⊢; omega⟩
    | .ok ⟨_, ⟨t, p⟩ :: _, _⟩ => .error (.notClosing p t)
  | ⟨.ident name, p⟩ :: ts =>
    if name = "True" ∨ name = "true" then .ok ⟨.literal (.bool true), ts, by simp⟩
    else if name = "False" ∨ name = "false" then .ok ⟨.literal (.bool false), ts, by simp⟩
    else
      match ts with
      | ⟨.lparen, _⟩ :: ⟨.rparen, _⟩ :: rest => .ok ⟨.call name [], rest, by simp; omega⟩
      | ⟨.lparen, _⟩ :: ts =>
        match arguments inner ts with
        | .error e => .error e
        | .ok (args, ⟨rest, h⟩) => .ok ⟨.call name args, rest, by simp; omega⟩
      | _ => .error (.unknownName p name)
  | ⟨t, p⟩ :: _ => .error (.unexpected p t)

/-- The rule `power`. -/
def power (inner : Rules) : Rule := fun ts =>
  match primary inner ts with
  | .error e => .error e
  | .ok ⟨base, ⟨.op (.binary (.compute .pow)), _⟩ :: rest, h⟩ =>
    match inner.sign rest with
    | .error e => .error e
    | .ok r =>
      .ok ⟨.binary base (.compute .pow) r.expr, r.rest, by
        have := r.shorter
        simp at h
        omega⟩
  | .ok r => .ok r

/-- The sign in front of an operand. -/
def signOf? : Token → Option UnaryOperator
  | .op (.binary (.compute .sub)) => some .negate
  | .op (.binary (.compute .add)) => some .plus
  | _ => none

/-- The rule `unary`. -/
def unaryRule (inner : Rules) : Rule
  | [] => power inner []
  | t :: ts =>
    match signOf? t.token with
    | none => power inner (t :: ts)
    | some op =>
      match inner.sign ts with
      | .error e => .error e
      | .ok r => .ok ⟨.unary op r.expr, r.rest, Nat.lt_trans r.shorter (by simp)⟩

/-! ### Chains -/

/-- Operators and operands after a first operand, associated to the left. -/
def leftChain (operand : Rule) (operator? : Token → Option Operator) (left : Expr) :
    (ts : Tokens) → Except SyntaxError (Reading (ts.length + 1))
  | [] => .ok ⟨left, [], by simp⟩
  | t :: ts =>
    match operator? t.token with
    | none => .ok ⟨left, t :: ts, by simp⟩
    | some op =>
      match operand ts with
      | .error e => .error e
      | .ok r =>
        have hr : r.rest.length < ts.length := r.shorter
        match leftChain operand operator? (.binary left op r.expr) r.rest with
        | .error e => .error e
        | .ok r' => .ok (r'.weaken (by simp; omega))
termination_by ts => ts.length

/-- An operand and a chain after it. -/
def chainRule (operand : Rule) (operator? : Token → Option Operator) : Rule := fun ts =>
  match operand ts with
  | .error e => .error e
  | .ok r =>
    match leftChain operand operator? r.expr r.rest with
    | .error e => .error e
    | .ok r' => .ok (r'.weaken r.shorter)

/-- Comparisons after a first operand `left`: neighbours are compared, and the comparisons are
joined by `and`. -/
def comparisonChain (operand : Rule) (joined : Option Expr) (left : Expr) :
    (ts : Tokens) → Except SyntaxError (Reading (ts.length + 1))
  | [] => .ok ⟨joined.getD left, [], by simp⟩
  | ⟨.op (.binary (.compare op)), _⟩ :: ts =>
    match operand ts with
    | .error e => .error e
    | .ok r =>
      have hr : r.rest.length < ts.length := r.shorter
      let comparison := Expr.binary left (.compare op) r.expr
      let joined' := match joined with
        | none => comparison
        | some e => .binary e (.combine .and) comparison
      match comparisonChain operand (some joined') r.expr r.rest with
      | .error e => .error e
      | .ok r' => .ok (r'.weaken (by simp; omega))
  | t :: ts => .ok ⟨joined.getD left, t :: ts, by simp⟩
termination_by ts => ts.length

/-- The operators of the rule `product`. -/
def productOperator? : Token → Option Operator
  | .op (.binary (.compute .mul)) => some (.compute .mul)
  | .op (.binary (.compute .div)) => some (.compute .div)
  | .op (.binary (.compute .mod)) => some (.compute .mod)
  | _ => none

/-- The operators of the rule `sum`. -/
def sumOperator? : Token → Option Operator
  | .op (.binary (.compute .add)) => some (.compute .add)
  | .op (.binary (.compute .sub)) => some (.compute .sub)
  | _ => none

/-- The operators of the rule `and`. -/
def andOperator? : Token → Option Operator
  | .op (.binary (.combine .and)) => some (.combine .and)
  | .ident name => if name = "and" then some (.combine .and) else none
  | _ => none

/-- The operators of the rule `or`. -/
def orOperator? : Token → Option Operator
  | .op (.binary (.combine .or)) => some (.combine .or)
  | .ident name => if name = "or" then some (.combine .or) else none
  | _ => none

/-- Whether a token negates what follows. -/
def isNegation : Token → Bool
  | .op .bang => true
  | .ident name => name == "not"
  | _ => false

/-! ### Rules -/

/-- The rule `product`. -/
def productRule (inner : Rules) : Rule := chainRule (unaryRule inner) productOperator?

/-- The rule `sum`. -/
def sumRule (inner : Rules) : Rule := chainRule (productRule inner) sumOperator?

/-- The rule `compare`. -/
def compareRule (inner : Rules) : Rule := fun ts =>
  match sumRule inner ts with
  | .error e => .error e
  | .ok r =>
    match comparisonChain (sumRule inner) none r.expr r.rest with
    | .error e => .error e
    | .ok r' => .ok (r'.weaken r.shorter)

/-- The rule `not`. -/
def negationRule (inner : Rules) : Rule
  | [] => compareRule inner []
  | t :: ts =>
    if isNegation t.token then
      match inner.negation ts with
      | .error e => .error e
      | .ok r => .ok ⟨.unary .not r.expr, r.rest, Nat.lt_trans r.shorter (by simp)⟩
    else compareRule inner (t :: ts)

/-- The rule `and`. -/
def conjunctionRule (inner : Rules) : Rule := chainRule (negationRule inner) andOperator?

/-- The rule `or`. -/
def disjunctionRule (inner : Rules) : Rule := chainRule (conjunctionRule inner) orOperator?

/-- The rules of one level, built from those of the next. -/
def Rules.around (inner : Rules) : Rules where
  disjunction := disjunctionRule inner
  negation := negationRule inner
  sign := unaryRule inner

/-- The rules that may go `n` levels deeper. -/
def rulesAt : Nat → Rules
  | 0 => Rules.exhausted.around
  | n + 1 => (rulesAt n).around

/-! ### Whole texts -/

/-- The expression that all of the tokens denote. -/
def ofTokens (ts : Tokens) : Except SyntaxError Expr :=
  match ts[maxTokens]? with
  | some extra => .error (.tooManyTokens extra.position maxTokens)
  | none =>
    match (rulesAt maxDepth).disjunction ts with
    | .error e => .error e
    | .ok ⟨e, [], _⟩ => .ok e
    | .ok ⟨_, ⟨t, p⟩ :: _, _⟩ => .error (.unexpected p t)

/-- The expression that a text denotes. -/
def parse (text : List Char) : Except SyntaxError Expr :=
  if Unicode.allBlank text then .error .empty
  else
    match tokenize text with
    | .error e => .error e
    | .ok ts => ofTokens ts

end TripletFacts.Expr
