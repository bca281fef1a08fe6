import TripletFacts.Value
import TripletFacts.Expr.Operator

/-!
# Expressions

The trees of the restricted expression language. They have literals, operators and calls of named
functions, and no variables, so that an expression can only compute with what it contains.

## Main definitions

* `Expr`: expression trees.
* `Expr.size`, `Expr.height`: the number of nodes and the number of levels of a tree.
* `Expr.equal`: equality of trees up to the equality of the language on literals.
-/

namespace TripletFacts

/-- Expression trees. -/
inductive Expr where
  | literal (v : Value)
  | binary (left : Expr) (op : Operator) (right : Expr)
  | unary (op : UnaryOperator) (operand : Expr)
  | call (name : String) (args : List Expr)

namespace Expr

mutual

/-- The number of nodes of a tree. -/
def size : Expr → Nat
  | literal _ => 1
  | binary left _ right => 1 + left.size + right.size
  | unary _ operand => 1 + operand.size
  | call _ args => 1 + sizeList args

/-- The number of nodes of several trees. -/
def sizeList : List Expr → Nat
  | [] => 0
  | e :: es => e.size + sizeList es

end

mutual

/-- The number of levels of a tree. -/
def height : Expr → Nat
  | literal _ => 1
  | binary left _ right => 1 + max left.height right.height
  | unary _ operand => 1 + operand.height
  | call _ args => 1 + heightList args

/-- The number of levels of the tallest of several trees. -/
def heightList : List Expr → Nat
  | [] => 0
  | e :: es => max e.height (heightList es)

end

mutual

/-- Whether two trees have the same shape and equal literals. -/
def equal : Expr → Expr → Bool
  | literal v, literal w => v.equal w
  | binary l op r, binary l' op' r' => l.equal l' && op == op' && r.equal r'
  | unary op e, unary op' e' => op == op' && e.equal e'
  | call name args, call name' args' => name == name' && equalList args args'
  | _, _ => false

/-- Whether two lists of trees are equal one by one. -/
def equalList : List Expr → List Expr → Bool
  | [], [] => true
  | e :: es, e' :: es' => e.equal e' && equalList es es'
  | _, _ => false

end

end Expr

end TripletFacts
