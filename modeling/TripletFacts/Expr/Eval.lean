import TripletFacts.Expr.Function
import TripletFacts.Expr.Grammar

/-!
# Evaluation

Operands are evaluated from left to right. `and` and `or` leave out their right side when the left
one decides, and their result is a truth value.

## Main definitions

* `Expr.eval`: the value of a tree.
* `evaluate`: the value of expression text.
-/

namespace TripletFacts

namespace Expr

mutual

/-- The value of a tree. -/
def eval : Expr → Except EvalError Value
  | literal v => .ok v
  | binary left (.combine op) right =>
    match left.eval with
    | .error e => .error e
    | .ok l =>
      if l.isTruthy = (op == .or) then .ok (.bool l.isTruthy)
      else
        match right.eval with
        | .error e => .error e
        | .ok r => .ok (.bool r.isTruthy)
  | binary left (.compare op) right =>
    match left.eval with
    | .error e => .error e
    | .ok l =>
      match right.eval with
      | .error e => .error e
      | .ok r => (op.apply l r).map Value.bool
  | binary left (.compute op) right =>
    match left.eval with
    | .error e => .error e
    | .ok l =>
      match right.eval with
      | .error e => .error e
      | .ok r => op.apply l r
  | unary op operand =>
    match operand.eval with
    | .error e => .error e
    | .ok v => op.apply v
  | call name args =>
    match evalList args with
    | .error e => .error e
    | .ok vs => callFunction name vs

/-- The values of several trees. -/
def evalList : List Expr → Except EvalError (List Value)
  | [] => .ok []
  | e :: es =>
    match e.eval with
    | .error err => .error err
    | .ok v =>
      match evalList es with
      | .error err => .error err
      | .ok vs => .ok (v :: vs)

end

end Expr

/-- The value of expression text. -/
def evaluate (text : List Char) : Except EvalError Value :=
  match Expr.parse text with
  | .error e => .error (.grammar e)
  | .ok e => e.eval

end TripletFacts
