import TripletFacts.Error
import TripletFacts.Expr.Token

/-!
# Errors of evaluation

Everything that can go wrong when an expression, a formula or a condition is evaluated: an error
of facts, an error of expression text, or an error of the evaluation itself.

## Main definitions

* `EvalError`: causes of errors, with `EvalError.category` and `EvalError.message`.
-/

namespace TripletFacts

/-- Causes of errors of evaluation. -/
inductive EvalError where
  /-- An error about facts. -/
  | fact (e : FactError)
  /-- An error in expression text. -/
  | grammar (e : SyntaxError)
  /-- A fact without a value stands where a value is needed. -/
  | valueless (shown : String)
  /-- A fact whose value is a reference or a formula stands where a literal is needed. -/
  | notLiteral (shown : String)
  | wrongArity (function expected : String) (given : Nat)
  | notNumeric (function typeName : String)
  | cannotApply (op : Operator) (left right : String)
  | cannotApplyUnary (op : UnaryOperator) (operand : String)
  | cannotCompare (op : Comparison) (left right : String)
  /-- A reference names no fact. -/
  | noFact (written : String)
  /-- A reference in a condition names a fact without a value. -/
  | noFactValue (written : String)
  | noSpecialFacts (shown : String)
  | blankCondition
  | blankFacts
  | unbalanced (quoted : String)
  | outsideDomain (function : String) (x : Float)
  | noFiniteResult (op : Arithmetic) (left right : Float)
  | divisionByZero
  | unknownFunction (name : String)

namespace EvalError

/-- The class of an error. -/
def category : EvalError → Category
  | fact e => e.category
  | grammar _ => .grammar
  | valueless _ | notLiteral _ | wrongArity .. | notNumeric .. | cannotApply .. |
    cannotApplyUnary .. | cannotCompare .. => .type
  | noFact _ | noFactValue _ | unknownFunction _ => .notFound
  | noSpecialFacts _ | blankCondition | blankFacts | unbalanced _ | outsideDomain .. |
    noFiniteResult .. | divisionByZero => .value

private def typeError (what : String) : String := "Type error: " ++ what

private def operation (what : String) : String := "Invalid operation: " ++ what

private def value (what : String) : String := "Invalid value: " ++ what

/-- The message of an error. -/
def message : EvalError → String
  | fact e => e.message
  | grammar e => e.message
  | valueless shown => typeError (shown ++ " has no value")
  | notLiteral shown => typeError (shown ++ " is not a literal value")
  | wrongArity f expected given =>
    typeError (f ++ "() takes " ++ expected ++ " arguments, " ++ toString given ++ " given")
  | notNumeric f t => typeError (f ++ "() needs a number, not " ++ t)
  | cannotApply op l r => operation ("Cannot apply " ++ op.symbol ++ " to " ++ l ++ " and " ++ r)
  | cannotApplyUnary op t => operation ("Cannot apply " ++ op.name ++ " to " ++ t)
  | cannotCompare op l r =>
    operation ("Cannot compare " ++ l ++ " and " ++ r ++ " with " ++ op.symbol)
  | noFact written => "Not found: " ++ written
  | noFactValue written => "Not found: " ++ written ++ " has no value"
  | noSpecialFacts shown => value ("special reference " ++ shown ++ " needs a special source")
  | blankCondition => value "empty condition"
  | blankFacts => value "no facts given"
  | unbalanced quoted => value ("unbalanced parentheses in " ++ quoted)
  | outsideDomain f x => value (f ++ "(" ++ plainText x ++ ") is outside the function domain")
  | noFiniteResult op l r =>
    value (plainText l ++ " " ++ op.symbol ++ " " ++ plainText r ++ " has no finite result")
  | divisionByZero => "Division by zero"
  | unknownFunction name => "Unknown function: " ++ name

end EvalError

end TripletFacts
