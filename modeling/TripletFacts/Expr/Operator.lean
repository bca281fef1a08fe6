/-!
# Operators

The binary operators of the expression language are comparisons, arithmetic operators and logical
connectives; the unary ones are negation of a truth value, change of sign and the plus sign.

## Main definitions

* `Comparison`, `Arithmetic`, `Connective`, `Operator`: binary operators.
* `UnaryOperator`: unary operators.
* `Operator.symbol`: the way a binary operator is shown.
-/

namespace TripletFacts

/-- Operators that compare two values. -/
inductive Comparison where
  | eq | ne | gt | ge | lt | le
deriving DecidableEq

/-- Operators that compute with two values. -/
inductive Arithmetic where
  | add | sub | mul | div | mod | pow
deriving DecidableEq

/-- Operators that combine two truth values. -/
inductive Connective where
  | and | or
deriving DecidableEq

/-- Binary operators. -/
inductive Operator where
  | compare (op : Comparison)
  | compute (op : Arithmetic)
  | combine (op : Connective)
deriving DecidableEq

/-- Unary operators. -/
inductive UnaryOperator where
  | not | negate | plus
deriving DecidableEq

/-- The symbol of a comparison. -/
def Comparison.symbol : Comparison → String
  | eq => "=="
  | ne => "!="
  | gt => ">"
  | ge => ">="
  | lt => "<"
  | le => "<="

/-- The symbol of an arithmetic operator. -/
def Arithmetic.symbol : Arithmetic → String
  | add => "+"
  | sub => "-"
  | mul => "*"
  | div => "/"
  | mod => "%"
  | pow => "**"

/-- The word for a connective. -/
def Connective.symbol : Connective → String
  | and => "and"
  | or => "or"

/-- The way a binary operator is shown. -/
def Operator.symbol : Operator → String
  | compare op => op.symbol
  | compute op => op.symbol
  | combine op => op.symbol

/-- All binary operators. -/
def Operator.all : List Operator :=
  [.compare .eq, .compare .ne, .compare .gt, .compare .ge, .compare .lt, .compare .le,
   .compute .add, .compute .sub, .compute .mul, .compute .div, .compute .mod, .compute .pow,
   .combine .and, .combine .or]

/-- Every binary operator is listed. -/
theorem Operator.mem_all (op : Operator) : op ∈ Operator.all := by
  rcases op with op | op | op <;> cases op <;> decide

/-- The name of a binary operator in dumped expressions. -/
def Operator.name : Operator → String
  | compare .eq => "Eq"
  | compare .ne => "Ne"
  | compare .gt => "Gt"
  | compare .ge => "Ge"
  | compare .lt => "Lt"
  | compare .le => "Le"
  | compute .add => "Add"
  | compute .sub => "Sub"
  | compute .mul => "Mul"
  | compute .div => "Div"
  | compute .mod => "Mod"
  | compute .pow => "Pow"
  | combine .and => "And"
  | combine .or => "Or"

/-- The name of a unary operator in dumped expressions and in messages. -/
def UnaryOperator.name : UnaryOperator → String
  | not => "Not"
  | negate => "Negate"
  | plus => "Plus"

/-- All unary operators. -/
def UnaryOperator.all : List UnaryOperator := [.not, .negate, .plus]

end TripletFacts
