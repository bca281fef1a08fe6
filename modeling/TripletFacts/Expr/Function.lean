import TripletFacts.Expr.Arithmetic

/-!
# Functions

The functions that an expression may call: elementary functions of one number, the absolute value,
the joining of two texts, and the least and the greatest of several values.

## Main definitions

* `Function`: the functions, with `Function.name` and `Function.ofName?`.
* `Function.apply`: a function applied to arguments.
* `callFunction`: a call by name.

## Main results

* `Function.mem_all`, `Function.ofName?_name`: the list of functions is complete, and a function
  is found by its name.
-/

namespace TripletFacts

/-- The functions that an expression may call. -/
inductive Function where
  | sin | cos | tan | acos | atan | sinh | cosh | tanh | sqrt | exp | ln | log
  | strcat | min | max | abs
deriving DecidableEq

namespace Function

/-- The name of a function. -/
def name : Function → String
  | sin => "sin"
  | cos => "cos"
  | tan => "tan"
  | acos => "acos"
  | atan => "atan"
  | sinh => "sinh"
  | cosh => "cosh"
  | tanh => "tanh"
  | sqrt => "sqrt"
  | exp => "exp"
  | ln => "ln"
  | log => "log"
  | strcat => "strcat"
  | min => "min"
  | max => "max"
  | abs => "abs"

/-- All functions. -/
def all : List Function :=
  [sin, cos, tan, acos, atan, sinh, cosh, tanh, sqrt, exp, ln, log, strcat, min, max, abs]

/-- Every function is listed. -/
theorem mem_all (f : Function) : f ∈ all := by cases f <;> decide

/-- The function with a given name. -/
def ofName? (name : String) : Option Function := all.find? (·.name == name)

/-- A function is found by its name. -/
theorem ofName?_name (f : Function) : ofName? f.name = some f := by cases f <;> decide

/-- The elementary function behind a name; `ln` is the natural and `log` the decimal logarithm. -/
def elementary? : Function → Option (Float → Float)
  | sin => some Float.sin
  | cos => some Float.cos
  | tan => some Float.tan
  | acos => some Float.acos
  | atan => some Float.atan
  | sinh => some Float.sinh
  | cosh => some Float.cosh
  | tanh => some Float.tanh
  | sqrt => some Float.sqrt
  | exp => some Float.exp
  | ln => some Float.log
  | log => some Float.log10
  | strcat | min | max | abs => none

/-- The only argument of a function, as a number. -/
def numericArgument (f : Function) : List Value → Except EvalError Number
  | [v] =>
    match v.operand? with
    | some n => .ok n
    | none => .error (.notNumeric f.name v.typeName)
  | args => .error (.wrongArity f.name "1" args.length)

/-- An elementary function at a number. A finite number where the function is not finite lies
outside its domain. -/
def applyElementary (f : Function) (g : Float → Float) (args : List Value) :
    Except EvalError Value :=
  match f.numericArgument args with
  | .error e => .error e
  | .ok n =>
    let x := n.toFloat
    let y := g x
    if x.isFinite && !y.isFinite then .error (.outsideDomain f.name x) else .ok (.float y)

/-- The absolute value. The least integer has none, and its float is used. -/
def applyAbs (args : List Value) : Except EvalError Value :=
  match abs.numericArgument args with
  | .error e => .error e
  | .ok (.int i) =>
    match int64? i.toInt.natAbs with
    | some j => .ok (.int j)
    | none => .ok (.float (Binary64.ofInt i.toInt).abs)
  | .ok (.float x) => .ok (.float x.abs)

/-- The first of several values that no later one beats. -/
def firstExtreme (beats : Comparison) (best : Value) : List Value → Except EvalError Value
  | [] => .ok best
  | v :: vs =>
    match beats.apply v best with
    | .error e => .error e
    | .ok true => firstExtreme beats v vs
    | .ok false => firstExtreme beats best vs

/-- The extreme one of at least two values. -/
def applyExtreme (f : Function) (beats : Comparison) : List Value → Except EvalError Value
  | v :: w :: vs => firstExtreme beats v (w :: vs)
  | args => .error (.wrongArity f.name "at least 2" args.length)

/-- A function applied to arguments. -/
def apply (f : Function) (args : List Value) : Except EvalError Value :=
  match f, f.elementary? with
  | _, some g => f.applyElementary g args
  | abs, none => applyAbs args
  | strcat, none =>
    match args with
    | [a, b] => Arithmetic.add.apply a b
    | _ => .error (.wrongArity f.name "2" args.length)
  | min, none => f.applyExtreme .lt args
  | _, none => f.applyExtreme .gt args

end Function

/-- Whether an expression may call a function of this name. -/
def isAllowedFunction (name : String) : Bool := (Function.ofName? name).isSome

/-- A function called by its name. -/
def callFunction (name : String) (args : List Value) : Except EvalError Value :=
  match Function.ofName? name with
  | some f => f.apply args
  | none => .error (.unknownFunction name)

end TripletFacts
