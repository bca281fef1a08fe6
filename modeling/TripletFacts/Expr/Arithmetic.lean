import TripletFacts.Expr.Error

/-!
# Arithmetic and comparison

Integers stay integers under `+`, `-`, `*` and `%`, and under `**` with an exponent that is not
negative, as long as the result has 64 bits; otherwise, and under `/`, the floats nearest to the
operands are used. Truth values count as 0 and 1. A result that is not finite although the
operands are is an error.

## Main definitions

* `Arithmetic.onInts`, `Arithmetic.onFloats`, `Arithmetic.apply`: arithmetic.
* `Value.order`, `Comparison.apply`: comparison.
* `UnaryOperator.apply`: unary operators.
-/

namespace TripletFacts

/-! ### Arithmetic -/

namespace Arithmetic

/-- The remainder with the sign of the divisor. -/
def floatModulo (l r : Float) : Float :=
  let m := Binary64.remainder l r
  if m != 0 && decide (m < 0) != decide (r < 0) then m + r else m

/-- Arithmetic on floats. -/
def onFloats (op : Arithmetic) (l r : Float) : Except EvalError Value :=
  let checked (x : Float) : Except EvalError Value :=
    if !x.isFinite && l.isFinite && r.isFinite then .error (.noFiniteResult op l r)
    else .ok (.float x)
  match op with
  | add => checked (l + r)
  | sub => checked (l - r)
  | mul => checked (l * r)
  | div => if r == 0 then .error .divisionByZero else checked (l / r)
  | mod => if r == 0 then .error .divisionByZero else checked (floatModulo l r)
  | pow => if l == 0 && r < 0 then .error .divisionByZero else checked (l.pow r)

/-- The power with a non-negative exponent below `2 ^ 32`, if it has 64 bits. A base other than
-1, 0 and 1 has no such power from the 64th on, and the powers of those three depend on the parity
of the exponent only. -/
def intPower? (l r : Int64) : Option Int64 :=
  let n := r.toInt.toNat
  if UInt32.size ≤ n then none
  else if n < 64 then int64? (Int.pow l.toInt n)
  else if l.toInt.natAbs ≤ 1 then int64? (Int.pow l.toInt (n % 2 + 2))
  else none

/-- The remainder of the division that truncates the quotient. There is none where the quotient
has more than 64 bits. -/
def intRemainder? (l r : Int64) : Option Int64 :=
  (int64? (l.toInt.tdiv r.toInt)).bind fun _ => int64? (l.toInt.tmod r.toInt)

/-- Whether a remainder has another sign than the divisor. -/
def isOpposed (m r : Int64) : Bool := m != 0 && decide (m < 0) != decide (r < 0)

/-- The remainder with the sign of the divisor, from the one with the sign of the dividend. -/
def intModulo (m r : Int64) : Int64 := if isOpposed m r then m + r else m

/-- The integer result of an operation, if it has one with 64 bits. -/
def intResult? (op : Arithmetic) (l r : Int64) : Option Int64 :=
  match op with
  | add => int64? (l.toInt + r.toInt)
  | sub => int64? (l.toInt - r.toInt)
  | mul => int64? (l.toInt * r.toInt)
  | div => none
  | mod => (intRemainder? l r).map (intModulo · r)
  | pow => if r < 0 then none else intPower? l r

/-- Arithmetic on integers. -/
def onInts (op : Arithmetic) (l r : Int64) : Except EvalError Value :=
  if op = mod ∧ r = 0 then .error .divisionByZero
  else
    match intResult? op l r with
    | some i => .ok (.int i)
    | none => onFloats op (Binary64.ofInt l.toInt) (Binary64.ofInt r.toInt)

/-- Arithmetic on values; `+` joins texts. -/
def apply (op : Arithmetic) (l r : Value) : Except EvalError Value :=
  match op, l, r with
  | add, .str s, .str t => .ok (.str (s ++ t))
  | _, _, _ =>
    match l.operand?, r.operand? with
    | some (.int i), some (.int j) => onInts op i j
    | some m, some n => onFloats op m.toFloat n.toFloat
    | _, _ => .error (.cannotApply (.compute op) l.typeName r.typeName)

end Arithmetic

/-! ### Comparison -/

/-- The order of two integers or texts. -/
def orderOf {α : Type} [LT α] [DecidableEq α] [DecidableLT α] (a b : α) : Ordering :=
  if a < b then .lt else if a = b then .eq else .gt

/-- The order of two floats; there is none if one of them is not a number. -/
def floatOrder (a b : Float) : Option Ordering :=
  if a < b then some .lt else if a == b then some .eq else if b < a then some .gt else none

/-- How two values are related. -/
inductive Relation where
  /-- They are ordered. -/
  | ordered (o : Ordering)
  /-- One of them is not a number. -/
  | unordered
  /-- A text and something else. -/
  | apart

/-- How two values are related: texts by their characters, integers exactly, other numbers as
floats. -/
def Value.relation (l r : Value) : Relation :=
  match l, r with
  | .str s, .str t => .ordered (orderOf s t)
  | _, _ =>
    match l.operand?, r.operand? with
    | some (.int i), some (.int j) => .ordered (orderOf i j)
    | some m, some n =>
      match floatOrder m.toFloat n.toFloat with
      | some o => .ordered o
      | none => .unordered
    | _, _ => .apart

/-- Whether a comparison holds of values in this order. -/
def Comparison.holds : Comparison → Ordering → Bool
  | eq, o => o == .eq
  | ne, o => o != .eq
  | gt, o => o == .gt
  | ge, o => o != .lt
  | lt, o => o == .lt
  | le, o => o != .gt

/-- Comparison of values. Unordered values are different and not comparable otherwise, and values
apart cannot be put in an order at all. -/
def Comparison.apply (op : Comparison) (l r : Value) : Except EvalError Bool :=
  match l.relation r with
  | .ordered o => .ok (op.holds o)
  | .unordered => .ok (op == ne)
  | .apart =>
    match op with
    | eq => .ok false
    | ne => .ok true
    | _ => .error (.cannotCompare op l.typeName r.typeName)

/-! ### Unary operators -/

/-- Unary operators on values. The least integer has no negative, and its float is used. -/
def UnaryOperator.apply (op : UnaryOperator) (v : Value) : Except EvalError Value :=
  match op, v.operand? with
  | not, _ => .ok (.bool (!v.isTruthy))
  | negate, some (.int i) =>
    match int64? (-i.toInt) with
    | some j => .ok (.int j)
    | none => .ok (.float (-Binary64.ofInt i.toInt))
  | negate, some (.float x) => .ok (.float (-x))
  | plus, some n => .ok n.toValue
  | _, none => .error (.cannotApplyUnary op v.typeName)

end TripletFacts
