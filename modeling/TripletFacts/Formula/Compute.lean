import TripletFacts.Expr.Eval
import TripletFacts.Facts.Lookup

/-!
# Computing formulas

A formula is computed over facts: its items become expression text, references as the values of
the facts that they point at, formulas inside of it as their results, and the text is evaluated.
Special references point at facts of their own.

## Main definitions

* `Reference.resolve`: the value that a reference points at.
* `Item.operand`: the expression text of an item.
* `Formula.compute`: the result of a formula.
-/

namespace TripletFacts

/-- The literal that a fact states. -/
def Triplet.literalValue (t : Triplet) : Except EvalError Value :=
  match t.value with
  | none => .error (.valueless (String.ofList t.text))
  | some v =>
    match v.literal? with
    | none => .error (.notLiteral (String.ofList t.text))
    | some v => .ok v

/-- The value that a reference points at; a special one looks into the special facts. -/
def Reference.resolve (facts : Facts) (special : Option Facts) (r : Reference) :
    Except EvalError Value :=
  match if r.special then special else some facts with
  | none => .error (.noSpecialFacts (String.ofList r.text))
  | some source =>
    match source.get r.pfx r.name with
    | .error e => .error (.fact e)
    | .ok t => t.literalValue

namespace Item

section

variable (facts : Facts) (special : Option Facts)

mutual

/-- The expression text of an item. -/
def operand : Item → Except EvalError (List Char)
  | .text s => .ok s.toList
  | number n => .ok n.toValue.operandText
  | bool b => .ok (Value.bool b).operandText
  | reference r => (r.resolve facts special).map Value.operandText
  | formula items _ =>
    match operands items with
    | .error e => .error e
    | .ok code => (evaluate code).map Value.operandText

/-- The expression text of items one after the other. -/
def operands : List Item → Except EvalError (List Char)
  | [] => .ok []
  | i :: is =>
    match operand i with
    | .error e => .error e
    | .ok code => (operands is).map (code ++ ·)

end

end

end Item

/-- The result of a formula over facts and special facts. -/
def Formula.compute (f : Formula) (facts : Facts) (special : Option Facts) :
    Except EvalError Value :=
  match Item.operands facts special f.items with
  | .error e => .error e
  | .ok code => evaluate code

end TripletFacts
