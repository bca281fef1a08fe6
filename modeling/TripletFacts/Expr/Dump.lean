import TripletFacts.Error
import TripletFacts.Expr.Basic
import TripletFacts.Json.Printer
import TripletFacts.Json.Record

/-!
# Dumped expressions

Expressions and values can be dumped as JSON and read back. A value is written as the JSON value of
its kind, without a mark for the kind; a node of an expression is an object whose one field is named
for the kind of node, and the parts of the node are a record there. A text that is not read as an
expression is a document that cannot be used.

## Main definitions

* `Value.toJson`, `Value.ofJson?`, `Value.ofText?`: values.
* `Expr.toJson`, `Expr.dump`: expressions as JSON, and their dumps.
* `Expr.read`, `Expr.ofText?`, `Expr.ofDump`: expressions from JSON text.

## Main results

* `Value.ofJson?_toJson`: every value is read back from its dump.
-/

namespace TripletFacts

namespace Value

/-- A value as JSON. -/
def toJson : Value → Json
  | bool b => .bool b
  | int i => .int i.toInt
  | float x => .float x
  | str s => .str s

/-- The value of a JSON value; integers without 64 bits become floats. -/
def ofJson? : Json → Option Value
  | .bool b => some (.bool b)
  | .int i =>
    match int64? i with
    | some j => some (.int j)
    | none => some (.float (Binary64.ofInt i))
  | .float x => some (.float x)
  | .str s => some (.str s)
  | .null | .arr _ | .obj _ => none

/-- The value that a JSON text denotes. -/
def ofText? (text : List Char) : Option Value := (Json.parse? Json.maxDepth text).bind ofJson?

/-- Every value is read back from its dump. -/
theorem ofJson?_toJson (v : Value) : ofJson? v.toJson = some v := by
  cases v with
  | int i => simp [toJson, ofJson?, int64?_toInt]
  | _ => rfl

end Value

namespace Expr

mutual

/-- An expression as JSON. -/
def toJson : Expr → Json
  | literal v => .obj [("Literal", v.toJson)]
  | binary left op right =>
    .obj [("Binary", .obj [("left", left.toJson), ("op", .str op.name), ("right", right.toJson)])]
  | unary op operand =>
    .obj [("Unary", .obj [("op", .str op.name), ("operand", operand.toJson)])]
  | call name args =>
    .obj [("FunctionCall", .obj [("name", .str name), ("args", .arr (toJsonList args))])]

/-- Several expressions as JSON. -/
def toJsonList : List Expr → List Json
  | [] => []
  | e :: es => e.toJson :: toJsonList es

end

/-- The binary operator with a given name. -/
def binaryNamed? (name : String) : Option Operator := Operator.all.find? (·.name == name)

/-- The unary operator with a given name. -/
def unaryNamed? (name : String) : Option UnaryOperator := UnaryOperator.all.find? (·.name == name)

/-- A part of a node. -/
inductive Part where
  | expr (e : Expr)
  | binaryOperator (op : Operator)
  | unaryOperator (op : UnaryOperator)
  | name (s : String)
  | args (es : List Expr)

/-- The parts of a kind of node with their readers, made of readers for operands and arguments. An
operator takes a level of nesting if it is written as an object. -/
def partsOf? (depth : Nat) (operand : Json.Reader Expr) (args : Json.Reader (List Expr)) :
    String → Option (List (String × Json.Reader Part))
  | "Binary" => some [
      ("left", operand.map .expr),
      ("op", (Json.readChoice binaryNamed? depth).map .binaryOperator),
      ("right", operand.map .expr)]
  | "Unary" => some [
      ("op", (Json.readChoice unaryNamed? depth).map .unaryOperator),
      ("operand", operand.map .expr)]
  | "FunctionCall" => some [
      ("name", Json.Reader.map .name fun cs => Json.readQuoted (Json.skipBlanks cs)),
      ("args", args.map .args)]
  | _ => none

/-- The node with the given parts. -/
def ofParts? : List Part → Option Expr
  | [.expr left, .binaryOperator op, .expr right] => some (binary left op right)
  | [.unaryOperator op, .expr operand] => some (unary op operand)
  | [.name s, .args es] => some (call s es)
  | _ => none

/-- A node with parts, in a record whose parts have `depth` levels of nesting left. -/
def readParts (depth : Nat) (operand : Json.Reader Expr) (args : Json.Reader (List Expr))
    (kind : String) : Json.Reader Expr := fun cs =>
  (partsOf? depth operand args kind).bind fun fields =>
    Json.Reader.filterMap ofParts? (Json.readRecord fields) cs

/-- An expression that nests at most `depth` arrays and objects, and the rest. -/
def read : Nat → Json.Reader Expr
  | 0, _ => none
  | depth + 1, cs =>
    Json.readTagged (fun kind cs =>
      if kind = "Literal" then
        Json.Reader.filterMap (fun v => (Value.ofJson? v).map literal) (Json.readValue depth) cs
      else
        match depth with
        | 0 => none
        | depth + 1 =>
          let args : Json.Reader (List Expr) := fun cs =>
            match depth with
            | 0 => none
            | depth + 1 => Json.readArray (read depth) cs
          readParts depth (read depth) args kind cs) cs

/-- The text of a dumped expression. -/
def dump (e : Expr) : List Char := e.toJson.write

/-- The expression that a text denotes. -/
def ofText? (text : List Char) : Option Expr :=
  match read Json.maxDepth text with
  | some (e, rest) => if rest.all Json.isBlank then some e else none
  | none => none

/-- The expression of a dump. -/
def ofDump (text : List Char) : Except FactError Expr :=
  match ofText? text with
  | some e => .ok e
  | none => .error .badDocument

end Expr

end TripletFacts
