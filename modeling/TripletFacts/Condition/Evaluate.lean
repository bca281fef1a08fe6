import TripletFacts.Condition.Normalize
import TripletFacts.Facts.Lookup
import TripletFacts.Facts.Reader
import TripletFacts.Expr.Eval
import TripletFacts.Unicode.Blank
import TripletFacts.Unicode.Quote

/-!
# Evaluating conditions

A condition is a text about two collections of facts: `$A.B` stands for a fact of the first one and
`A.B` for a fact of the second one. Calls that ask whether a fact is present or absent become truth
values, references become the literals of their facts, and what remains is an expression.

## Main definitions

* `FactSource`: facts as text or as a collection.
* `Settings.resolvePresence`, `Settings.substituteMarked`, `Settings.substituteBare`: the code of a
  condition with calls and references replaced.
* `Settings.expressionText`: the expression that a condition becomes.
* `Settings.evaluateCondition`: the value of a condition.
-/

namespace TripletFacts

/-- Facts as text or as a collection. -/
inductive FactSource where
  | text (text : List Char)
  | given (facts : Facts)

namespace FactSource

/-- Facts that are given as text have to have some. -/
def isBlank : FactSource → Bool
  | text t => Unicode.allBlank t
  | given _ => false

/-- The collection. -/
def facts (s : Settings) : FactSource → Except FactError Facts
  | text t => Facts.read s t
  | given f => .ok f

end FactSource

/-! ### Facts that a condition asks for -/

namespace Facts

/-- Whether there is a fact with a prefix and a name in letters of any case. -/
def containsWritten (f : Facts) (pfx name : List Char) : Except EvalError Bool :=
  match f.containsKey (Unicode.upper (String.ofList pfx))
      (some (Unicode.upper (String.ofList name))) with
  | .ok b => .ok b
  | .error e => .error (.fact e)

/-- Whether a fact is present, or absent, as a literal. -/
def presence (f : Facts) (present : Bool) (m : Match) : Except EvalError (List Char) :=
  (f.containsWritten (m.groupText 1) (m.groupText 2)).map fun found =>
    (Value.bool (found == present)).text

/-- The literal of the fact with a prefix and a name in letters of any case; `written` is how the
condition refers to it. -/
def operandOf (f : Facts) (pfx name written : List Char) : Except EvalError (List Char) :=
  match f.get (Unicode.upper (String.ofList pfx))
      (some (Unicode.upper (String.ofList name))) with
  | .error (.noTriplet ..) => .error (.noFact (String.ofList written))
  | .error e => .error (.fact e)
  | .ok t =>
    match t.value with
    | none => .error (.noFactValue (String.ofList written))
    | some v =>
      match v.literal? with
      | some v => .ok v.operandText
      | none => .error (.notLiteral (String.ofList written))

end Facts

/-! ### Passes -/

namespace Settings

/-- Code with the calls that ask for presence replaced; calls with bare references only if there
are facts that they can ask for. -/
def resolvePresence (s : Settings) (facts db : Facts) (code : List Char) :
    Except EvalError (List Char) := do
  let code ← (s.regex .present).replaceM (facts.presence true) code
  let code ← (s.regex .absent).replaceM (facts.presence false) code
  if db.isEmpty then return code
  let code ← (s.regex .presentBare).replaceM (db.presence true) code
  (s.regex .absentBare).replaceM (db.presence false) code

/-- Code with the references that begin with the mark of a triplet replaced. -/
def substituteMarked (s : Settings) (facts : Facts) (code : List Char) :
    Except EvalError (List Char) :=
  (s.regex .reference).replaceM
    (fun m => facts.operandOf (m.groupText 1) (m.groupText 2) m.text) code

/-- Code with the references without that mark replaced; the character before such a reference is
kept. -/
def substituteBare (s : Settings) (db : Facts) (code : List Char) : Except EvalError (List Char) :=
  (s.regex .bareReference).replaceM
    (fun m =>
      let written := m.groupText 2 ++ s.nameSeparator.toList ++ m.groupText 3
      (db.operandOf (m.groupText 2) (m.groupText 3) written).map (m.groupText 1 ++ ·)) code

/-- The expression that a normalized condition becomes over two collections of facts. -/
def substitute (s : Settings) (facts db : Facts) (text : List Char) :
    Except EvalError (List Char) := do
  let text ← mapCode (s.resolvePresence facts db) text
  let text ← mapCode (s.substituteMarked facts) text
  mapCode (s.substituteBare db) text

/-- A condition with its code in the words of the expression language. -/
def normalizeCondition (condition : List Char) : List Char :=
  (segments condition).flatMap fun seg => if seg.isCode then normalizeCode seg.text else seg.text

/-- Reads facts for the evaluation of a condition. -/
def sourceFacts (s : Settings) (source : FactSource) : Except EvalError Facts :=
  match source.facts s with
  | .ok f => .ok f
  | .error e => .error (.fact e)

/-- The expression that a condition becomes. -/
def expressionText (s : Settings) (condition : List Char) (facts db : FactSource) :
    Except EvalError (List Char) :=
  if Unicode.allBlank condition then .error .blankCondition
  else if facts.isBlank then .error .blankFacts
  else if !balanced condition then
    .error (.unbalanced (String.ofList (Unicode.quote (String.ofList condition))))
  else
    match s.sourceFacts facts with
    | .error e => .error e
    | .ok facts =>
      match s.sourceFacts db with
      | .error e => .error e
      | .ok db => s.substitute facts db (normalizeCondition condition)

/-- The value of a condition over two collections of facts. -/
def evaluateCondition (s : Settings) (condition : List Char) (facts db : FactSource) :
    Except EvalError Value :=
  match s.expressionText condition facts db with
  | .error e => .error e
  | .ok text => evaluate text

end Settings

end TripletFacts
