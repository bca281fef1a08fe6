import TripletFacts.Settings.Basic
import TripletFacts.Value

/-!
# Triplets

A triplet `$PREFIX.NAME=VALUE"COMMENT";` is a fact: the thing that its prefix and its name stand
for has a value. A triplet without a value is a reference: it points at the fact with its prefix
and its name. References can be values themselves, and they are the operands of formulas.

## Main definitions

* `Key`: the prefix and the name, by which facts are told apart.
* `Reference`: a triplet without a value.
* `Item`, `Formula`: formulas over references.
* `FactValue`, `Triplet`: values and triplets.
* `Triplet.text`: a triplet in the notation of its settings.
* `Triplet.equal`: equality of what is stated, whatever the comments and marks.
-/

namespace TripletFacts

/-! ### Types -/

/-- What tells facts apart: the prefix and the name, if there is one. -/
@[ext] structure Key where
  pfx : String
  name : Option String
deriving DecidableEq

/-- A triplet without a value. -/
structure Reference where
  pfx : String
  name : Option String
  comment : Option String
  /-- The value is asked for. -/
  bid : Bool
  /-- The triplet is written without the mark at its beginning. -/
  special : Bool
  /-- The settings that the triplet was made with. -/
  settings : Settings
deriving DecidableEq

/-- An item of a formula. A formula inside of a formula brings its own settings. -/
inductive Item where
  /-- Operators and any other text, taken as it is. -/
  | text (s : String)
  | number (n : Number)
  | bool (b : Bool)
  | reference (r : Reference)
  | formula (items : List Item) (settings : Settings)

/-- A formula: items one after the other. -/
structure Formula where
  items : List Item
  settings : Settings

/-- The value of a fact. -/
inductive FactValue where
  /-- A literal. -/
  | literal (v : Value)
  /-- A pointer to another fact. -/
  | reference (r : Reference)
  | formula (f : Formula)

/-- A triplet. -/
structure Triplet extends Reference where
  value : Option FactValue

/-! ### Parts -/

/-- The key of a reference. -/
def Reference.key (r : Reference) : Key := ⟨r.pfx, r.name⟩

/-- The key of a triplet. -/
def Triplet.key (t : Triplet) : Key := t.toReference.key

/-- A reference as a triplet. -/
def Reference.toTriplet (r : Reference) : Triplet := { r with value := none }

/-- Whether a triplet is a reference. -/
def Triplet.isReference (t : Triplet) : Bool := t.value.isNone

/-- The literal that a value is. -/
def FactValue.literal? : FactValue → Option Value
  | literal v => some v
  | reference _ | formula _ => none

/-! ### Texts -/

namespace Reference

/-- The mark, the prefix and the name. -/
def head (r : Reference) : List Char :=
  (if r.special then [] else r.settings.startMark.toList) ++ r.pfx.toList ++
    r.settings.nameSeparator.toList ++ (r.name.getD "").toList

/-- The comment in its quotes. -/
def commentText (r : Reference) : List Char :=
  match r.comment with
  | some c => r.settings.commentQuote.toList ++ c.toList ++ r.settings.commentQuote.toList
  | none => []

/-- The parts of a triplet around the text of its value. -/
def textWith (r : Reference) (value : List Char) : List Char :=
  r.head ++ r.settings.valueSeparator.toList ++ (if r.bid then r.settings.bidMark.toList else []) ++
    value ++ r.commentText ++ r.settings.endMark.toList

/-- A reference in the notation of its settings; only a request has more than its head. -/
def text (r : Reference) : List Char := if r.bid then r.textWith [] else r.head

end Reference

namespace Item

mutual

/-- The text of an item. -/
def shown : Item → List Char
  | .text s => s.toList
  | number n => n.text
  | bool b => Value.boolText b
  | reference r => r.text
  | formula items settings => settings.itemSeparator.toList.intercalate (allShown items)

/-- The texts of several items. -/
def allShown : List Item → List (List Char)
  | [] => []
  | i :: is => i.shown :: allShown is

end

end Item

/-- The text of a formula. -/
def Formula.text (f : Formula) : List Char :=
  f.settings.itemSeparator.toList.intercalate (Item.allShown f.items)

namespace FactValue

/-- A value as plain text. -/
def text : FactValue → List Char
  | literal v => v.text
  | reference r => r.text
  | formula f => f.text

/-- A value inside of a triplet: texts stand in quotes. -/
def quoted (s : Settings) : FactValue → List Char
  | literal (.str v) => s.valueQuote.toList ++ v.toList ++ s.valueQuote.toList
  | v => v.text

end FactValue

/-- A triplet in the notation of its settings. -/
def Triplet.text (t : Triplet) : List Char :=
  match t.value with
  | some v => t.textWith (v.quoted t.settings)
  | none => t.toReference.text

/-! ### Equality -/

namespace Item

mutual

/-- Items are equal if they are of one kind and state the same; an integer is not a float. -/
def equal : Item → Item → Bool
  | .text a, .text b => a == b
  | number (.int a), number (.int b) => a == b
  | number (.float a), number (.float b) => a == b
  | bool a, bool b => a == b
  | reference a, reference b => a.key == b.key
  | formula a _, formula b _ => allEqual a b
  | _, _ => false

/-- Lists of items are equal item by item. -/
def allEqual : List Item → List Item → Bool
  | [], [] => true
  | a :: as, b :: bs => a.equal b && allEqual as bs
  | _, _ => false

end

end Item

/-- Formulas are equal item by item, whatever their settings. -/
def Formula.equal (f g : Formula) : Bool := Item.allEqual f.items g.items

/-- Values are equal if they state the same; numbers are compared across their kinds. -/
def FactValue.equal : FactValue → FactValue → Bool
  | literal a, literal b => a.equal b
  | reference a, reference b => a.key == b.key
  | formula a, formula b => a.equal b
  | _, _ => false

/-- Values that may be absent are equal if both are absent or both are equal values. -/
def FactValue.optionEqual : Option FactValue → Option FactValue → Bool
  | none, none => true
  | some a, some b => a.equal b
  | _, _ => false

/-- Triplets are equal if they state the same: comments, marks and settings do not count. -/
def Triplet.equal (t u : Triplet) : Bool :=
  t.key == u.key && FactValue.optionEqual t.value u.value

end TripletFacts
