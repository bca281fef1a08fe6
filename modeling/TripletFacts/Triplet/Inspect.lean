import TripletFacts.Triplet.Basic
import TripletFacts.Unicode.Quote

/-!
# Inspecting triplets

A triplet can be shown with the names of its parts and without its settings. Parts that are absent
and marks that are not set are left out.

## Main definitions

* `Reference.inspect`, `Item.inspect`, `FactValue.inspect`, `Triplet.inspect`: the parts of a
  reference, an item, a value and a triplet.
-/

namespace TripletFacts

/-- Texts with a comma and a blank between them. -/
def commaSeparated (texts : List (List Char)) : List Char := [',', ' '].intercalate texts

/-- A text in parentheses after a word. -/
def tagged (word : String) (text : List Char) : List Char := word.toList ++ '(' :: (text ++ [')'])

namespace Reference

/-- A part with its name. -/
def inspectPart (name : String) (text : List Char) : List Char :=
  name.toList ++ [':', ' '] ++ text

/-- The parts of a triplet whose value is shown as a given text. -/
def inspectWith (r : Reference) (value : Option (List Char)) : List Char :=
  "Triplet \x7b ".toList ++ commaSeparated
    ([inspectPart "prefix" (Unicode.quote r.pfx)] ++
      (r.name.map fun s => inspectPart "name" (Unicode.quote s)).toList ++
      (value.map (inspectPart "value")).toList ++
      (r.comment.map fun s => inspectPart "comment" (Unicode.quote s)).toList ++
      (if r.special then [inspectPart "special" "true".toList] else []) ++
      (if r.bid then [inspectPart "bid" "true".toList] else [])) ++ " \x7d".toList

/-- The parts of a reference. -/
def inspect (r : Reference) : List Char := r.inspectWith none

end Reference

/-- The parts of a truth value. -/
def inspectBool (b : Bool) : List Char :=
  tagged "Bool" (if b then "true".toList else "false".toList)

/-- The parts of a number. -/
def Number.inspect : Number → List Char
  | int i => tagged "Int" (integerText i)
  | float x => tagged "Float" (literalText x)

/-- The parts of a literal. -/
def Value.inspect : Value → List Char
  | bool b => inspectBool b
  | int i => (Number.int i).inspect
  | float x => (Number.float x).inspect
  | str s => tagged "Str" (Unicode.quote s)

/-- A formula of items that are shown as given texts. -/
def inspectFormula (items : List (List Char)) : List Char :=
  tagged "TripletExpression" ('[' :: (commaSeparated items ++ [']']))

namespace Item

mutual

/-- The parts of an item. -/
def inspect : Item → List Char
  | .text s => tagged "Text" (Unicode.quote s)
  | number n => n.inspect
  | bool b => inspectBool b
  | reference r => tagged "Reference" r.inspect
  | formula items _ => tagged "Expression" (inspectFormula (inspectAll items))

/-- The parts of several items. -/
def inspectAll : List Item → List (List Char)
  | [] => []
  | i :: is => i.inspect :: inspectAll is

end

end Item

/-- The parts of a value. -/
def FactValue.inspect : FactValue → List Char
  | literal v => v.inspect
  | reference r => tagged "Reference" r.inspect
  | formula f => tagged "Expression" (inspectFormula (Item.inspectAll f.items))

/-- The parts of a triplet. -/
def Triplet.inspect (t : Triplet) : List Char := t.inspectWith (t.value.map FactValue.inspect)

end TripletFacts
