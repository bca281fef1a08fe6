import TripletFacts.Error
import TripletFacts.Settings.Record
import TripletFacts.Yaml.Node
import TripletFacts.Yaml.Printer

/-!
# Settings as documents

All settings are written as a document with a key for each of them. In a document that is read,
keys that are missing keep their standard values and keys without a meaning are passed over; the
rules of a field have to be complete, except for their pattern.

## Main definitions

* `Settings.document`: settings as a document.
* `Settings.ofDocument`: settings from a document.
-/

namespace TripletFacts

/-! ### Reading -/

namespace Yaml.Node

/-- The text of a scalar, whatever it stands for. -/
def text? : Node → Option String
  | scalar _ _ s => some s
  | _ => none

/-- A plain scalar without text stands for an empty collection. -/
def isBlank : Node → Bool
  | scalar _ .plain s => s == ""
  | _ => false

/-- The entries of a mapping with their keys as texts. -/
def fields? : Node → Option (List (String × Node))
  | mapping entries => entries.mapM fun (k, v) => k.text?.map fun k => (k, v)
  | node => if node.isBlank then some [] else none

/-- The values of a key. -/
def valuesOf (key : String) (fields : List (String × Node)) : List Node :=
  fields.filterMap fun (k, v) => if k = key then some v else none

/-- The items of a sequence. -/
def items? : Node → Option (List Node)
  | sequence items => some items
  | node => if node.isBlank then some [] else none

/-- A size, which is written plain, or as a block that is tagged as an integer. -/
def size? : Node → Option UInt64
  | scalar tag style s =>
    if style = .plain ∨ (style = .literal ∧ tag = some "tag:yaml.org,2002:int") then
      (readNat? UInt64.size s.toList).map UInt64.ofNat
    else none
  | _ => none

/-- A text, or nothing. -/
def textOrNull? : Node → Option (Option String)
  | scalar tag .plain s =>
    match tag with
    | none => some (if s = "" ∨ isNull s.toList then none else some s)
    | some tag =>
      if tag ≠ "tag:yaml.org,2002:null" then some (some s)
      else if isNull s.toList then some none
      else none
  | scalar _ _ s => some (some s)
  | _ => none

/-- A kind: its name, or nothing with the name as its tag. -/
def kind? : Node → Option Kind
  | scalar (some tag) style s =>
    match tag.toList with
    | '!' :: c :: name =>
      if style = .plain ∧ (s = "" ∨ isNull s.toList) then Kind.ofName? (String.ofList (c :: name))
      else none
    | _ => Kind.ofName? s
  | scalar none _ s => Kind.ofName? s
  | _ => none

/-- The rules of a field. -/
def rules? (node : Node) : Option FieldRules := do
  let fields ← node.fields?
  let one (key : String) : Option Node := match valuesOf key fields with
    | [v] => some v
    | _ => none
  let min ← (← one "min").size?
  let max ← (← one "max").size?
  let pattern ← match valuesOf "pattern" fields with
    | [] => some none
    | [v] => v.textOrNull?
    | _ => none
  let kinds ← (← (← one "types").items?).mapM kind?
  return ⟨min, max, pattern, kinds⟩

/-- Settings. -/
def settings? (node : Node) : Option Settings := do
  let fields ← node.fields?
  let mark (key standard : String) : Option String := match valuesOf key fields with
    | [] => some standard
    | [v] => v.text?
    | _ => none
  let rules (key : String) (standard : FieldRules) : Option FieldRules :=
    match valuesOf key fields with
    | [] => some standard
    | [v] => v.rules?
    | _ => none
  let s := Settings.standard
  return {
    bidMark := ← mark "bid" s.bidMark
    startMark := ← mark "start" s.startMark
    nameSeparator := ← mark "prefix_name_separator" s.nameSeparator
    valueSeparator := ← mark "name_value_separator" s.valueSeparator
    endMark := ← mark "end" s.endMark
    valueQuote := ← mark "value_quote" s.valueQuote
    commentQuote := ← mark "comment_quote" s.commentQuote
    tripletSeparator := ← mark "triplets_separator" s.tripletSeparator
    itemSeparator := ← mark "expression_items_separator" s.itemSeparator
    pfxRules := ← rules "prefix" s.pfxRules
    nameRules := ← rules "name" s.nameRules
    valueRules := ← rules "value" s.valueRules
    commentRules := ← rules "comment" s.commentRules }

end Yaml.Node

/-- Settings from a document. -/
def Settings.ofDocument (text : List Char) : Except FactError Settings :=
  match (Yaml.Node.ofText? text).bind Yaml.Node.settings? with
  | some s => .ok s
  | none => .error .badDocument

/-! ### Writing -/

/-- A line with a key and its value. -/
def documentLine (indent : Nat) (key : String) (value : List Char) : List Char :=
  Yaml.spaces indent ++ key.toList ++ ':' :: ' ' :: value

/-- The lines of a list of kinds. -/
def kindLines (kinds : List Kind) : List Char :=
  if kinds.isEmpty then "  types: []\n".toList
  else "  types:\n".toList ++ kinds.flatMap fun k => "  - ".toList ++ Yaml.writeValue 4 k.name

/-- The lines of the rules of a field. -/
def FieldRules.lines (key : String) (r : FieldRules) : List Char :=
  key.toList ++ [':', '\n'] ++
    documentLine 2 "min" (Nat.toDigits 10 r.min.toNat ++ ['\n']) ++
    documentLine 2 "max" (Nat.toDigits 10 r.max.toNat ++ ['\n']) ++
    documentLine 2 "pattern" (match r.pattern with
      | some p => Yaml.writeValue 4 p
      | none => "null\n".toList) ++
    kindLines r.kinds

/-- Settings as a document. -/
def Settings.document (s : Settings) : List Char :=
  let mark (key value : String) : List Char := documentLine 0 key (Yaml.writeValue 2 value)
  mark "bid" s.bidMark ++
    mark "start" s.startMark ++
    mark "prefix_name_separator" s.nameSeparator ++
    mark "name_value_separator" s.valueSeparator ++
    mark "end" s.endMark ++
    mark "value_quote" s.valueQuote ++
    mark "comment_quote" s.commentQuote ++
    mark "triplets_separator" s.tripletSeparator ++
    mark "expression_items_separator" s.itemSeparator ++
    s.pfxRules.lines "prefix" ++
    s.nameRules.lines "name" ++
    s.valueRules.lines "value" ++
    s.commentRules.lines "comment"

end TripletFacts
