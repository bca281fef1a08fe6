import TripletFacts.Error
import TripletFacts.Json.Basic

/-!
# Settings as JSON

All settings are written as an object, and settings are updated by an object that names some of
them: objects inside of it update objects, anything else replaces what was there. An update that
does not leave usable settings has no effect.

## Main definitions

* `Json.overlay`: a value updated by another one.
* `Settings.fields`, `Settings.ofJson?`: settings as the fields of an object, and back.
* `Settings.update`: settings updated by the fields of an object.

## Main results

* `Settings.ofJson?_fields`: settings are read back from their fields.
-/

namespace TripletFacts

/-! ### Updates of objects -/

namespace Json

mutual

/-- What becomes of a value, if there is one, under an update. -/
def overlay : Json → Option Json → Json
  | obj patch, some (obj fields) => obj (overlayFields patch fields)
  | new, _ => new

/-- The fields of an object under the fields of an update. -/
def overlayFields : List (String × Json) → List (String × Json) → List (String × Json)
  | [], fields => fields
  | (key, v) :: patch, fields =>
    overlayFields patch (setField key (v.overlay (fields.lookup key)) fields)

end

/-! ### Parts of a record -/

/-- A text. -/
def text? : Json → Option String
  | str s => some s
  | _ => none

/-- A size, which has 64 bits. -/
def size? : Json → Option UInt64
  | int (.ofNat n) => if n < UInt64.size then some (UInt64.ofNat n) else none
  | _ => none

/-- A text or `null`. -/
def textOrNull? : Json → Option (Option String)
  | str s => some (some s)
  | null => some none
  | _ => none

/-- The values of a list, each read in the same way. -/
def listOf? {α : Type} (read? : Json → Option α) : Json → Option (List α)
  | arr items => items.mapM read?
  | _ => none

end Json

/-- A kind: its name, or an object with that name and `null`. -/
def Kind.ofJson? : Json → Option Kind
  | .str name => Kind.ofName? name
  | .obj [(name, .null)] => Kind.ofName? name
  | _ => none

namespace FieldRules

/-- The rules of a field as an object. -/
def toJson (r : FieldRules) : Json :=
  .obj [
    ("min", .int r.min.toNat),
    ("max", .int r.max.toNat),
    ("pattern", match r.pattern with
      | some p => .str p
      | none => .null),
    ("types", .arr (r.kinds.map fun k => .str k.name))]

/-- The rules of a field from their four parts. -/
def ofParts? (min max pattern kinds : Json) : Option FieldRules := do
  let min ← min.size?
  let max ← max.size?
  let pattern ← pattern.textOrNull?
  let kinds ← kinds.listOf? Kind.ofJson?
  return ⟨min, max, pattern, kinds⟩

/-- The rules of a field from an object, or from a list of the four parts. -/
def ofJson? : Json → Option FieldRules
  | .arr [min, max, pattern, kinds] => ofParts? min max pattern kinds
  | .obj fields => do
    ofParts? (← fields.lookup "min") (← fields.lookup "max") (← fields.lookup "pattern")
      (← fields.lookup "types")
  | _ => none

end FieldRules

namespace Settings

/-- Settings as the fields of an object. -/
def fields (s : Settings) : Json.Fields := [
  ("bid", .str s.bidMark),
  ("start", .str s.startMark),
  ("prefix_name_separator", .str s.nameSeparator),
  ("name_value_separator", .str s.valueSeparator),
  ("end", .str s.endMark),
  ("value_quote", .str s.valueQuote),
  ("comment_quote", .str s.commentQuote),
  ("triplets_separator", .str s.tripletSeparator),
  ("expression_items_separator", .str s.itemSeparator),
  ("prefix", s.pfxRules.toJson),
  ("name", s.nameRules.toJson),
  ("value", s.valueRules.toJson),
  ("comment", s.commentRules.toJson)]

/-- Settings from the fields of an object. -/
def ofFields? (fields : Json.Fields) : Option Settings := do
  let mark (key : String) : Option String := (fields.lookup key).bind Json.text?
  let rules (key : String) : Option FieldRules := (fields.lookup key).bind FieldRules.ofJson?
  return {
    bidMark := ← mark "bid"
    startMark := ← mark "start"
    nameSeparator := ← mark "prefix_name_separator"
    valueSeparator := ← mark "name_value_separator"
    endMark := ← mark "end"
    valueQuote := ← mark "value_quote"
    commentQuote := ← mark "comment_quote"
    tripletSeparator := ← mark "triplets_separator"
    itemSeparator := ← mark "expression_items_separator"
    pfxRules := ← rules "prefix"
    nameRules := ← rules "name"
    valueRules := ← rules "value"
    commentRules := ← rules "comment" }

/-- Settings updated by the fields of an object. -/
def update (s : Settings) (patch : Json.Fields) : Except FactError Settings :=
  match ofFields? (Json.overlayFields patch s.fields) with
  | some s => .ok s
  | none => .error .badDocument

end Settings

/-! ### Reading back -/

theorem Json.size?_int (n : UInt64) : size? (.int n.toNat) = some n := by
  have h : n.toNat < UInt64.size := n.toNat_lt
  show (if n.toNat < UInt64.size then some (UInt64.ofNat n.toNat) else none) = some n
  rw [if_pos h, UInt64.ofNat_toNat]

theorem Kind.mapM_ofJson? :
    (ks : List Kind) → (ks.map fun k => Json.str k.name).mapM Kind.ofJson? = some ks
  | [] => rfl
  | k :: ks => by
    rw [List.map_cons, List.mapM_cons, mapM_ofJson? ks]
    simp [Kind.ofJson?, Kind.ofName?_name]

/-- The rules of a field are read back from their object. -/
theorem FieldRules.ofJson?_toJson (r : FieldRules) : ofJson? r.toJson = some r := by
  rcases r with ⟨min, max, pattern, kinds⟩
  have hk : Json.listOf? Kind.ofJson? (.arr (kinds.map fun k => Json.str k.name)) = some kinds :=
    Kind.mapM_ofJson? kinds
  have hp : Json.textOrNull? (match pattern with
      | some p => .str p
      | none => .null) = some pattern := by cases pattern <;> rfl
  simp [toJson, ofJson?, List.lookup_cons, ofParts?, Json.size?_int, hk, hp]

/-- Settings are read back from their fields. -/
theorem Settings.ofFields?_fields (s : Settings) : ofFields? s.fields = some s := by
  simp [ofFields?, fields, List.lookup_cons, Json.text?, FieldRules.ofJson?_toJson]

end TripletFacts
