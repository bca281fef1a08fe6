/-!
# Settings of the notation

A fact is written as a triplet `$PREFIX.NAME=VALUE"COMMENT";`. The marks and separators of the
notation and the rules that its fields obey are settings: a field has a least and a greatest
length, perhaps a pattern, and the kinds of values that it accepts.

## Main definitions

* `Kind`, `Field`: kinds of values and fields of a triplet.
* `FieldRules`, `Settings`: the rules of a field, and all settings.
* `Settings.standard`: the settings that apply where nothing else is said.
-/

namespace TripletFacts

/-- Kinds of values. -/
inductive Kind where
  | str | int | float | bool | triplet | expression
deriving DecidableEq

/-- The name of a kind. -/
def Kind.name : Kind → String
  | str => "str"
  | int => "int"
  | float => "float"
  | bool => "bool"
  | triplet => "triplet"
  | expression => "expression"

/-- All kinds. -/
def Kind.all : List Kind := [.str, .int, .float, .bool, .triplet, .expression]

/-- The kind with a given name. -/
def Kind.ofName? (name : String) : Option Kind := Kind.all.find? (·.name == name)

/-- The kind of a name is the kind that has it. -/
theorem Kind.ofName?_name (k : Kind) : Kind.ofName? k.name = some k := by
  cases k <;> decide

/-- Fields of a triplet. -/
inductive Field where
  | pfx | name | value | comment
deriving DecidableEq

/-- The name of a field in messages. -/
def Field.label : Field → String
  | pfx => "prefix"
  | name => "name"
  | value => "value"
  | comment => "comment"

/-- The rules of a field. -/
structure FieldRules where
  /-- The least length of a text, in characters. -/
  min : UInt64
  /-- The greatest length of a text, in characters. -/
  max : UInt64
  /-- The pattern that a text has to match. -/
  pattern : Option String
  /-- The kinds that are accepted. -/
  kinds : List Kind
deriving DecidableEq

/-- Whether a kind is accepted. -/
def FieldRules.accepts (r : FieldRules) (k : Kind) : Bool := r.kinds.contains k

/-- The marks, separators and rules of the notation. -/
structure Settings where
  /-- The mark of a request. -/
  bidMark : String
  /-- The mark at the beginning of a triplet. -/
  startMark : String
  /-- The separator between prefix and name. -/
  nameSeparator : String
  /-- The separator between name and value. -/
  valueSeparator : String
  /-- The mark at the end of a triplet. -/
  endMark : String
  /-- The quote around texts. -/
  valueQuote : String
  /-- The quote around comments. -/
  commentQuote : String
  /-- The separator between triplets. -/
  tripletSeparator : String
  /-- The separator between the items of a formula. -/
  itemSeparator : String
  /-- The rules of prefixes. -/
  pfxRules : FieldRules
  /-- The rules of names. -/
  nameRules : FieldRules
  /-- The rules of values. -/
  valueRules : FieldRules
  /-- The rules of comments. -/
  commentRules : FieldRules
deriving DecidableEq

/-- The rules of a field. -/
def Settings.rules (s : Settings) : Field → FieldRules
  | .pfx => s.pfxRules
  | .name => s.nameRules
  | .value => s.valueRules
  | .comment => s.commentRules

/-- The settings that apply where nothing else is said. -/
def Settings.standard : Settings where
  bidMark := ":"
  startMark := "$"
  nameSeparator := "."
  valueSeparator := "="
  endMark := ";"
  valueQuote := "'"
  commentQuote := "\""
  tripletSeparator := " "
  itemSeparator := ""
  pfxRules := ⟨1, 25, some "[A-Z]+\\d*", [.str]⟩
  nameRules := ⟨1, 25, some "[A-Z]+", [.str]⟩
  valueRules := ⟨0, 256, none, [.str, .int, .float, .triplet, .expression]⟩
  commentRules := ⟨0, 256, none, [.str]⟩

end TripletFacts
