import TripletFacts.Number.Layout
import TripletFacts.Settings.Basic

/-!
# Errors of facts

What can be wrong with settings, triplets and collections of facts, and the coarse classes that
the errors of the whole library fall into.

## Main definitions

* `Category`: the classes of errors.
* `FactError`: causes of errors about settings and facts, with `FactError.category` and
  `FactError.message`.
-/

namespace TripletFacts

/-- Classes of errors. -/
inductive Category where
  /-- A value of a kind that is not accepted in its place. -/
  | type
  /-- A text that does not have the form that it should have. -/
  | format
  /-- A text whose length is out of bounds. -/
  | length
  /-- Well-formed inputs that do not go together. -/
  | value
  /-- A look-up that found nothing. -/
  | notFound
  /-- A position outside of a collection. -/
  | index
  /-- Malformed expression text. -/
  | grammar
  /-- Settings that cannot be used. -/
  | settings
deriving DecidableEq

/-- Causes of errors about settings and facts. Texts that are quoted in a message are kept in the
form in which they are shown. -/
inductive FactError where
  | wrongKind (field : Field) (accepted : List Kind) (actual : Kind)
  | badFormat (field : Field) (text : String)
  | badLength (field : Field) (min max actual : Nat)
  | notFinite (field : Field) (x : Float)
  | valuedTarget (shown : String)
  | valuedItem (shown : String)
  | infiniteItem (x : Float)
  | notBid (shown : String)
  | noTriplet (pfx : String) (name : Option String)
  | noPrefixed (pfx : String)
  | notStored (shown : String)
  | badIndex (index : Int) (length : Nat)
  | badRange (start stop : Nat) (length : Nat)
  | badPattern (pattern : String)
  | badDocument
deriving DecidableEq

namespace FactError

/-- The class of an error. -/
def category : FactError → Category
  | wrongKind .. => .type
  | badFormat .. => .format
  | badLength .. => .length
  | notFinite .. | valuedTarget _ | valuedItem _ | infiniteItem _ | notBid _ => .value
  | noTriplet .. | noPrefixed _ | notStored _ => .notFound
  | badIndex .. | badRange .. => .index
  | badPattern _ | badDocument => .settings

private def invalid (what : String) : String := "Invalid value: " ++ what

private def missing (what : String) : String := "Not found: " ++ what

private def outOfRange (what : String) (length : Nat) : String :=
  "Index out of range: " ++ what ++ " (length " ++ toString length ++ ")"

/-- The message of an error. -/
def message : FactError → String
  | wrongKind field accepted actual =>
    "Type error: " ++ field.label ++ " must be one of [" ++
      ", ".intercalate (accepted.map Kind.name) ++ "], not " ++ actual.name
  | badFormat field text =>
    "Format error: " ++ field.label ++ " '" ++ text ++ "' has an invalid format"
  | badLength field min max actual =>
    "Length error: " ++ field.label ++ " length must be from " ++ toString min ++ " to " ++
      toString max ++ ", not " ++ toString actual
  | notFinite field x => invalid (field.label ++ " must be a finite number, not " ++ plainText x)
  | valuedTarget shown =>
    invalid ("only a reference triplet can be used as a value, not " ++ shown)
  | valuedItem shown => invalid ("expression items must be reference triplets, not " ++ shown)
  | infiniteItem x => invalid ("expression items must be finite numbers, not " ++ plainText x)
  | notBid shown => invalid (shown ++ " is not a bid")
  | noTriplet pfx name =>
    missing ("no triplet with prefix '" ++ pfx ++ "' and name '" ++ name.getD "" ++ "'")
  | noPrefixed pfx => missing ("no triplets with prefix '" ++ pfx ++ "'")
  | notStored shown => missing ("triplet " ++ shown ++ " not in triplet string")
  | badIndex index length => outOfRange (toString index) length
  | badRange start stop length => outOfRange (toString start ++ ".." ++ toString stop) length
  | badPattern pattern => "Settings error: invalid pattern '" ++ pattern ++ "'"
  | badDocument => "Settings error: unusable settings document"

end FactError

end TripletFacts
