import TripletFacts.Number.Reading
import TripletFacts.Yaml.Scalar

/-!
# Tokens of documents

The tokens that a document is cut into, and how those are read that have a name: anchors, aliases,
tags and directives.

## Main definitions

* `Yaml.Token`: tokens.
* `Yaml.readAnchor`, `Yaml.readTag`, `Yaml.readDirective`: names after their indicators.
-/

namespace TripletFacts.Yaml

/-- Tokens. -/
inductive Token where
  | version (major minor : Nat)
  | handle (name text : List Char)
  | documentStart
  | documentEnd
  | streamEnd
  | blockSequence
  | blockMapping
  | blockEnd
  | flowSequence
  | flowSequenceEnd
  | flowMapping
  | flowMappingEnd
  | blockEntry
  | flowEntry
  | key
  | value
  | alias (name : List Char)
  | anchor (name : List Char)
  | tag (handle suffix : List Char)
  | scalar (style : Style) (text : List Char)
deriving DecidableEq

/-! ### Names -/

/-- The characters of anchors, handles and directives. -/
def isNameChar (c : Char) : Bool := Char.isAlphanum c || c == '_' || c == '-'

/-- The name of an anchor or an alias after its indicator, and the rest. -/
def readAnchor (cs : List Char) : Option (List Char × List Char) :=
  let name := cs.takeWhile isNameChar
  let rest := cs.drop name.length
  if !name.isEmpty &&
      (gapNext rest || nextIn ['?', ':', ',', ']', '\x7d', '%', '@', '\x60'] rest) then
    some (name, rest)
  else none

/-- The text of a tag; flow marks belong to it only if `full`. A percent sign stands before two
hexadecimal digits. -/
def readTagText (full : Bool) : List Char → Option (List Char × List Char)
  | [] => some ([], [])
  | '%' :: a :: b :: cs =>
    if (hexValue? [a, b]).isSome then
      (readTagText full cs).map fun (text, rest) => ('%' :: a :: b :: text, rest)
    else none
  | c :: cs =>
    if isNameChar c || ";/?:@&=+$.!~*'()".toList.contains c ||
        (full && [',', '[', ']'].contains c) then
      (readTagText full cs).map fun (text, rest) => (c :: text, rest)
    else if c == '%' then none
    else some ([], c :: cs)

/-- The handle of a tag: an exclamation mark, perhaps a name, and perhaps another mark. -/
def readHandle : List Char → Option (List Char × List Char)
  | '!' :: cs =>
    let name := cs.takeWhile isNameChar
    match cs.drop name.length with
    | '!' :: rest => some ('!' :: (name ++ ['!']), rest)
    | rest => some ('!' :: name, rest)
  | _ => none

/-- A tag in angle brackets after the opening one. -/
def readVerbatim (cs : List Char) : Option (Token × List Char) :=
  match readTagText true cs with
  | some (c :: text, '>' :: rest) => some (.tag [] (c :: text), rest)
  | _ => none

/-- A tag: in angle brackets, with a handle that ends in an exclamation mark, or with the simple
handle; the simple handle alone has no meaning. -/
def readTag (cs : List Char) : Option (Token × List Char) :=
  match cs with
  | '!' :: '<' :: rest => readVerbatim rest
  | cs =>
    match readHandle cs with
    | none => none
    | some (handle, rest) =>
      if 2 ≤ handle.length ∧ handle.getLast? = some '!' then
        match readTagText false rest with
        | some (c :: suffix, rest) => some (.tag handle (c :: suffix), rest)
        | _ => none
      else
        (readTagText false rest).map fun (more, rest) =>
          match handle.drop 1 ++ more with
          | [] => (.tag [] ['!'], rest)
          | suffix => (.tag ['!'] suffix, rest)

/-! ### Directives -/

/-- A number of at most nine digits, and the rest. -/
def readVersionNumber (cs : List Char) : Option (Nat × List Char) :=
  let digits := cs.takeWhile isDigit
  if digits.isEmpty || 9 < digits.length then none
  else some (digitsValue digits, cs.drop digits.length)

/-- The version of the format after its directive. -/
def readVersion (cs : List Char) : Option (Token × List Char) :=
  match readVersionNumber (cs.dropWhile isBlank) with
  | some (major, '.' :: rest) =>
    (readVersionNumber rest).map fun (minor, rest) => (.version major minor, rest)
  | _ => none

/-- A handle and what it stands for after its directive. -/
def readTagDirective (cs : List Char) : Option (Token × List Char) :=
  match readHandle (cs.dropWhile isBlank) with
  | none => none
  | some (handle, rest) =>
    if handle.getLast? ≠ some '!' ∨ !(rest.head?.any isBlank) then none
    else
      match readTagText true (rest.dropWhile isBlank) with
      | some (c :: text, rest) =>
        if gapNext rest then some (.handle handle (c :: text), rest) else none
      | _ => none

/-- A directive after its indicator, up to the end of its line. -/
def readDirective (cs : List Char) : Option (Token × List Char) :=
  let name := cs.takeWhile isNameChar
  let rest := cs.drop name.length
  if !gapNext rest then none
  else
    let directive :=
      if name = "YAML".toList then readVersion rest
      else if name = "TAG".toList then readTagDirective rest
      else none
    match directive with
    | none => none
    | some (token, rest) =>
      let rest := rest.dropWhile isBlank
      let rest := if rest.head? = some '#' then rest.dropWhile (!isBreak ·) else rest
      if rest.head?.all isBreak then some (token, dropBreak rest) else none

end TripletFacts.Yaml
