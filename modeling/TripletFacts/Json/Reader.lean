import TripletFacts.Json.Basic
import TripletFacts.Number.Hexadecimal
import TripletFacts.Number.Reading

/-!
# Reading JSON text

Texts are read with a bound on the nesting of arrays and objects. A number without fraction and
exponent is an integer as long as it has 64 bits, signed or unsigned. Any other number is read
from as many leading digits as fit into 64 bits, scaled by a power of ten; the scaling rounds, so
that a number with many digits need not come out as the nearest float.

## Main definitions

* `Json.scaled?`: a float scaled by a power of ten.
* `Json.readNumber`, `Json.readString`: numbers and strings.
* `Json.parse?`: the value that a text denotes.
-/

namespace TripletFacts.Json

/-- Blanks between the parts of a text. -/
def isBlank (c : Char) : Bool := c == ' ' || c == '\n' || c == '\t' || c == '\r'

/-- A text without the blanks at its beginning. -/
def skipBlanks (cs : List Char) : List Char := cs.dropWhile isBlank

/-! ### Numbers -/

/-- The float nearest to a power of ten. -/
def power (n : Nat) : Float := Decimal.toFloat false ⟨1, n⟩

/-- `x · 10 ^ e`, at most 308 decimal places at a time, if it is finite. -/
def scaled? (x : Float) (e : Int) : Option Float :=
  if e.natAbs ≤ 308 then
    if 0 ≤ e then
      let y := x * power e.natAbs
      if y.isInf then none else some y
    else some (x / power e.natAbs)
  else if x == 0 then some x
  else if 0 ≤ e then none
  else scaled? (x / power 308) (e + 308)
termination_by (-e).toNat

/-- The number that a digit extends `n` to, as long as it has 64 bits; the digits that are left
out. -/
def takeDigits (n : Nat) : List Char → Nat × List Char
  | [] => (n, [])
  | d :: ds =>
    let n' := 10 * n + digitsValue [d]
    if n' < UInt64.size then takeDigits n' ds else (n, d :: ds)

/-- The fraction of a number: no point, or a point and at least one digit; the digits, if there
are any, and the rest. -/
def readFraction : List Char → Option (Option (List Char) × List Char)
  | '.' :: cs =>
    match cs.takeWhile isDigit with
    | [] => none
    | ds => some (some ds, cs.dropWhile isDigit)
  | cs => some (none, cs)

/-- The exponent of a number: none, or `e`, perhaps a sign, and at least one digit. -/
def readExponent : List Char → Option (Option Int × List Char)
  | [] => some (none, [])
  | c :: cs =>
    if c == 'e' || c == 'E' then
      let (negative, body) := splitSign cs
      match body.takeWhile isDigit with
      | [] => none
      | ds => some (some (signed negative (digitsValue ds)), body.dropWhile isDigit)
    else some (none, c :: cs)

/-- The number with the given parts: an integer if it has no fraction and no exponent and fits,
and otherwise a float; the integer zero with a minus sign is the negative float. -/
def assemble (negative : Bool) (whole : List Char) (fraction : Option (List Char))
    (exponent : Option Int) : Option Json :=
  let (n, left) := takeDigits 0 whole
  if left.isEmpty && fraction.isNone && exponent.isNone then
    if !negative then some (.int n)
    else if n ≠ 0 ∧ n ≤ Int64.minValue.toInt.natAbs then some (.int (-(n : Int)))
    else some (.float (-Binary64.ofInt n))
  else
    let digits := fraction.getD []
    let (m, unused) := takeDigits n digits
    let e : Int := (left.length : Int) - (digits.length - unused.length : Nat)
    (scaled? (Binary64.ofInt m) (e + exponent.getD 0)).map fun x =>
      .float (if negative then -x else x)

/-- A number at the beginning of a text, and the rest. A zero is followed by no other digit. -/
def readNumber (cs : List Char) : Option (Json × List Char) :=
  let (negative, body) := match cs with
    | '-' :: cs => (true, cs)
    | cs => (false, cs)
  match body.takeWhile isDigit with
  | [] => none
  | '0' :: _ :: _ => none
  | whole =>
    match readFraction (body.dropWhile isDigit) with
    | none => none
    | some (fraction, rest) =>
      match readExponent rest with
      | none => none
      | some (exponent, rest) => (assemble negative whole fraction exponent).map (·, rest)

/-! ### Strings -/

/-- Four hexadecimal digits as a number, and the rest. -/
def readHex4 (cs : List Char) : Option (Nat × List Char) :=
  if cs.length < 4 then none else (hexValue? (cs.take 4)).map (·, cs.drop 4)

/-- The character of an escape with four hexadecimal digits; characters beyond the first plane
take two of them. -/
def readUnicodeEscape (cs : List Char) : Option (Char × List Char) :=
  match readHex4 cs with
  | none => none
  | some (n, rest) =>
    if 0xdc00 ≤ n ∧ n ≤ 0xdfff then none
    else if 0xd800 ≤ n ∧ n ≤ 0xdbff then
      match rest with
      | '\\' :: 'u' :: rest =>
        match readHex4 rest with
        | some (m, rest) =>
          if 0xdc00 ≤ m ∧ m ≤ 0xdfff then
            some (Char.ofNat (0x10000 + (n - 0xd800) * 0x400 + (m - 0xdc00)), rest)
          else none
        | none => none
      | _ => none
    else some (Char.ofNat n, rest)

/-- The character of an escape with one letter. -/
def shortEscape? : Char → Option Char
  | '"' => some '"'
  | '\\' => some '\\'
  | '/' => some '/'
  | 'b' => some '\x08'
  | 'f' => some '\x0c'
  | 'n' => some '\n'
  | 'r' => some '\r'
  | 't' => some '\t'
  | _ => none

/-- The content of a string up to its closing quote, and the rest. The number bounds the
characters that are read. -/
def readString : Nat → List Char → Option (List Char × List Char)
  | 0, _ => none
  | _ + 1, [] => none
  | _ + 1, '"' :: rest => some ([], rest)
  | n + 1, '\\' :: 'u' :: cs =>
    match readUnicodeEscape cs with
    | none => none
    | some (c, rest) => (readString n rest).map fun (s, rest) => (c :: s, rest)
  | n + 1, '\\' :: c :: cs =>
    match shortEscape? c with
    | none => none
    | some c => (readString n cs).map fun (s, rest) => (c :: s, rest)
  | n + 1, c :: cs =>
    if c.toNat < 0x20 ∨ c = '\\' then none
    else (readString n cs).map fun (s, rest) => (c :: s, rest)

/-- A quoted string at the beginning of a text, and the rest. -/
def readQuoted : List Char → Option (String × List Char)
  | '"' :: cs => (readString (cs.length + 1) cs).map fun (s, rest) => (String.ofList s, rest)
  | _ => none

/-! ### Values -/

/-- The rest of a text after a given beginning. -/
def after? : List Char → List Char → Option (List Char)
  | [], cs => some cs
  | p :: ps, c :: cs => if p = c then after? ps cs else none
  | _ :: _, [] => none

/-- Items separated by commas up to a closing mark. The number bounds the items. -/
def readItems {α : Type} (item : List Char → Option (α × List Char)) (close : Char) :
    Nat → List Char → Option (List α × List Char)
  | 0, _ => none
  | n + 1, cs =>
    match item (skipBlanks cs) with
    | none => none
    | some (a, rest) =>
      match skipBlanks rest with
      | c :: rest =>
        if c = close then some ([a], rest)
        else if c = ',' then (readItems item close n rest).map fun (as, rest) => (a :: as, rest)
        else none
      | [] => none

/-- Nothing or items up to a closing mark. -/
def readSequence {α : Type} (item : List Char → Option (α × List Char)) (close : Char)
    (cs : List Char) : Option (List α × List Char) :=
  match skipBlanks cs with
  | c :: rest => if c = close then some ([], rest) else readItems item close cs.length (c :: rest)
  | [] => none

/-- A field of an object. -/
def readField (value : List Char → Option (Json × List Char)) (cs : List Char) :
    Option ((String × Json) × List Char) :=
  match readQuoted cs with
  | none => none
  | some (key, rest) =>
    match skipBlanks rest with
    | ':' :: rest => (value rest).map fun (v, rest) => ((key, v), rest)
    | _ => none

/-- A value at the beginning of a text that nests at most `depth` arrays and objects, and the
rest. Of several fields with one name the last one counts. -/
def readValue (depth : Nat) (cs : List Char) : Option (Json × List Char) :=
  match skipBlanks cs with
  | [] => none
  | c :: rest =>
    if c = 'n' then (after? "ull".toList rest).map (.null, ·)
    else if c = 't' then (after? "rue".toList rest).map (.bool true, ·)
    else if c = 'f' then (after? "alse".toList rest).map (.bool false, ·)
    else if c = '"' then (readQuoted (c :: rest)).map fun (s, rest) => (.str s, rest)
    else if c = '-' || isDigit c then readNumber (c :: rest)
    else
      match depth with
      | 0 => none
      | depth + 1 =>
        if c = '[' then
          (readSequence (readValue depth) ']' rest).map fun (items, rest) => (.arr items, rest)
        else if c = '\x7b' then
          (readSequence (readField (readValue depth)) '\x7d' rest).map fun (fields, rest) =>
            (.obj (fields.foldl (fun fs f => setField f.1 f.2 fs) []), rest)
        else none

/-- The value that a whole text denotes, with at most `depth` arrays and objects nested. -/
def parse? (depth : Nat) (text : List Char) : Option Json :=
  match readValue depth text with
  | some (v, rest) => if rest.all isBlank then some v else none
  | none => none

/-- The greatest nesting of arrays and objects that is read. -/
def maxDepth : Nat := 127

end TripletFacts.Json
