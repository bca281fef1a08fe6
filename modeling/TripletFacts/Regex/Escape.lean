import TripletFacts.Number.Hexadecimal
import TripletFacts.Regex.Flags
import TripletFacts.Regex.Look
import TripletFacts.Unicode.Name

/-!
# Escapes of regular expressions

A backslash introduces a character by its code point, a set of characters, a test of the characters
around a position, or a sign that stands for itself. The letters and digits without a meaning are
refused.

## Main definitions

* `Regex.Primitive`: a character, a set of characters, or a test.
* `Regex.readEscape`: what a backslash introduces.
-/

namespace TripletFacts.Regex

/-- A character, a set of characters, or a test of the characters around a position. -/
inductive Primitive where
  | literal (c : Char)
  | set (s : CharSet)
  | look (test : Option Char → Option Char → Bool)

/-! ### Sets with a letter -/

/-- The word characters. -/
def wordSet : CharSet :=
  ((CharSet.ofRanges Unicode.alphabeticRanges).union (.ofRanges Unicode.plainWordRanges)).diff
    (.ofRanges Unicode.recentRanges)

/-- The letters of ASCII in capitals, and in small letters. -/
def asciiLetters : CharSet := (CharSet.range 'A' 'Z').union (.range 'a' 'z')

/-- The letters and digits of ASCII. -/
def asciiAlphanumeric : CharSet := asciiLetters.union (.range '0' '9')

/-- The blanks of ASCII. -/
def asciiBlanks : CharSet := (CharSet.range '\t' '\r').union (.single ' ')

/-- The set of a letter after a backslash, if it has one; capital letters stand for the other
characters, which are not only ASCII. -/
def letterSet? (f : Flags) (c : Char) : Option CharSet :=
  let digits := if f.ascii then .range '0' '9' else .ofRanges Unicode.decimalDigitRanges
  let blanks := if f.ascii then asciiBlanks else .ofRanges Unicode.blankRanges
  let words := if f.ascii then asciiAlphanumeric.union (.single '_') else wordSet
  match c with
  | 'd' => some digits
  | 's' => some blanks
  | 'w' => some words
  | 'D' => if f.ascii then none else some digits.compl
  | 'S' => if f.ascii then none else some blanks.compl
  | 'W' => if f.ascii then none else some words.compl
  | _ => none

/-- Whether a letter stands for a set of characters. -/
def isSetLetter (c : Char) : Bool := c ∈ ['d', 's', 'w', 'D', 'S', 'W']

/-! ### Code points -/

/-- Hexadecimal digits, a number of them. -/
def readHexDigits (f : Flags) : Nat → List Char → Option (List Char × List Char)
  | 0, cs => some ([], cs)
  | n + 1, cs =>
    match f.skip cs with
    | [] => none
    | c :: rest => (readHexDigits f n rest).map fun (digits, rest) => (c :: digits, rest)

/-- The characters up to a closing brace. The number bounds the characters. -/
def readBraced (f : Flags) : Nat → List Char → Option (List Char × List Char)
  | 0, _ => none
  | n + 1, cs =>
    match f.skip cs with
    | [] => none
    | '\x7d' :: rest => some ([], rest)
    | c :: rest => (readBraced f n rest).map fun (inside, rest) => (c :: inside, rest)

/-- A code point in braces, or with a fixed number of hexadecimal digits. Two digits stand for a
byte, which has to be ASCII where classes are restricted to it. -/
def readCodePoint (f : Flags) (digits : Nat) (cs : List Char) : Option (Char × List Char) :=
  match f.skip cs with
  | '\x7b' :: rest =>
    (readBraced f (rest.length + 1) rest).bind fun (inside, rest) =>
      (hexChar? inside).map (·, rest)
  | cs =>
    (readHexDigits f digits cs).bind fun (inside, rest) =>
      match hexChar? inside with
      | some c => if f.ascii && digits == 2 && 0x80 ≤ c.toNat then none else some (c, rest)
      | none => none

/-! ### Named sets -/

/-- A text around the first occurrence of another one. -/
def splitAt? (separator : List Char) : List Char → Option (List Char × List Char)
  | [] => none
  | c :: cs =>
    if separator.isPrefixOf (c :: cs) then some ([], (c :: cs).drop separator.length)
    else (splitAt? separator cs).map fun (before, after) => (c :: before, after)

/-- The set that a name in braces stands for: a name alone, or a kind and a value with one of three
signs between them. -/
def bracedSet? (name : List Char) : Option CharSet :=
  let split := (splitAt? ['!', '='] name).or ((splitAt? [':'] name).or (splitAt? ['='] name))
  match split with
  | some (kind, value) => Unicode.valuedSet? (Unicode.plainName kind) (Unicode.plainName value)
  | none => Unicode.namedSet? (Unicode.plainName name)

/-- A set with a name: one letter, or a text in braces. -/
def readNamedSet (f : Flags) (negated : Bool) (cs : List Char) : Option (CharSet × List Char) :=
  let sign (s : CharSet) : CharSet := if negated then (f.close s).compl else f.close s
  if f.ascii then none
  else
    match f.skip cs with
    | [] => none
    | '\x7b' :: rest =>
      (readBraced f (rest.length + 1) rest).bind fun (name, rest) =>
        (bracedSet? name).map (sign ·, rest)
    | c :: rest => (Unicode.namedSet? (Unicode.plainName [c])).map (sign ·, rest)

/-! ### Word boundaries -/

/-- Letters and hyphens, with what follows them. The number bounds the characters. -/
def readBoundaryName (f : Flags) : Nat → List Char → List Char × List Char
  | 0, cs => ([], cs)
  | n + 1, cs =>
    match f.skip cs with
    | c :: rest =>
      if c.isAlpha || c == '-' then
        let (name, rest) := readBoundaryName f n rest
        (c :: name, rest)
      else ([], c :: rest)
    | [] => ([], [])

/-- A position where a word begins or ends, perhaps of a special kind named in braces; braces that
do not begin with a letter or a hyphen are left to a repetition. -/
def readBoundary (f : Flags) (cs : List Char) : Option (Primitive × List Char) :=
  match cs with
  | '\x7b' :: rest =>
    match readBoundaryName f (rest.length + 1) rest with
    | ([], _) => some (.look (wordBoundary f.ascii), cs)
    | (name, '\x7d' :: rest) =>
      match String.ofList name with
      | "start" => some (.look (wordStart f.ascii), rest)
      | "end" => some (.look (wordEnd f.ascii), rest)
      | "start-half" => some (.look (wordStartHalf f.ascii), rest)
      | "end-half" => some (.look (wordEndHalf f.ascii), rest)
      | _ => none
    | _ => none
  | _ => some (.look (wordBoundary f.ascii), cs)

/-! ### Escapes -/

/-- What a letter after a backslash introduces, if it is neither a code point nor a set. -/
def readLetter (f : Flags) (c : Char) (cs : List Char) : Option (Primitive × List Char) :=
  match c with
  | 'a' => some (.literal '\x07', cs)
  | 'f' => some (.literal '\x0c', cs)
  | 't' => some (.literal '\t', cs)
  | 'n' => some (.literal '\n', cs)
  | 'r' => some (.literal '\r', cs)
  | 'v' => some (.literal '\x0b', cs)
  | 'A' => some (.look textStart, cs)
  | 'z' => some (.look textEnd, cs)
  | 'b' => readBoundary f cs
  | 'B' => some (.look (noWordBoundary f.ascii), cs)
  | '<' => some (.look (wordStart f.ascii), cs)
  | '>' => some (.look (wordEnd f.ascii), cs)
  | c => if c.toNat < 0x80 && !c.isAlphanum then some (.literal c, cs) else none

/-- What a backslash introduces. -/
def readEscape (f : Flags) : List Char → Option (Primitive × List Char)
  | [] => none
  | c :: cs =>
    let character (r : Option (Char × List Char)) : Option (Primitive × List Char) :=
      r.map fun (c, rest) => (.literal c, rest)
    let named (r : Option (CharSet × List Char)) : Option (Primitive × List Char) :=
      r.map fun (s, rest) => (.set s, rest)
    match c with
    | 'x' => character (readCodePoint f 2 cs)
    | 'u' => character (readCodePoint f 4 cs)
    | 'U' => character (readCodePoint f 8 cs)
    | 'p' => named (readNamedSet f false cs)
    | 'P' => named (readNamedSet f true cs)
    | c =>
      if isSetLetter c then (letterSet? f c).map fun s => (.set s, cs)
      else readLetter f c cs

end TripletFacts.Regex
