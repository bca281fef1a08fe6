import TripletFacts.Yaml.Token

/-!
# Cutting documents into tokens

A document is cut into tokens from left to right. Outside of flow collections, indentation opens
and closes block collections, and a scalar turns out to be a key only when a colon follows it: the
tokens that a key needs are then put before it. A key stays on one line and within 1024 characters.

## Main definitions

* `Yaml.Lexer`: the state of the cutting.
* `Yaml.Lexer.step`: the next token, with the tokens that indentation and keys bring along.
* `Yaml.tokens?`: the tokens of a text, the last one of which says that the text ends.
-/

namespace TripletFacts.Yaml

/-! ### The state -/

/-- A place at which a key may have begun; a required one must turn out to be a key. -/
structure KeyMark where
  required : Bool
  /-- The number of tokens before the key. -/
  position : Nat
  index : Nat
  line : Nat
  column : Nat

/-- Whether a place is too far away for a key that began at a mark. -/
def KeyMark.isStale (k : KeyMark) (p : Place) : Bool :=
  decide (k.line < p.line ∨ k.index + 1024 < p.index)

/-- A mark that stays only if its key is not stale; a required key must not be stale. -/
def KeyMark.refresh (p : Place) : Option KeyMark → Option (Option KeyMark)
  | none => some none
  | some k => if k.isStale p then (if k.required then none else some none) else some (some k)

/-- The state of the cutting: the place, the tokens so far, the indentation of the collection and
of those around it (-1 outside of all), whether a key may begin, and where one may have begun, at
the present level of flow collections and at those around it. -/
structure Lexer where
  place : Place
  tokens : Array Token
  indent : Int
  indents : List Int
  keyAllowed : Bool
  key : Option KeyMark
  outerKeys : List (Option KeyMark)

namespace Lexer

/-- The state at the beginning of a text. -/
def start (text : List Char) : Lexer := ⟨.start text, #[], -1, [], true, none, []⟩

/-- Whether the place is inside of a flow collection. -/
def inFlow (s : Lexer) : Bool := !s.outerKeys.isEmpty

/-- The column of the place. -/
def column (s : Lexer) : Int := s.place.column

/-- One more token. -/
def push (s : Lexer) (t : Token) : Lexer := { s with tokens := s.tokens.push t }

/-- A token in front of those from a given number on. -/
def insert (s : Lexer) (position : Nat) (t : Token) : Lexer :=
  { s with tokens :=
      (s.tokens.extract 0 position).push t ++ s.tokens.extract position s.tokens.size }

/-- One more token that takes a number of characters. -/
def take (s : Lexer) (n : Nat) (t : Token) : Lexer :=
  { s with tokens := s.tokens.push t, place := s.place.skip n }

/-- The state with keys allowed or not. -/
def allowKey (s : Lexer) (allowed : Bool) : Lexer := { s with keyAllowed := allowed }

/-! ### Keys and indentation -/

/-- Gives up the mark of a key; a required key cannot be given up. -/
def dropKey (s : Lexer) : Option Lexer :=
  if s.key.any (·.required) then none else some { s with key := none }

/-- Marks the place as one where a key may begin. A key is required at the indentation of a block
collection. -/
def markKey (s : Lexer) : Option Lexer :=
  if s.keyAllowed then
    s.dropKey.map fun s => { s with key := some {
      required := !s.inFlow && s.indent == s.column
      position := s.tokens.size
      index := s.place.index
      line := s.place.line
      column := s.place.column } }
  else some s

/-- Opens a block collection at a column that is further in, with its token at a given number. -/
def openBlock (s : Lexer) (column : Int) (position : Nat) (t : Token) : Lexer :=
  if !s.inFlow && s.indent < column then
    { s.insert position t with indent := column, indents := s.indent :: s.indents }
  else s

/-- The number of collections that a column closes, and the indentations that remain. -/
def outward (column : Int) (indent : Int) : List Int → Nat × Int × List Int
  | [] => (0, indent, [])
  | i :: is =>
    if column < indent then
      let (n, remaining) := outward column i is
      (n + 1, remaining)
    else (0, indent, i :: is)

/-- Closes the block collections that are further in than a column. -/
def closeBlocks (s : Lexer) (column : Int) : Lexer :=
  if s.inFlow then s
  else
    let (n, indent, indents) := outward column s.indent s.indents
    { s with
      tokens := s.tokens ++ Array.replicate n .blockEnd, indent := indent, indents := indents }

/-! ### Between tokens -/

/-- The place of the next token after blanks, comments and line ends, and whether a key may begin
there. A byte order mark at the beginning counts as a blank, a tab does only where no key may
begin. The number bounds the lines. -/
def skipGap (flow : Bool) : Nat → Bool → Place → Bool × Place
  | 0, allowed, p => (allowed, p)
  | n + 1, allowed, p =>
    let p := if p.index == 0 && p.next? == some '\ufeff' then p.skip 1 else p
    let p := p.skipWhile fun c => c == ' ' || (c == '\t' && (flow || !allowed))
    let p := if p.next? == some '#' then p.skipWhile (!isBreak ·) else p
    if p.next?.any isBreak then skipGap flow n (allowed || !flow) p.skipBreak else (allowed, p)

/-- The state at the next token, with the collections closed that end before it. -/
def advance (s : Lexer) : Option Lexer := do
  let (allowed, place) := skipGap s.inFlow (s.place.rest.length + 1) s.keyAllowed s.place
  let key ← KeyMark.refresh place s.key
  let outerKeys ← s.outerKeys.mapM (KeyMark.refresh place)
  let s := { s with place := place, keyAllowed := allowed, key := key, outerKeys := outerKeys }
  return s.closeBlocks s.column

/-! ### Tokens -/

/-- The tokens of a document as a whole stand outside of all collections. -/
def toTop (s : Lexer) : Option Lexer := ((s.closeBlocks (-1)).allowKey false).dropKey

/-- The end of the text. -/
def atEnd (s : Lexer) : Option Lexer := s.toTop.map (·.push .streamEnd)

/-- A directive. -/
def directive (s : Lexer) : Option Lexer := do
  let s ← s.toTop
  let (token, rest) ← readDirective (s.place.rest.drop 1)
  return { s.push token with place := s.place.moveTo rest }

/-- A mark of a document. -/
def documentMark (s : Lexer) (t : Token) : Option Lexer := s.toTop.map (·.take 3 t)

/-- The beginning of a flow collection, which may be a key. -/
def openFlow (s : Lexer) (t : Token) : Option Lexer :=
  s.markKey.map fun s =>
    { (s.take 1 t).allowKey true with key := none, outerKeys := s.key :: s.outerKeys }

/-- The end of a flow collection. -/
def closeFlow (s : Lexer) (t : Token) : Option Lexer :=
  s.dropKey.map fun s =>
    let s := (s.take 1 t).allowKey false
    match s.outerKeys with
    | [] => s
    | key :: outer => { s with key := key, outerKeys := outer }

/-- The comma of a flow collection. -/
def flowEntry (s : Lexer) : Option Lexer :=
  (s.allowKey true).dropKey.map (·.take 1 .flowEntry)

/-- The hyphen of a block sequence. -/
def blockEntry (s : Lexer) : Option Lexer :=
  if s.inFlow || s.keyAllowed then
    ((s.openBlock s.column s.tokens.size .blockSequence).allowKey true).dropKey.map
      (·.take 1 .blockEntry)
  else none

/-- The question mark of a key. -/
def explicitKey (s : Lexer) : Option Lexer :=
  if s.inFlow || s.keyAllowed then
    ((s.openBlock s.column s.tokens.size .blockMapping).allowKey !s.inFlow).dropKey.map
      (·.take 1 .key)
  else none

/-- The colon of a value. If a key may have begun, it did. -/
def mappingValue (s : Lexer) : Option Lexer :=
  match s.key with
  | some k =>
    let s := (s.insert k.position .key).openBlock k.column k.position .blockMapping
    some (({ s with key := none }.allowKey false).take 1 .value)
  | none =>
    if s.inFlow || s.keyAllowed then
      some (((s.openBlock s.column s.tokens.size .blockMapping).allowKey !s.inFlow).take 1 .value)
    else none

/-- An anchor, an alias or a tag, which may begin a key. -/
def property (s : Lexer) (read : List Char → Option (Token × List Char)) : Option Lexer := do
  let s ← s.markKey
  let (token, rest) ← read s.place.rest
  return { s.push token with place := s.place.moveTo rest, keyAllowed := false }

/-- A scalar in quotes, which may be a key. -/
def quotedScalar (s : Lexer) (double : Bool) : Option Lexer := do
  let s ← s.markKey
  let (text, place) ← readQuoted double (s.place.rest.length + 1) (s.place.skip 1)
  return { s.push (.scalar (if double then .double else .single) text) with
    place := place, keyAllowed := false }

/-- A plain scalar, which may be a key; where it ends with its line, a new key may begin. -/
def plainScalar (s : Lexer) : Option Lexer := do
  let s ← s.markKey
  let (text, broken, place) ←
    readPlain s.inFlow (s.indent + 1).toNat (s.place.rest.length + 1) [] s.place
  return { s.push (.scalar .plain text) with place := place, keyAllowed := broken }

/-- A block scalar, which is no key. -/
def blockScalar (s : Lexer) (folded : Bool) : Option Lexer := do
  let s ← s.dropKey
  let parent := if 0 ≤ s.indent then some s.indent.toNat else none
  let (text, place) ← readBlock folded parent (s.place.skip 1)
  return { s.push (.scalar (if folded then .folded else .literal) text) with
    place := place, keyAllowed := true }

/-- A tag with what has to follow it. -/
def readTagToken (flow : Bool) (cs : List Char) : Option (Token × List Char) :=
  (readTag cs).bind fun (token, rest) =>
    if gapNext rest || (flow && rest.head? == some ',') then some (token, rest) else none

/-- Characters that begin no plain scalar. -/
def indicators : List Char :=
  ['-', '?', ':', ',', '[', ']', '\x7b', '\x7d', '#', '&', '*', '!', '|', '>', '\'', '"', '%', '@',
    '\x60']

/-- A plain scalar where one may begin: a hyphen begins one before anything but a blank, a question
mark and a colon do outside of flow collections. -/
def plainOrNone (s : Lexer) (c : Char) (next : List Char) : Option Lexer :=
  if !indicators.contains c || (c == '-' && !next.head?.any isBlank) ||
      (!s.inFlow && (c == '?' || c == ':') && !gapNext next) then
    s.plainScalar
  else none

/-- The token at the place, which begins with a given character. -/
def tokenAt (s : Lexer) (c : Char) (next : List Char) : Option Lexer :=
  let marksPart := s.inFlow || gapNext next
  if c == '%' && s.place.column == 0 then s.directive
  else if s.place.atDocumentMark then
    s.documentMark (if c == '-' then .documentStart else .documentEnd)
  else if c == '[' then s.openFlow .flowSequence
  else if c == '\x7b' then s.openFlow .flowMapping
  else if c == ']' then s.closeFlow .flowSequenceEnd
  else if c == '\x7d' then s.closeFlow .flowMappingEnd
  else if c == ',' then s.flowEntry
  else if c == '-' && gapNext next then s.blockEntry
  else if c == '?' && marksPart then s.explicitKey
  else if c == ':' && marksPart then s.mappingValue
  else if c == '*' then
    s.property fun cs => (readAnchor (cs.drop 1)).map fun (name, rest) => (.alias name, rest)
  else if c == '&' then
    s.property fun cs => (readAnchor (cs.drop 1)).map fun (name, rest) => (.anchor name, rest)
  else if c == '!' then s.property (readTagToken s.inFlow)
  else if c == '|' && !s.inFlow then s.blockScalar false
  else if c == '>' && !s.inFlow then s.blockScalar true
  else if c == '\'' then s.quotedScalar false
  else if c == '"' then s.quotedScalar true
  else s.plainOrNone c next

/-- The state after the next token; nothing is left to do after the end of the text. -/
def step (s : Lexer) : Option Lexer := do
  let s ← s.advance
  match s.place.rest with
  | [] => s.atEnd
  | c :: next => s.tokenAt c next

/-- All tokens from a state on. The number bounds the tokens. -/
def run : Nat → Lexer → Option (Array Token)
  | 0, _ => none
  | n + 1, s =>
    match s.step with
    | none => none
    | some s => if s.tokens.back? = some .streamEnd then some s.tokens else run n s

end Lexer

/-- The tokens of a text. -/
def tokens? (text : List Char) : Option (List Token) :=
  if text.all isAllowed then
    ((Lexer.start text).run (text.length + 2)).map Array.toList
  else none

end TripletFacts.Yaml
