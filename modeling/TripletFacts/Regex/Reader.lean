import TripletFacts.Number.Reading
import TripletFacts.Regex.Bracket
import TripletFacts.Regex.Room
import TripletFacts.Unicode.Numeric

/-!
# Reading regular expressions

The text of a regular expression has literals, `.`, anchors, character classes, groups, alternatives
and repetitions, escapes, and flags that change how the following text of the same group is read.
Text that is no regular expression is refused, and so is a regular expression that is nested too
deep or takes too much room.

## Main definitions

* `Regex.Tree.read?`: the tree of a text.
* `Regex.ofText?`: the expression that a text denotes.
-/

namespace TripletFacts.Regex

/-- The tree of a primitive. -/
def Primitive.tree (f : Flags) : Primitive → Tree
  | literal c => .set (f.literal c) 0
  | set s => .set s 0
  | look test => .look test

/-! ### Repetitions -/

/-- The bounds of a repetition. -/
structure Bounds where
  least : Nat
  most : Option Nat

/-- The greatest bound. -/
def maxBound : Nat := 4294967295

/-- Decimal digits. The number bounds them. -/
def readDigits (f : Flags) : Nat → List Char → List Char × List Char
  | 0, cs => ([], cs)
  | n + 1, cs =>
    match cs with
    | c :: rest =>
      if isDigit c then
        let (digits, rest) := readDigits f n (f.skip rest)
        (c :: digits, rest)
      else ([], cs)
    | [] => ([], [])

/-- A bound with blanks around it. -/
def readBound (f : Flags) (cs : List Char) : Option (Nat × List Char) :=
  let (digits, rest) := readDigits f cs.length (cs.dropWhile Unicode.isBlank)
  let bound := digitsValue digits
  if digits.isEmpty || maxBound < bound then none
  else some (bound, f.skip (rest.dropWhile Unicode.isBlank))

/-- Bounds in braces, after the opening one. -/
def readBounds (f : Flags) (cs : List Char) : Option (Bounds × List Char) :=
  match readBound f (f.skip cs) with
  | some (least, '\x7d' :: rest) => some (⟨least, some least⟩, rest)
  | some (least, ',' :: rest) =>
    match f.skip rest with
    | '\x7d' :: rest => some (⟨least, none⟩, rest)
    | rest =>
      match readBound f rest with
      | some (most, '\x7d' :: rest) =>
        if least ≤ most then some (⟨least, some most⟩, rest) else none
      | _ => none
  | _ => none

/-- Whether a repetition is followed by a `?`. -/
def readLazy : List Char → Bool × List Char
  | '?' :: rest => (true, rest)
  | cs => (false, cs)

/-! ### Groups -/

/-- What follows the opening parenthesis of a group. -/
inductive Opening where
  | capture (name : Option (List Char))
  | hold (f : Flags)
  | setFlags (f : Flags)

/-- Letters of flags up to `:` or `)`. A letter may stand once, a minus sign switches the following
letters off and has one after it. -/
def readFlags (f : Flags) (on : Bool) (seen : List Char) (dangling : Bool) :
    List Char → Option (Opening × List Char)
  | [] => none
  | ':' :: rest => if dangling then none else some (.hold f, rest)
  | ')' :: rest =>
    if dangling || (seen.isEmpty && on) then none else some (.setFlags f, rest)
  | '-' :: rest => if on then readFlags f false seen true rest else none
  | c :: rest =>
    if seen.contains c then none
    else
      match f.set? on c with
      | some f => readFlags f on (c :: seen) false rest
      | none => none

/-- The name of a group. -/
def readName (cs : List Char) : Option (List Char × List Char) :=
  let name := cs.takeWhile (· != '>')
  match name, cs.drop name.length with
  | c :: more, _ :: rest =>
    if (c == '_' || Unicode.isAlphabetic c) &&
        more.all fun c => Unicode.isAlphanumeric c || c ∈ ['_', '.', '[', ']'] then
      some (name, rest)
    else none
  | _, _ => none

/-- What follows the opening parenthesis of a group. -/
def readOpening (f : Flags) (cs : List Char) : Option (Opening × List Char) :=
  match f.skip cs with
  | '?' :: 'P' :: '<' :: rest => (readName rest).map fun (n, rest) => (.capture (some n), rest)
  | '?' :: '<' :: '=' :: _ | '?' :: '<' :: '!' :: _ | '?' :: '=' :: _ | '?' :: '!' :: _ => none
  | '?' :: '<' :: rest => (readName rest).map fun (n, rest) => (.capture (some n), rest)
  | '?' :: rest => readFlags f true [] false rest
  | rest => some (.capture none, rest)

/-! ### Expressions -/

/-- The groups that have been opened: their number and their names. -/
structure Opened where
  count : Nat
  names : List (List Char)

/-- The alternatives before the current one, and the parts of the current one, the latest first. -/
structure Draft where
  branches : List Tree
  parts : List Tree

namespace Draft

/-- Nothing. -/
def none : Draft := ⟨[], []⟩

/-- One more part. -/
def add (d : Draft) (t : Tree) : Draft := { d with parts := t :: d.parts }

/-- The end of an alternative. -/
def branch (d : Draft) : Draft := ⟨.sequence d.parts.reverse :: d.branches, []⟩

/-- The tree of all alternatives. -/
def tree (d : Draft) : Tree := .alternatives d.branch.branches.reverse

/-- The last part repeated within bounds. Flags cannot be repeated. -/
def repeatLast? (d : Draft) (greedy : Bool) (b : Bounds) : Option Draft :=
  match d.parts with
  | .flags :: _ | [] => .none
  | t :: parts => some { d with parts := .loop greedy b.least b.most t :: parts }

end Draft

/-- The alternatives up to the end of a group or of the text. The number bounds the parts, `depth`
the nesting of groups. -/
def readAlternatives : (depth n : Nat) → Flags → Opened → Draft → List Char →
    Option (Tree × Opened × List Char)
  | _, 0, _, _, _, _ => none
  | depth, n + 1, f, opened, d, cs =>
    let add (t : Tree) (rest : List Char) : Option (Tree × Opened × List Char) :=
      readAlternatives depth n f opened (d.add t) rest
    let iterate (b : Bounds) (rest : List Char) : Option (Tree × Opened × List Char) :=
      let (isLazy, rest) := readLazy rest
      match d.repeatLast? (isLazy == f.swapped) b with
      | some d => readAlternatives depth n f opened d rest
      | none => none
    match f.skip cs with
    | [] => some (d.tree, opened, [])
    | ')' :: rest => some (d.tree, opened, ')' :: rest)
    | '|' :: rest => readAlternatives depth n f opened d.branch rest
    | '(' :: rest =>
      match depth, readOpening f rest with
      | _, none | 0, _ => none
      | _ + 1, some (.setFlags f, rest) =>
        readAlternatives depth n f opened (d.add .flags) rest
      | inner + 1, some (.hold f', rest) =>
        match readAlternatives inner n f' opened .none rest with
        | some (t, opened, ')' :: rest) =>
          readAlternatives depth n f opened (d.add (.hold t)) rest
        | _ => none
      | inner + 1, some (.capture name, rest) =>
        if name.any opened.names.contains then none
        else
          let index := opened.count + 1
          match readAlternatives inner n f ⟨index, name.toList ++ opened.names⟩ .none rest with
          | some (t, opened, ')' :: rest) =>
            readAlternatives depth n f opened (d.add (.group index t)) rest
          | _ => none
    | '*' :: rest => iterate ⟨0, none⟩ rest
    | '+' :: rest => iterate ⟨1, none⟩ rest
    | '?' :: rest => iterate ⟨0, some 1⟩ rest
    | '\x7b' :: rest =>
      match readBounds f rest with
      | some (b, rest) => iterate b (f.skip rest)
      | none => none
    | '[' :: rest =>
      match readBracket f rest with
      | some (b, rest) => add (.set b.set b.nesting) rest
      | none => none
    | '\\' :: rest =>
      match readEscape f rest with
      | some (p, rest) => add (p.tree f) rest
      | none => none
    | '.' :: rest =>
      if f.ascii then none
      else add (.set (if f.dotAll then CharSet.empty.compl else f.withinLine) 0) rest
    | '^' :: rest => add (.look (if f.lines then f.lineStart else textStart)) rest
    | '$' :: rest => add (.look (if f.lines then f.lineEnd else textEnd)) rest
    | c :: rest => add ((Primitive.literal c).tree f) rest

/-- The greatest nesting. -/
def maxNesting : Nat := 250

/-- The tree of a text. -/
def Tree.read? (text : List Char) : Option Tree :=
  match readAlternatives (maxNesting + 1) (text.length + 1) {} ⟨0, []⟩ .none text with
  | some (t, _, []) => some t
  | _ => none

/-- The expression that a text denotes. -/
def ofText? (text : List Char) : Option Regex :=
  (Tree.read? text).bind fun t =>
    if t.nesting ≤ maxNesting && t.fits then some t.regex else none

end TripletFacts.Regex
