import TripletFacts.Regex.Escape

/-!
# Classes in brackets

A class lists characters, ranges, sets with a name and further classes, and it may be the
intersection or a difference of such lists.

## Main definitions

* `Regex.Bracket`: the characters of a class and the nesting of its text.
* `Regex.readBracket`: a class after its opening bracket.
-/

namespace TripletFacts.Regex

/-! ### Sets of ASCII -/

/-- The set of ASCII with a given name. -/
def asciiSet? (name : String) : Option CharSet :=
  match name with
  | "alnum" => some asciiAlphanumeric
  | "alpha" => some asciiLetters
  | "ascii" => some (.range '\x00' '\x7f')
  | "blank" => some ((CharSet.single '\t').union (.single ' '))
  | "cntrl" => some ((CharSet.range '\x00' '\x1f').union (.single '\x7f'))
  | "digit" => some (.range '0' '9')
  | "graph" => some (.range '!' '~')
  | "lower" => some (.range 'a' 'z')
  | "print" => some (.range ' ' '~')
  | "punct" => some ((CharSet.range '!' '~').diff asciiAlphanumeric)
  | "space" => some asciiBlanks
  | "upper" => some (.range 'A' 'Z')
  | "word" => some (asciiAlphanumeric.union (.single '_'))
  | "xdigit" => some (((CharSet.range '0' '9').union (.range 'A' 'F')).union (.range 'a' 'f'))
  | _ => none

/-- The other characters, which are not only ASCII. -/
def complement? (f : Flags) (s : CharSet) : Option CharSet := if f.ascii then none else some s.compl

/-- A set of ASCII such as `:alpha:]` after its opening bracket: whether it is negated, and the
set. -/
def readAsciiSet : List Char → Option (Bool × CharSet × List Char)
  | ':' :: cs =>
    let (negated, cs) := match cs with
      | '^' :: cs => (true, cs)
      | cs => (false, cs)
    match cs.dropWhile (· != ':') with
    | ':' :: ']' :: rest =>
      (asciiSet? (String.ofList (cs.takeWhile (· != ':')))).map fun s => (negated, s, rest)
    | _ => none
  | _ => none

/-! ### Lists of items -/

/-- The characters of a class and the nesting of its text. -/
structure Bracket where
  set : CharSet
  nesting : Nat

/-- The items of a class so far: the characters, the number of the items, and the greatest nesting
of an item. -/
structure Items where
  set : CharSet
  count : Nat
  nesting : Nat

namespace Items

/-- No items. -/
def none : Items := ⟨.empty, 0, 0⟩

/-- One more item. -/
def add (i : Items) (s : CharSet) (nesting : Nat) : Items :=
  ⟨i.set.union s, i.count + 1, max i.nesting nesting⟩

/-- Two or more items are nested in a list. -/
def bracket (i : Items) : Bracket := ⟨i.set, if i.count < 2 then i.nesting else i.nesting + 1⟩

end Items

/-- Operations on classes. -/
inductive ClassOperation where
  | intersection | difference | symmetric

/-- An operation on two sets. -/
def ClassOperation.apply (s t : CharSet) : ClassOperation → CharSet
  | intersection => s.inter t
  | difference => s.diff t
  | symmetric => s.symmDiff t

/-- An operation that waits for its right side, with its left side, if there is one. -/
abbrev Pending := Option (ClassOperation × Bracket)

/-- The class of the items, with the pending operation applied. -/
def finishOperation (pending : Pending) (items : Items) : Bracket :=
  let right := items.bracket
  match pending with
  | some (op, left) => ⟨op.apply left.set right.set, max left.nesting right.nesting + 1⟩
  | none => right

/-! ### Items -/

/-- A single item of a class. A character outside of ASCII is refused where classes are restricted
to it. -/
def readClassItem (f : Flags) (cs : List Char) : Option (Primitive × List Char) :=
  let item := match cs with
    | '\\' :: cs => readEscape f cs
    | c :: cs => some (.literal c, cs)
    | [] => none
  match item with
  | some (.look _, _) => none
  | some (.literal c, rest) =>
    if f.ascii && 0x80 ≤ c.toNat then none else some (.literal c, rest)
  | item => item

/-- The characters of an item. -/
def itemSet (f : Flags) : Primitive → CharSet
  | .literal c => f.literal c
  | .set s => f.close s
  | .look _ => .empty

/-- An item or a range of a class. A hyphen before another hyphen or before the end of the class is
an item of its own. -/
def readRange (f : Flags) (cs : List Char) : Option (CharSet × List Char) :=
  match readClassItem f cs with
  | none => none
  | some (first, rest) =>
    match f.skip rest with
    | '-' :: after =>
      match f.skip after with
      | ']' :: _ | '-' :: _ => some (itemSet f first, '-' :: after)
      | after =>
        match first, readClassItem f after with
        | .literal a, some (.literal b, rest) =>
          if a ≤ b then some (f.close (.range a b), rest) else none
        | _, _ => none
    | rest => some (itemSet f first, rest)

/-- Hyphens at the beginning of a class stand for themselves. The number bounds them. -/
def readHyphens (f : Flags) : Nat → Items → List Char → Items × List Char
  | 0, items, cs => (items, cs)
  | n + 1, items, cs =>
    match f.skip cs with
    | '-' :: rest => readHyphens f n (items.add (.single '-') 0) rest
    | rest => (items, rest)

/-- The beginning of a class after its opening bracket: whether it is negated, and the hyphens or
the closing bracket that stand for themselves there. -/
def readClassStart (f : Flags) (cs : List Char) : Bool × Items × List Char :=
  let (negated, rest) := match f.skip cs with
    | '^' :: rest => (true, rest)
    | rest => (false, rest)
  match readHyphens f (rest.length + 1) .none rest with
  | (⟨_, 0, _⟩, ']' :: rest) => (negated, Items.none.add (.single ']') 0, rest)
  | (items, rest) => (negated, items, rest)

/-- The items of a class up to its closing bracket; classes may be nested. The number bounds the
items. -/
def readItems (f : Flags) : Nat → Bool → Pending → Items → List Char →
    Option (Bracket × List Char)
  | 0, _, _, _, _ => none
  | n + 1, negated, pending, items, cs =>
    match f.skip cs with
    | [] => none
    | ']' :: rest =>
      let b := finishOperation pending items
      if negated then (complement? f b.set).map fun s => (⟨s, b.nesting + 1⟩, rest)
      else some (⟨b.set, b.nesting + 1⟩, rest)
    | '[' :: rest =>
      match readAsciiSet rest with
      | some (false, s, rest) => readItems f n negated pending (items.add (f.close s) 0) rest
      | some (true, s, rest) =>
        match complement? f (f.close s) with
        | some s => readItems f n negated pending (items.add s 0) rest
        | none => none
      | none =>
        let (inner, start, rest) := readClassStart f rest
        match readItems f n inner none start rest with
        | some (b, rest) => readItems f n negated pending (items.add b.set b.nesting) rest
        | none => none
    | '&' :: '&' :: rest =>
      readItems f n negated (some (.intersection, finishOperation pending items)) .none rest
    | '-' :: '-' :: rest =>
      readItems f n negated (some (.difference, finishOperation pending items)) .none rest
    | '~' :: '~' :: rest =>
      readItems f n negated (some (.symmetric, finishOperation pending items)) .none rest
    | cs =>
      match readRange f cs with
      | some (s, rest) => readItems f n negated pending (items.add s 0) rest
      | none => none

/-- A class after its opening bracket. -/
def readBracket (f : Flags) (cs : List Char) : Option (Bracket × List Char) :=
  let (negated, start, rest) := readClassStart f cs
  readItems f (cs.length + 1) negated none start rest

end TripletFacts.Regex
