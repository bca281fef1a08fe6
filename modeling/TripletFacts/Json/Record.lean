import TripletFacts.Json.Reader

/-!
# Reading records

Data with a known shape are read from JSON text without a value in between. One of several
alternatives is an object whose only field is named for it; an alternative without content may also
be its name alone. A record is an object in which each of its fields is given once, in any order, or
an array of the values of the fields in their order. Other fields of the object are passed over:
their values only have to have the form of a value. They can be nested to any depth, their numbers
can be of any size, and their strings can have escapes that stand for no character.

## Main definitions

* `Json.Reader`: readers of the beginning of a text.
* `Json.passValue`: a value that is passed over.
* `Json.readTagged`, `Json.readChoice`: one of several alternatives.
* `Json.readArray`, `Json.readRecord`: arrays of any length, and records.
-/

namespace TripletFacts.Json

/-- What can be read at the beginning of a text, and the rest. -/
abbrev Reader (α : Type) := List Char → Option (α × List Char)

variable {α β : Type}

/-- What is made of what is read. -/
def Reader.map (f : α → β) (read : Reader α) : Reader β := fun cs =>
  (read cs).map fun (a, rest) => (f a, rest)

/-- What is made of what is read, if it can be made. -/
def Reader.filterMap (f : α → Option β) (read : Reader α) : Reader β := fun cs =>
  (read cs).bind fun (a, rest) => (f a).map (·, rest)

/-- The rest of a text after blanks and a mark. -/
def afterMark? (mark : Char) (cs : List Char) : Option (List Char) :=
  match skipBlanks cs with
  | c :: rest => if c = mark then some rest else none
  | [] => none

/-! ### Values that are passed over -/

/-- The rest after the content of a string and its closing quote. The number bounds the characters
that are read. -/
def passString : Nat → List Char → Option (List Char)
  | 0, _ => none
  | _ + 1, [] => none
  | _ + 1, '"' :: rest => some rest
  | n + 1, '\\' :: 'u' :: cs => (readHex4 cs).bind fun (_, rest) => passString n rest
  | n + 1, '\\' :: c :: cs => if (shortEscape? c).isSome then passString n cs else none
  | n + 1, c :: cs => if c.toNat < 0x20 ∨ c = '\\' then none else passString n cs

/-- The rest after a quoted string. -/
def passQuoted : List Char → Option (List Char)
  | '"' :: cs => passString (cs.length + 1) cs
  | _ => none

/-- The rest after a number. -/
def passNumber (cs : List Char) : Option (List Char) :=
  let body := if cs.head? = some '-' then cs.drop 1 else cs
  match body.takeWhile isDigit with
  | [] => none
  | '0' :: _ :: _ => none
  | _ =>
    (readFraction (body.dropWhile isDigit)).bind fun (_, rest) =>
      (readExponent rest).map fun (_, rest) => rest

/-- The rest after a field. -/
def passField (value : Reader Unit) : Reader Unit := fun cs =>
  ((passQuoted cs).bind (afterMark? ':')).bind value

/-- The rest after a value. The number bounds the nesting. -/
def passValue : Nat → Reader Unit
  | 0, _ => none
  | n + 1, cs =>
    match skipBlanks cs with
    | [] => none
    | c :: rest =>
      if c = 'n' then (after? "ull".toList rest).map ((), ·)
      else if c = 't' then (after? "rue".toList rest).map ((), ·)
      else if c = 'f' then (after? "alse".toList rest).map ((), ·)
      else if c = '"' then (passQuoted (c :: rest)).map ((), ·)
      else if c = '-' || isDigit c then (passNumber (c :: rest)).map ((), ·)
      else if c = '[' then
        (readSequence (passValue n) ']' rest).map fun (_, rest) => ((), rest)
      else if c = '\x7b' then
        (readSequence (passField (passValue n)) '\x7d' rest).map fun (_, rest) => ((), rest)
      else none

/-! ### Alternatives -/

/-- An object with one field, whose name tells how its value is read. -/
def readTagged (content : String → Reader α) : Reader α := fun cs => do
  let rest ← afterMark? '\x7b' cs
  let (tag, rest) ← readQuoted (skipBlanks rest)
  let rest ← afterMark? ':' rest
  let (a, rest) ← content tag rest
  let rest ← afterMark? '\x7d' rest
  return (a, rest)

/-- The word for nothing. -/
def readNull : Reader Unit := fun cs => (after? "null".toList (skipBlanks cs)).map ((), ·)

/-- An alternative without content: its name, or an object that gives nothing under its name. An
object needs a level of nesting. -/
def readChoice (named? : String → Option α) (depth : Nat) : Reader α := fun cs =>
  match skipBlanks cs with
  | '\x7b' :: _ =>
    match depth with
    | 0 => none
    | _ + 1 => readTagged (fun tag => readNull.filterMap fun _ => named? tag) cs
  | cs => Reader.filterMap named? readQuoted cs

/-! ### Arrays and records -/

/-- An array of any length. -/
def readArray (item : Reader α) : Reader (List α) := fun cs =>
  (afterMark? '[' cs).bind (readSequence item ']')

/-- Values with commas between them, and the end of an array. -/
def readRow : List (Reader α) → Reader (List α)
  | [], cs => (afterMark? ']' cs).map ([], ·)
  | read :: reads, cs => do
    let (a, rest) ← read cs
    let rest ← if reads.isEmpty then some rest else afterMark? ',' rest
    let (as, rest) ← readRow reads rest
    return (a :: as, rest)

/-- A field of an object: one that belongs to the record, or another one that is passed over. -/
def readMember (fields : List (String × Reader α)) : Reader (Option (String × α)) := fun cs => do
  let (name, rest) ← readQuoted cs
  let rest ← afterMark? ':' rest
  match fields.lookup name with
  | some read => Reader.map (fun a => some (name, a)) read rest
  | none => Reader.map (fun _ => none) (passValue rest.length) rest

/-- The only value that is given for a field. -/
def only? (given : List (String × α)) (name : String) : Option α :=
  match given.filter (·.1 == name) with
  | [(_, a)] => some a
  | _ => none

/-- A record: an object, or an array of the values of the fields. -/
def readRecord (fields : List (String × Reader α)) : Reader (List α) := fun cs =>
  match skipBlanks cs with
  | '[' :: rest => readRow (fields.map Prod.snd) rest
  | '\x7b' :: rest =>
    Reader.filterMap (fun given => fields.mapM fun f => only? (given.filterMap id) f.1)
      (readSequence (readMember fields) '\x7d') rest
  | _ => none

end TripletFacts.Json
