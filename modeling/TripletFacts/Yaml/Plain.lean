import TripletFacts.Number.Hexadecimal
import TripletFacts.Number.Reading

/-!
# What plain scalars stand for

A plain scalar may stand for nothing, a truth value or a number. Integers may be written with a
base; digits after a leading zero are no number. Text that would be taken for one of these has to
be quoted.

## Main definitions

* `Yaml.isNull`, `Yaml.readNat?`, `Yaml.isNumber`: plain scalars that stand for nothing, for a
  natural number, for any number.
* `Yaml.isReserved`: plain scalars that do not stand for their text.
-/

namespace TripletFacts.Yaml

/-- The words for nothing. -/
def isNull (cs : List Char) : Bool :=
  ["null", "Null", "NULL", "~"].any fun w => w.toList == cs

/-- The words for truth values, those of older versions of the format included. -/
def isTruthWord (cs : List Char) : Bool :=
  ["y", "Y", "yes", "Yes", "YES", "n", "N", "no", "No", "NO", "true", "True", "TRUE", "false",
    "False", "FALSE", "on", "On", "ON", "off", "Off", "OFF"].any fun w => w.toList == cs

/-- Whether a sign comes first. -/
def signNext (cs : List Char) : Bool := cs.head?.any fun c => c == '+' || c == '-'

/-- A text without a plus sign in front. -/
def dropPlus : List Char → List Char
  | '+' :: cs => cs
  | cs => cs

/-- A zero and more digits, perhaps after a sign: digits that are no number. -/
def isPaddedDigits (cs : List Char) : Bool :=
  match if signNext cs then cs.drop 1 else cs with
  | '0' :: d :: ds => (d :: ds).all isDigit
  | _ => false

/-- The number that digits of a base denote. -/
def readBase? (base : Nat) (cs : List Char) : Option Nat :=
  if cs.isEmpty then none
  else cs.foldl (fun n c => n.bind fun n => (hexDigit? c).bind fun d =>
    if d < base then some (base * n + d) else none) (some 0)

/-- The base that a number is written in, and its digits. -/
def splitBase : List Char → Option (Nat × List Char)
  | '0' :: 'x' :: cs => some (16, cs)
  | '0' :: 'o' :: cs => some (8, cs)
  | '0' :: 'b' :: cs => some (2, cs)
  | _ => none

/-- The natural number below a bound that a plain scalar stands for. -/
def readNat? (bound : Nat) (cs : List Char) : Option Nat :=
  let body := dropPlus cs
  let based := (splitBase body).bind fun (base, digits) => readBase? base digits
  let decimal := if isPaddedDigits cs then none else readBase? 10 body
  ((based.filter (· < bound)).or decimal).filter (· < bound)

/-- Whether a plain scalar stands for a negative integer of 128 bits that is written with a
base. -/
def isNegativeBased : List Char → Bool
  | '-' :: cs =>
    ((splitBase cs).bind fun (base, digits) => readBase? base digits).any
      fun n => decide (n ≤ Nat.pow 2 127)
  | _ => false

/-- Whether a plain scalar stands for a finite decimal number. -/
def isDecimal (cs : List Char) : Bool :=
  let body := dropPlus cs
  !(body.length < cs.length && signNext body) && (readFloat? body).any Float.isFinite

/-- The words for infinities and for what is no number. -/
def isSpecialNumber (cs : List Char) : Bool :=
  [".inf", ".Inf", ".INF"].any (fun w => w.toList == dropPlus cs) ||
    ["-.inf", "-.Inf", "-.INF", ".nan", ".NaN", ".NAN"].any fun w => w.toList == cs

/-- Whether a plain scalar stands for a number. -/
def isNumber (cs : List Char) : Bool :=
  (readNat? (Nat.pow 2 128) cs).isSome || isNegativeBased cs || isSpecialNumber cs || isDecimal cs

/-- Whether a plain scalar is read, by some reader at least, as something else than its text. -/
def isReserved (cs : List Char) : Bool :=
  cs.isEmpty || isNull cs || isTruthWord cs || isNumber cs || isPaddedDigits cs

end TripletFacts.Yaml
