import TripletFacts.Number.Hexadecimal
import TripletFacts.Yaml.Place

/-!
# Scalars of documents

A scalar is a text in one of five styles: plain, in single or double quotes, or as a block of lines
that are kept or folded. In the first three a gap that has a line end counts as one space, or as
its further line ends if it has some; a block is indented, and the line ends after it are clipped,
stripped or kept.

## Main definitions

* `Yaml.Style`: the styles.
* `Yaml.readPlain`, `Yaml.readQuoted`, `Yaml.readBlock`: a scalar at a place, and the place after
  it.
-/

namespace TripletFacts.Yaml

/-- The styles of scalars. -/
inductive Style where
  | plain | single | double | literal | folded
deriving DecidableEq

/-! ### Gaps -/

/-- What a gap inside of a scalar counts as. -/
def gapText (gap : List Char) : List Char :=
  match breaksIn gap with
  | [] => gap
  | ['\n'] => [' ']
  | '\n' :: more => more
  | breaks => breaks

/-- Whether a tab stands in the indentation of one of the lines that begin in a gap; `column` is
the column in the current line, if the line began in the gap. -/
def tabInIndent (indent : Nat) : (column : Option Nat) → List Char → Bool
  | _, [] => false
  | column, c :: cs =>
    if isBreak c then tabInIndent indent (some 0) cs
    else
      (c == '\t' && column.any (· < indent)) || tabInIndent indent (column.map (· + 1)) cs

/-! ### Plain scalars -/

/-- Characters that separate the parts of flow collections. -/
def flowMarks : List Char := [',', '[', ']', '\x7b', '\x7d']

/-- The characters of a plain scalar up to a gap or a mark. Inside of flow collections a colon must
not stand directly before a mark. -/
def plainRun (flow : Bool) : List Char → Option (List Char)
  | [] => some []
  | c :: cs =>
    if isGap c then some []
    else if flow && c == ':' && nextIn ('?' :: flowMarks) cs then none
    else if (c == ':' && gapNext cs) || (flow && flowMarks.contains c) then some []
    else (plainRun flow cs).map (c :: ·)

/-- A plain scalar: its text, whether a line ended after it, and the place after it. `gap` is the
gap before the place, and the number bounds the gaps. -/
def readPlain (flow : Bool) (indent : Nat) :
    Nat → (gap : List Char) → Place → Option (List Char × Bool × Place)
  | 0, _, _ => none
  | n + 1, gap, p =>
    let broken := gap.any isBreak
    if p.atDocumentMark || p.next? == some '#' then some ([], broken, p)
    else
      match plainRun flow p.rest with
      | none => none
      | some [] => some ([], broken, p)
      | some run =>
        let q := p.skip run.length
        let gap' := q.rest.takeWhile isGap
        let r := q.skip gap'.length
        if tabInIndent indent none gap' then none
        else if gap'.isEmpty || (!flow && r.column < indent) then
          some (gapText gap ++ run, gap'.any isBreak, r)
        else
          (readPlain flow indent n gap' r).map fun (text, broken, p) =>
            (gapText gap ++ run ++ text, broken, p)

/-! ### Quoted scalars -/

/-- The character with a hexadecimal code point of a fixed number of digits, and the rest. -/
def readCodePoint (digits : Nat) (cs : List Char) : Option (Char × List Char) :=
  if cs.length < digits then none else (hexChar? (cs.take digits)).map (·, cs.drop digits)

/-- The characters that a backslash and a letter stand for. -/
def escapes : List (Char × Char) :=
  [('0', '\x00'), ('a', '\x07'), ('b', '\x08'), ('t', '\t'), ('\t', '\t'), ('n', '\n'),
   ('v', '\x0b'), ('f', '\x0c'), ('r', '\r'), ('e', '\x1b'), (' ', ' '), ('"', '"'), ('/', '/'),
   ('\\', '\\'), ('N', '\x85'), ('_', '\xa0'), ('L', '\u2028'), ('P', '\u2029')]

/-- The character of an escape after its backslash, and the rest. -/
def readEscape : List Char → Option (Char × List Char)
  | 'x' :: cs => readCodePoint 2 cs
  | 'u' :: cs => readCodePoint 4 cs
  | 'U' :: cs => readCodePoint 8 cs
  | c :: cs => (escapes.lookup c).map (·, cs)
  | [] => none

/-- How a stretch of a quoted scalar ends: with the closing quote, at a gap, or with a backslash
before the end of a line. -/
inductive Stop where
  | close | gap | continuation

/-- A stretch in single quotes and what follows; a quote inside is written twice. -/
def singleRun : List Char → List Char × Stop × List Char
  | [] => ([], .gap, [])
  | '\'' :: '\'' :: cs =>
    let (text, stop) := singleRun cs
    ('\'' :: text, stop)
  | '\'' :: cs => ([], .close, cs)
  | c :: cs =>
    if isGap c then ([], .gap, c :: cs)
    else
      let (text, stop) := singleRun cs
      (c :: text, stop)

/-- A stretch in double quotes and what follows. The number bounds its characters. -/
def doubleRun : Nat → List Char → Option (List Char × Stop × List Char)
  | 0, _ => none
  | _ + 1, [] => some ([], .gap, [])
  | _ + 1, '"' :: cs => some ([], .close, cs)
  | n + 1, '\\' :: cs =>
    if cs.head?.any isBreak then some ([], .continuation, dropBreak cs)
    else
      match readEscape cs with
      | none => none
      | some (c, rest) => (doubleRun n rest).map fun (text, stop) => (c :: text, stop)
  | n + 1, c :: cs =>
    if isGap c then some ([], .gap, c :: cs)
    else (doubleRun n cs).map fun (text, stop) => (c :: text, stop)

/-- A quoted scalar after its opening quote: its text and the place after it. The number bounds the
gaps. -/
def readQuoted (double : Bool) : Nat → Place → Option (List Char × Place)
  | 0, _ => none
  | n + 1, p =>
    if p.atDocumentMark || p.rest.isEmpty then none
    else
      let run := if double then doubleRun (p.rest.length + 1) p.rest else some (singleRun p.rest)
      match run with
      | none => none
      | some (text, .close, rest) => some (text, p.moveTo rest)
      | some (text, stop, rest) =>
        let gap := rest.takeWhile isGap
        let value := match stop with
          | .continuation => breaksIn gap
          | _ => gapText gap
        (readQuoted double n (p.moveTo (rest.drop gap.length))).map fun (more, p) =>
          (text ++ value ++ more, p)

/-! ### Blocks -/

/-- What becomes of the line ends after a block. -/
inductive Chomping where
  | strip | clip | keep

/-- The first line of a block: what becomes of the last line ends, and the indentation, if it is
given. -/
structure BlockHeader where
  chomping : Chomping
  indent : Option Nat

/-- The sign of a chomping. -/
def chomping? : Char → Option Chomping
  | '+' => some .keep
  | '-' => some .strip
  | _ => none

/-- The digit of an indentation, which is not zero. -/
def indentDigit? (c : Char) : Option Nat :=
  if '1' ≤ c ∧ c ≤ '9' then some (c.toNat - 48) else none

/-- The signs after the indicator of a block in either order, and the rest. -/
def readHeader : List Char → BlockHeader × List Char
  | [] => (⟨.clip, none⟩, [])
  | c :: cs =>
    match chomping? c, indentDigit? c with
    | some ch, _ =>
      match cs.head?.bind indentDigit? with
      | some n => (⟨ch, some n⟩, cs.drop 1)
      | none => (⟨ch, none⟩, cs)
    | none, some n =>
      match cs.head?.bind chomping? with
      | some ch => (⟨ch, some n⟩, cs.drop 1)
      | none => (⟨.clip, some n⟩, cs)
    | none, none => (⟨.clip, none⟩, c :: cs)

/-- The blank lines and the indentation before a line of a block: the indentation of the block,
the line ends, and the place. An indentation that is not known yet is the greatest one found, and
at least `least`. The number bounds the lines. -/
def blockIndent (least : Nat) (known : Option Nat) :
    Nat → (greatest : Nat) → Place → Option (Nat × List Char × Place)
  | 0, _, _ => none
  | n + 1, greatest, p =>
    let spaces := (p.rest.takeWhile (· == ' ')).length
    let p := p.skip (match known with
      | some indent => min spaces (indent - p.column)
      | none => spaces)
    let greatest := max greatest p.column
    if known.all (p.column < ·) && p.next? == some '\t' then none
    else if p.next?.any isBreak then
      (blockIndent least known n greatest p.skipBreak).map fun (indent, breaks, q) =>
        (indent, breaksIn (p.rest.take (p.rest.length - (dropBreak p.rest).length)) ++ breaks, q)
    else some (known.getD (max greatest least), [], p)

/-- The lines of a block at the place where the first of them begins. `pending` are the end of the
line before and the line ends after it, `indented` says that this line began with a blank. The
number bounds the lines. -/
def blockLines (folded : Bool) (indent : Nat) :
    Nat → (ending : List Char) → (blank : List Char) → (indented : Bool) → Place →
      Option (List Char × List Char × List Char × Place)
  | 0, _, _, _, _ => none
  | n + 1, ending, blank, indented, p =>
    if p.column ≠ indent ∨ p.rest = [] then some ([], ending, blank, p)
    else
      let nowIndented := p.next?.any isBlank
      let joined :=
        if folded && ending == ['\n'] && !indented && !nowIndented then
          if blank.isEmpty then [' '] else blank
        else ending ++ blank
      let line := p.rest.takeWhile (!isBreak ·)
      let q := p.skip line.length
      let r := q.skipBreak
      let ending' := breaksIn (q.rest.take (q.rest.length - r.rest.length))
      match blockIndent 0 (some indent) (r.rest.length + 1) 0 r with
      | none => none
      | some (_, blank', r) =>
        (blockLines folded indent n ending' blank' nowIndented r).map fun (text, last) =>
          (joined ++ line ++ text, last)

/-- A block after its indicator: its text and the place after it. `parent` is the indentation of
the collection that the block stands in, if there is one. -/
def readBlock (folded : Bool) (parent : Option Nat) (p : Place) : Option (List Char × Place) :=
  let (header, rest) := readHeader p.rest
  let p := (p.moveTo rest).skipWhile isBlank
  let p := if p.next? == some '#' then p.skipWhile (!isBreak ·) else p
  if p.next?.any fun c => !isBreak c then none
  else
    let p := p.skipBreak
    let known := header.indent.map fun n => parent.getD 0 + n
    let least := max 1 (match parent with
      | some indent => indent + 1
      | none => 0)
    match blockIndent least known (p.rest.length + 1) 0 p with
    | none => none
    | some (indent, blank, p) =>
      match blockLines folded indent (p.rest.length + 1) [] blank false p with
      | none => none
      | some (text, ending, blank, p) =>
        let tail := match header.chomping with
          | .strip => []
          | .clip => ending
          | .keep => ending ++ blank
        some (text ++ tail, p)

end TripletFacts.Yaml
