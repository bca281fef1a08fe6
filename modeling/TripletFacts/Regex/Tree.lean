import TripletFacts.Regex.Basic
import TripletFacts.Unicode.CharSet

/-!
# Trees of regular expressions

The text of a regular expression is read into a tree, in which repetitions are counted and groups
stand where they are written. A tree denotes an expression, and it tells how deep its text is
nested.

## Main definitions

* `Regex.Tree`: trees.
* `Regex.Tree.regex`: the expression that a tree denotes.
* `Regex.Tree.nesting`: the nesting of the text of a tree.
-/

namespace TripletFacts.Regex

/-- Trees of regular expressions. -/
inductive Tree where
  /-- Nothing. -/
  | empty
  /-- Flags that hold for what follows, and match nothing. -/
  | flags
  /-- A character of a set; the text of the set may be nested itself. -/
  | set (s : CharSet) (nesting : Nat)
  /-- A test of the characters around a position. -/
  | look (test : Option Char → Option Char → Bool)
  /-- One part after the other. -/
  | seq (parts : List Tree)
  /-- One of several branches. -/
  | alt (branches : List Tree)
  /-- A group whose stretch is kept under a number. -/
  | group (index : Nat) (body : Tree)
  /-- A group that holds its parts together. -/
  | hold (body : Tree)
  /-- At least and at most a number of rounds. -/
  | loop (greedy : Bool) (least : Nat) (most : Option Nat) (body : Tree)

namespace Tree

/-- The tree of a sequence of parts. -/
def sequence : List Tree → Tree
  | [] => empty
  | [part] => part
  | parts => seq parts

/-- The tree of alternatives. -/
def alternatives : List Tree → Tree
  | [branch] => branch
  | branches => alt branches

/-! ### Denotation -/

/-- The expression of a loop. -/
def loopRegex (greedy : Bool) (least : Nat) (most : Option Nat) (r : Regex) : Regex :=
  match most with
  | none => .seq (.times least r) (.star greedy r)
  | some most => .seq (.times least r) (.upTo greedy (most - least) r)

/-- The first of several expressions that leads on. -/
def firstOf : List Regex → Regex
  | [] => .unit
  | [r] => r
  | r :: rs => .alt r (firstOf rs)

mutual

/-- The expression that a tree denotes. -/
def regex : Tree → Regex
  | empty | flags => .unit
  | set s _ => .char s.contains
  | look test => .look test
  | seq parts => (regexes parts).foldr .seq .unit
  | alt branches => firstOf (regexes branches)
  | group index body => .group index body.regex
  | hold body => body.regex
  | loop greedy least most body => loopRegex greedy least most body.regex

/-- The expressions that trees denote. -/
def regexes : List Tree → List Regex
  | [] => []
  | t :: ts => t.regex :: regexes ts

end

/-! ### Nesting -/

mutual

/-- The nesting of the text of a tree: groups, repetitions, alternatives and sequences count one
each. -/
def nesting : Tree → Nat
  | empty | flags | look _ => 0
  | set _ n => n
  | seq parts => greatestNesting parts + 1
  | alt branches => greatestNesting branches + 1
  | group _ body | hold body | loop _ _ _ body => body.nesting + 1

/-- The greatest nesting of several trees. -/
def greatestNesting : List Tree → Nat
  | [] => 0
  | t :: ts => max t.nesting (greatestNesting ts)

end

end Tree

end TripletFacts.Regex
