import TripletFacts.Regex.Tree
import TripletFacts.Unicode.Encoding

/-!
# The room of a regular expression

An expression is refused if its compiled forms would take too much room. There are two of them: one
reads the bytes of a text forwards and keeps the groups, the other one reads them backwards. Both
are made of states; a counted repetition has the states of its body once for every round.

## Main definitions

* `Regex.States`: the states of a compiled form and the room that they take.
* `Regex.Plan`: what a tree is compiled from; `Regex.Tree.plan`: the plan of a tree.
* `Regex.Plan.forward`, `Regex.Plan.backward`: the states of the two forms.
* `Regex.Tree.fits`: whether both forms stay within the greatest room.
-/

namespace TripletFacts.Regex

open Unicode

/-! ### States -/

/-- The states of a compiled form: their number, and the room of the lists that belong to them. -/
structure States where
  count : Nat
  lists : Nat

namespace States

/-- The greatest room. -/
def maxRoom : Nat := 10485760

/-- The room of a state without its list. -/
def stateRoom : Nat := 32

/-- The room of one range of bytes in the list of a state. -/
def rangeRoom : Nat := 8

/-- The room of one way in the list of a state where ways part. -/
def wayRoom : Nat := 4

/-- The room of states. -/
def room (s : States) : Nat := stateRoom * s.count + s.lists

/-- More states, with the room of their lists. -/
def more (s : States) (count lists : Nat) : States := ⟨s.count + count, s.lists + lists⟩

/-- Whether states take too much room. -/
def full (s : States) : Bool := decide (maxRoom < s.room)

/-- States for a number of rounds; there are no more of them when the room is used up. -/
def rounds (round : States → States) : Nat → States → States
  | 0, s => s
  | n + 1, s => if s.full then s else rounds round n (round s)

end States

/-! ### Plans -/

/-- What a tree is compiled from. Parts that have no states are left out, and sets of characters
are sets of encodings. -/
inductive Plan where
  /-- States that are the same in both forms. -/
  | fixed (count lists : Nat)
  /-- A character with one of the given encodings. -/
  | set (sequences : List (List ByteRange))
  /-- One part after the other. -/
  | seq (parts : List Plan)
  /-- One of several branches. -/
  | alt (branches : List Plan)
  /-- A group that is kept. -/
  | group (body : Plan)
  /-- At least and at most a number of rounds of what may match the empty text or may not. -/
  | loop (mayBeEmpty : Bool) (least : Nat) (most : Option Nat) (body : Plan)

namespace Plan

/-- A single state without a list. -/
def state : Plan := fixed 1 0

/-- The plan of a set of characters: a state for every byte of a single character, two for a set
of ASCII. -/
def ofSet (s : CharSet) : Plan :=
  match s.single? with
  | some n => fixed (encodedLength n) 0
  | none =>
    if s.ranges.all fun r => r.2 < 0x80 then fixed 2 (States.rangeRoom * s.ranges.length)
    else set (s.ranges.flatMap fun r => encodings r.1 r.2)

/-- The plan of a sequence: nothing has one state, and a single part is left alone. -/
def sequence : List Plan → Plan
  | [] => state
  | [part] => part
  | parts => seq parts

end Plan

namespace Tree

mutual

/-- Whether a tree matches the empty text only. -/
def isVoid : Tree → Bool
  | empty | flags | look _ => true
  | set _ _ => false
  | seq parts => allVoid parts
  | alt branches => allVoid branches
  | group _ body | hold body => body.isVoid
  | loop _ _ most body => most == some 0 || body.isVoid

/-- Whether all of several trees match the empty text only. -/
def allVoid : List Tree → Bool
  | [] => true
  | t :: ts => t.isVoid && allVoid ts

end

mutual

/-- Whether a tree may match the empty text, so far as the characters do not matter. -/
def mayBeEmpty : Tree → Bool
  | empty | flags | look _ => true
  | set _ _ => false
  | seq parts => allMayBeEmpty parts
  | alt branches => someMayBeEmpty branches
  | group _ body | hold body => body.mayBeEmpty
  | loop _ least _ body => least == 0 || body.mayBeEmpty

/-- Whether all of several trees may match the empty text. -/
def allMayBeEmpty : List Tree → Bool
  | [] => true
  | t :: ts => t.mayBeEmpty && allMayBeEmpty ts

/-- Whether one of several trees may match the empty text. -/
def someMayBeEmpty : List Tree → Bool
  | [] => false
  | t :: ts => t.mayBeEmpty || someMayBeEmpty ts

end

mutual

/-- Whether a tree is left out of a sequence. -/
def isNothing : Tree → Bool
  | empty | flags => true
  | hold body => body.isNothing
  | seq parts => allNothing parts
  | loop _ _ most body => most == some 0 || body.isNothing
  | _ => false

/-- Whether all of several trees are left out of a sequence. -/
def allNothing : List Tree → Bool
  | [] => true
  | t :: ts => t.isNothing && allNothing ts

end

mutual

/-- The characters of a tree that is a set, or alternatives of sets. -/
def set? : Tree → Option CharSet
  | set s _ => some s
  | hold body => body.set?
  | alt branches => unionSet? branches
  | _ => none

/-- The characters of trees that are sets. -/
def unionSet? : List Tree → Option CharSet
  | [] => some .empty
  | t :: ts =>
    match t.set?, unionSet? ts with
    | some s, some u => some (s.union u)
    | _, _ => none

end

mutual

/-- The plan of a tree. Alternatives of sets are one set, and there is at most one round of what
matches the empty text only. -/
def plan : Tree → Plan
  | empty | flags | look _ => .state
  | set s _ => .ofSet s
  | seq parts => .sequence (partPlans parts)
  | alt branches =>
    match unionSet? branches with
    | some s => .ofSet s
    | none => .alt (branchPlans branches)
  | group _ body => .group body.plan
  | hold body => body.plan
  | loop _ least most body =>
    if most = some 0 then .state
    else if body.isVoid then
      if least = 0 then .loop true 0 (some 1) body.plan else body.plan
    else .loop body.mayBeEmpty least most body.plan

/-- The plans of the parts of a sequence. -/
def partPlans : List Tree → List Plan
  | [] => []
  | t :: ts => if t.isNothing then partPlans ts else t.plan :: partPlans ts

/-- The plans of alternatives. -/
def branchPlans : List Tree → List Plan
  | [] => []
  | t :: ts => t.plan :: branchPlans ts

end

end Tree

/-! ### Forms of a set -/

/-- The number of ranges of bytes in which a sequence differs from the sequence before it, from the
first difference on. -/
def newRanges : (before sequence : List ByteRange) → Nat
  | b :: before, r :: rest => if b = r then newRanges before rest else rest.length + 1
  | _, rest => rest.length

/-- The number of ranges of bytes in sequences, where common beginnings count once. -/
def sharedRanges (before : List ByteRange) : List (List ByteRange) → Nat
  | [] => 0
  | s :: rest => newRanges before s + sharedRanges s rest

/-- The forward states of a set: sequences share the states of their common beginnings. -/
def forwardSet (sequences : List (List ByteRange)) (s : States) : States :=
  let ranges := sharedRanges [] sequences
  s.more (ranges - sequences.length + 2) (States.rangeRoom * ranges)

/-- More states than the backward ones of a set: without any common beginnings. -/
def separateSet (sequences : List (List ByteRange)) (s : States) : States :=
  let ranges := sequences.foldl (fun n sequence => n + sequence.length) 0
  s.more (ranges + 2) (States.wayRoom * sequences.length)

/-- The number of states that are remembered while the backward states of a set are made. -/
def memorySize : Nat := 1000

/-- The remembered states: a range of bytes, the state that it leads on to, and the state where it
is read. Every range has one place in the memory, where it displaces the range that was there
before. -/
abbrev Memory := Array (Option (ByteRange × Nat × Nat))

/-- The place in the memory of a range of bytes that leads on to a state: the three numbers are
mixed into one of 64 bits. -/
def memoryPlace (onTo : Nat) (r : ByteRange) : Nat :=
  let mix (h n : UInt64) : UInt64 := (h ^^^ n) * 1099511628211
  let h := mix (mix (mix 14695981039346656037 onTo.toUInt64) r.1.toUInt64) r.2.toUInt64
  h.toNat % memorySize

/-- The state that is remembered for a range of bytes that leads on to a state. -/
def remembered? (memory : Memory) (onTo : Nat) (r : ByteRange) : Option Nat :=
  match memory[memoryPlace onTo r]? with
  | some (some (r', onTo', state)) => if r' = r ∧ onTo' = onTo then some state else none
  | _ => none

/-- The backward states of a sequence, given the number of the next state: every range leads on to
the one before it. -/
def backwardSequence (onTo : Nat) : List ByteRange → Memory × Nat → Memory × Nat
  | [], made => made
  | r :: rest, (memory, next) =>
    match remembered? memory onTo r with
    | some state => backwardSequence state rest (memory, next)
    | none =>
      backwardSequence next rest
        (memory.setIfInBounds (memoryPlace onTo r) (some (r, onTo, next)), next + 1)

/-- The backward states of a set: where its sequences part there is one way for each of them, and
they all end in one state. -/
def backwardSet (sequences : List (List ByteRange)) (s : States) : States :=
  let made := sequences.foldl (fun made sequence => backwardSequence (s.count + 1) sequence made)
    (Array.replicate memorySize none, s.count + 2)
  ⟨made.2, s.lists + States.wayRoom * sequences.length⟩

/-! ### Forms of a plan -/

/-- The states of a loop around a body that has the given ones. -/
def loopStates (mayBeEmpty : Bool) (body : States → States) (least : Nat) (most : Option Nat)
    (s : States) : States :=
  let part (s : States) : States := s.more 1 (2 * States.wayRoom)
  match least, most with
  | 0, none => if mayBeEmpty then (body s).more 3 (4 * States.wayRoom) else body (part s)
  | least, none => part (States.rounds body least s)
  | 0, some 1 => (body (part s)).more 1 0
  | least, some most =>
    if least = most then States.rounds body least s
    else
      let start := if least = 0 then s.more 1 0 else States.rounds body least s
      States.rounds (fun s => body (part s)) (most - least) (start.more 1 0)

/-- A compiled form: the states of a set, the number of states at either end of a group, and
whether the last part of a sequence is compiled first. -/
structure Form where
  set : List (List ByteRange) → States → States
  marks : Nat
  reversed : Bool

namespace Plan

mutual

/-- States together with those of a plan in a compiled form. -/
def states (form : Form) : Plan → States → States
  | fixed count lists, s => s.more count lists
  | set sequences, s => form.set sequences s
  | seq parts, s => seqStates form parts s
  | alt branches, s => altStates form branches (s.more 2 0)
  | group body, s => (states form body (s.more form.marks 0)).more form.marks 0
  | loop mayBeEmpty least most body, s => loopStates mayBeEmpty (states form body) least most s

/-- States together with those of the parts of a sequence. -/
def seqStates (form : Form) : List Plan → States → States
  | [], s => s
  | p :: ps, s =>
    if form.reversed then states form p (seqStates form ps s)
    else seqStates form ps (states form p s)

/-- States together with those of branches and with the ways to them. -/
def altStates (form : Form) : List Plan → States → States
  | [], s => s
  | p :: ps, s => altStates form ps (states form p (s.more 0 States.wayRoom))

end

/-- The states of the forward form. -/
def forward (p : Plan) : States := (p.states ⟨forwardSet, 1, false⟩ ⟨2, 0⟩).more 2 0

/-- The states of the backward form. -/
def backward (p : Plan) : States := (p.states ⟨backwardSet, 0, true⟩ ⟨1, 0⟩).more 1 0

/-- More states than the backward form has. -/
def separate (p : Plan) : States := (p.states ⟨separateSet, 0, true⟩ ⟨1, 0⟩).more 1 0

/-- Whether both forms of a plan stay within the greatest room. The backward states are counted
only where it matters. -/
def fits (p : Plan) : Bool := !p.forward.full && (!p.separate.full || !p.backward.full)

end Plan

/-- Whether the compiled forms of a tree stay within the greatest room. -/
def Tree.fits (t : Tree) : Bool := t.plan.fits

end TripletFacts.Regex
