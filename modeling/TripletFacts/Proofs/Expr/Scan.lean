import TripletFacts.Proofs.Expr.Derivation

/-!
# Parentheses and comparisons in derived tokens

Two things can be seen by going through the tokens of an expression once, from left to right: the
parentheses match, and no comparison sign stands directly after another one. The automaton that
goes through them comes out of every phrase of the grammar at the depth at which it went in.

## Main definitions

* `Scan`: the state of the automaton in front of a token.
* `Scan.next`: the state after a token, if the token may stand there.
* `Scan.run`: the state after some tokens.

## Main results

* `Expr.Derives.scan`: the automaton goes through what is derived.
-/

namespace TripletFacts

open TripletFacts.Expr

/-- What is known in front of a token: the number of open parentheses, and whether a comparison
sign stands directly before it. -/
structure Scan where
  depth : Nat
  compared : Bool

namespace Scan

/-- The state after a token. A parenthesis closes an open one, and no comparison sign stands after
another one. -/
def next (s : Scan) : Token → Option Scan
  | .lparen => some ⟨s.depth + 1, false⟩
  | .rparen =>
    match s.depth with
    | 0 => none
    | depth + 1 => some ⟨depth, false⟩
  | .op (.binary (.compare _)) => if s.compared then none else some ⟨s.depth, true⟩
  | _ => some ⟨s.depth, false⟩

/-- The state after some tokens. -/
def run (s : Scan) : List Token → Option Scan
  | [] => some s
  | t :: ts => (s.next t).bind (·.run ts)

@[simp] theorem run_nil (s : Scan) : s.run [] = some s := rfl

theorem run_cons (s : Scan) (t : Token) (ts : List Token) :
    s.run (t :: ts) = (s.next t).bind (·.run ts) := rfl

theorem run_append (s : Scan) (ts us : List Token) :
    s.run (ts ++ us) = (s.run ts).bind (·.run us) := by
  induction ts generalizing s with
  | nil => rfl
  | cons t ts ih =>
    rw [List.cons_append, run_cons, run_cons]
    cases s.next t with
    | none => rfl
    | some s' => exact ih s'

@[simp] theorem next_lparen (s : Scan) : s.next .lparen = some ⟨s.depth + 1, false⟩ := rfl

@[simp] theorem next_comma (s : Scan) : s.next .comma = some ⟨s.depth, false⟩ := rfl

@[simp] theorem next_ident (s : Scan) (name : String) :
    s.next (.ident name) = some ⟨s.depth, false⟩ := rfl

/-- The automaton goes through some tokens and comes out at the depth at which it went in, after
no comparison sign. -/
def Passes (ts : List Token) : Prop := ∀ s : Scan, s.run ts = some ⟨s.depth, false⟩

end Scan

namespace Expr

open Scan

/-- The sign of a chain may stand after an operand. -/
theorem Level.Joins.exists_next {level : Level} {t : Token} {op : Operator}
    (h : level.Joins t op) (depth : Nat) :
    ∃ compared, Scan.next ⟨depth, false⟩ t = some ⟨depth, compared⟩ := by
  cases h with
  | @sign op h =>
    cases op with
    | compare c => exact ⟨true, rfl⟩
    | compute a => exact ⟨false, rfl⟩
    | combine c => exact ⟨false, rfl⟩
  | word h => exact ⟨false, rfl⟩

/-- A prefix operator may stand everywhere. -/
theorem Precedes.next {A : Nonterminal} {t : Token} {op : UnaryOperator} (h : Precedes A t op)
    (s : Scan) : s.next t = some ⟨s.depth, false⟩ := by
  cases h <;> rfl

/-- The automaton goes through operands after signs. -/
theorem run_links {level : Level} {links : List Link}
    (hsign : ∀ l ∈ links, level.Joins l.sign l.op) (hlink : ∀ l ∈ links, Passes l.tokens)
    (depth : Nat) : Scan.run ⟨depth, false⟩ (links.flatMap Link.all) = some ⟨depth, false⟩ := by
  induction links with
  | nil => rfl
  | cons l links ih =>
    simp only [List.mem_cons, forall_eq_or_imp] at hsign hlink
    obtain ⟨compared, hnext⟩ := hsign.1.exists_next depth
    rw [List.flatMap_cons, Link.all, List.cons_append, run_cons, hnext, Option.bind_some,
      run_append, hlink.1 ⟨depth, compared⟩, Option.bind_some]
    exact ih hsign.2 hlink.2

/-- The automaton goes through arguments after commas. -/
theorem run_arguments {more : List Operand} (hmore : ∀ a ∈ more, Passes a.tokens) (depth : Nat) :
    Scan.run ⟨depth, false⟩ (more.flatMap fun a => .comma :: a.tokens) = some ⟨depth, false⟩ := by
  induction more with
  | nil => rfl
  | cons a more ih =>
    simp only [List.mem_cons, forall_eq_or_imp] at hmore
    rw [List.flatMap_cons, List.cons_append, run_cons, next_comma, Option.bind_some, run_append,
      hmore.1 ⟨depth, false⟩, Option.bind_some]
    exact ih hmore.2

/-- The automaton goes through what is derived. -/
theorem Derives.scan {n : Nat} {A : Nonterminal} {ts : List Token} {e : Expr}
    (h : Derives n A ts e) : Passes ts := by
  induction h with
  | chain hfirst hsign hlink ihfirst ihlink =>
    intro s
    rw [run_append, ihfirst s]
    exact run_links hsign ihlink s.depth
  | unary ht h ih =>
    intro s
    rw [run_cons, ht.next s]
    exact ih ⟨s.depth, false⟩
  | unnegated h hnot ih => exact ih
  | unsigned h ih => exact ih
  | base h ih => exact ih
  | power hbase hexponent ihbase ihexponent =>
    intro s
    rw [run_append, ihbase s]
    exact ihexponent ⟨s.depth, false⟩
  | number | str | constant | emptyCall => exact fun s => rfl
  | group h ih =>
    intro s
    rw [run_cons, next_lparen, Option.bind_some, run_append, ih ⟨s.depth + 1, false⟩]
    rfl
  | call hname hfirst hmore ihfirst ihmore =>
    intro s
    rw [run_cons, next_ident, Option.bind_some, run_cons, next_lparen, Option.bind_some,
      run_append, run_append, ihfirst ⟨s.depth + 1, false⟩, Option.bind_some,
      run_arguments ihmore (s.depth + 1)]
    rfl

end Expr

end TripletFacts
