import TripletFacts.Expr.Error
import TripletFacts.Proofs.Expr.Derivation

/-!
# The reader accepts the grammar

What the readers of the rules read is what the grammar derives. A reader takes as many tokens as it
can, so the converse needs that the phrase ends where the derivation ends: after it stands no
operator that would go on with it.

## Main definitions

* `Expr.Yields`: a result is a reading of a tree that leaves some tokens.
* `Expr.Rules.reader`, `Expr.innerAt`: the reader of a nonterminal, and the readers one level
  deeper.
* `Expr.Sound`, `Expr.Complete`: what a reader takes is derived, and a phrase is read.
* `Expr.Denotes`: the grammar derives a tree from a text.

## Main results

* `Expr.sound_reader`, `Expr.Derives.complete`: readers and derivations of every nonterminal.
* `Expr.ofTokens_eq_ok_iff`: whole lists of tokens.
* `Expr.parse_eq_ok_iff`: whole texts.
-/

namespace TripletFacts.Expr

/-! ### Readings -/

/-- The tokens without their positions. -/
abbrev plain (ts : Tokens) : List Token := ts.map Placed.token

/-- The result is a reading of a tree that leaves some tokens. -/
def Yields {n : Nat} (r : Except SyntaxError (Reading n)) (e : Expr) (rest : Tokens) : Prop :=
  ∃ h, r = .ok ⟨e, rest, h⟩

@[simp] theorem not_yields_error {n : Nat} {err : SyntaxError} {e : Expr} {rest : Tokens} :
    ¬Yields (.error err : Except SyntaxError (Reading n)) e rest := by
  rintro ⟨h, hr⟩
  simp at hr

@[simp] theorem yields_ok_iff {n : Nat} {r : Reading n} {e : Expr} {rest : Tokens} :
    Yields (.ok r) e rest ↔ e = r.expr ∧ rest = r.rest := by
  constructor
  · rintro ⟨h, hr⟩
    simp only [Except.ok.injEq] at hr
    simp [hr]
  · rintro ⟨rfl, rfl⟩
    exact ⟨r.shorter, rfl⟩

/-- The reader of a nonterminal, built from the readers one level deeper. -/
def Rules.reader (inner : Rules) : Nonterminal → Rule
  | .chain .disjunction => disjunctionRule inner
  | .chain .conjunction => conjunctionRule inner
  | .chain .comparison => compareRule inner
  | .chain .sum => sumRule inner
  | .chain .product => productRule inner
  | .negation => negationRule inner
  | .sign => unaryRule inner
  | .power => Expr.power inner
  | .primary => Expr.primary inner

/-- The readers one level below those that may go `n` levels deeper. -/
def innerAt : Nat → Rules
  | 0 => .exhausted
  | n + 1 => rulesAt n

theorem rulesAt_eq_around (n : Nat) : rulesAt n = (innerAt n).around := by
  cases n <;> rfl

theorem disjunction_rulesAt (n : Nat) :
    (rulesAt n).disjunction = (innerAt n).reader (.chain .disjunction) := by
  rw [rulesAt_eq_around]
  rfl

theorem negation_rulesAt (n : Nat) : (rulesAt n).negation = (innerAt n).reader .negation := by
  rw [rulesAt_eq_around]
  rfl

theorem sign_rulesAt (n : Nat) : (rulesAt n).sign = (innerAt n).reader .sign := by
  rw [rulesAt_eq_around]
  rfl

/-- What a reader takes is derived, whatever it leaves. -/
def Sound (D : List Token → Expr → Prop) (rule : Rule) : Prop :=
  ∀ ts e rest, Yields (rule ts) e rest → ∃ us, ts = us ++ rest ∧ D (plain us) e

/-- A phrase is read if the tokens after it end it. -/
def Complete (A : Nonterminal) (ts : List Token) (e : Expr) (rule : Rule) : Prop :=
  ∀ us rest, plain us = ts → Ends A (plain rest) → Yields (rule (us ++ rest)) e rest

/-! ### Signs -/

/-- The operators that the reader of a level looks for. -/
def Level.operator? : Level → Token → Option Operator
  | disjunction => orOperator?
  | conjunction => andOperator?
  | comparison => fun
    | .op (.binary (.compare op)) => some (.compare op)
    | _ => none
  | sum => sumOperator?
  | product => productOperator?

/-- The operators that a reader looks for are those of its level. -/
theorem Level.operator?_eq_some_iff {level : Level} {t : Token} {op : Operator} :
    level.operator? t = some op ↔ level.Joins t op := by
  constructor
  · intro h
    cases level with
    | disjunction =>
      simp only [operator?, orOperator?] at h
      split at h
      · cases h
        exact .sign (by decide)
      · split at h <;> cases h
        rename_i name hname
        subst hname
        exact .word (c := .or) (by decide)
      · cases h
    | conjunction =>
      simp only [operator?, andOperator?] at h
      split at h
      · cases h
        exact .sign (by decide)
      · split at h <;> cases h
        rename_i name hname
        subst hname
        exact .word (c := .and) (by decide)
      · cases h
    | comparison =>
      simp only [operator?] at h
      split at h <;> cases h
      rename_i c
      exact .sign (by cases c <;> decide)
    | sum =>
      simp only [operator?, sumOperator?] at h
      split at h <;> cases h <;> exact .sign (by decide)
    | product =>
      simp only [operator?, productOperator?] at h
      split at h <;> cases h <;> exact .sign (by decide)
  · rintro (@⟨op, h⟩ | @⟨c, h⟩) <;> revert h
    · rcases op with c | a | c
      · cases c <;> cases level <;> decide
      · cases a <;> cases level <;> decide
      · cases c <;> cases level <;> decide
    · cases c <;> cases level <;> decide

/-- After the end of a chain its reader finds no operator. -/
theorem Ends.operator?_eq_none {level : Level} {t : Placed} {rest : Tokens}
    (h : Ends (.chain level) (plain (t :: rest))) : level.operator? t.token = none := by
  rw [Option.eq_none_iff_forall_not_mem]
  intro op hop
  have hjoins := Level.operator?_eq_some_iff.1 hop
  exact Nat.lt_irrefl _ (h t.token _ (by simp) hjoins.strength?)

/-! ### Chains -/

section Chains

variable {operand : Rule} {operator? : Token → Option Operator} {D : List Token → Expr → Prop}

/-- What is read after a first operand are operators with operands. -/
theorem exists_links_of_yields_leftChain (hop : Sound D operand) {left e : Expr} {ts rest : Tokens}
    (h : Yields (leftChain operand operator? left ts) e rest) :
    ∃ us links, ts = us ++ rest ∧ plain us = links.flatMap Link.all ∧
      (∀ l ∈ links, operator? l.sign = some l.op) ∧ (∀ l ∈ links, D l.tokens l.expr) ∧
      e = leftNested left links := by
  fun_induction leftChain operand operator? left ts generalizing e rest with
  | case1 left =>
    obtain ⟨rfl, rfl⟩ := yields_ok_iff.1 h
    exact ⟨[], [], by simp [leftNested]⟩
  | case2 left t ts ht =>
    obtain ⟨rfl, rfl⟩ := yields_ok_iff.1 h
    exact ⟨[], [], by simp [leftNested]⟩
  | case3 left t ts op ht err hr => exact absurd h not_yields_error
  | case4 left t ts op ht r hr hlt err hchain ih => exact absurd h not_yields_error
  | case5 left t ts op ht r hr hlt r' hchain ih =>
    obtain ⟨rfl, rfl⟩ := yields_ok_iff.1 h
    obtain ⟨x, mid, hlt'⟩ := r
    obtain ⟨us, rfl, hus⟩ := hop ts x mid ⟨hlt', hr⟩
    obtain ⟨vs, links, hvs, hplain, hsign, hlink, he⟩ := ih ⟨r'.shorter, hchain⟩
    refine ⟨t :: us ++ vs, ⟨⟨plain us, x⟩, t.token, op⟩ :: links, ?_, ?_, ?_, ?_, ?_⟩
    · simpa [Reading.weaken] using hvs
    · simp [Link.all, hplain]
    · simpa [ht] using hsign
    · simpa [hus] using hlink
    · simpa [Reading.weaken, leftNested] using he

/-- An operand of a chain ends where the next sign stands, or where the chain ends. -/
theorem ends_after_operand {level : Level} {links : List Link} {us rest : Tokens}
    (hplain : plain us = links.flatMap Link.all)
    (hsign : ∀ l ∈ links, level.operator? l.sign = some l.op)
    (hend : Ends (.chain level) (plain rest)) : Ends level.operand (plain (us ++ rest)) := by
  cases links with
  | nil =>
    obtain rfl : us = [] := by simpa using hplain
    exact hend.operand
  | cons l links =>
    have hl := Level.operator?_eq_some_iff.1 (hsign l (by simp))
    have : plain (us ++ rest) = l.sign :: (l.tokens ++ links.flatMap Link.all ++ plain rest) := by
      simp [plain, hplain, Link.all]
    exact this ▸ hl.ends

/-- Operators with operands are read up to the end of the chain. -/
theorem yields_leftChain {level : Level} {links : List Link} (left : Expr) {us rest : Tokens}
    (hplain : plain us = links.flatMap Link.all)
    (hsign : ∀ l ∈ links, level.operator? l.sign = some l.op)
    (hlink : ∀ l ∈ links, Complete level.operand l.tokens l.expr operand)
    (hend : Ends (.chain level) (plain rest)) :
    Yields (leftChain operand level.operator? left (us ++ rest)) (leftNested left links) rest := by
  induction links generalizing left us with
  | nil =>
    obtain rfl : us = [] := by simpa using hplain
    cases rest with
    | nil => simp [leftChain, leftNested]
    | cons t rest =>
      rw [List.nil_append, leftChain, hend.operator?_eq_none]
      simp [leftNested]
  | cons l links ih =>
    rw [List.flatMap_cons, Link.all, List.cons_append] at hplain
    obtain ⟨t, us, rfl, ht, hus⟩ := List.map_eq_cons_iff.1 hplain
    obtain ⟨vs, ws, rfl, hvs, hws⟩ := List.map_eq_append_iff.1 hus
    simp only [List.mem_cons, forall_eq_or_imp] at hsign hlink
    have hends := ends_after_operand hws hsign.2 hend
    obtain ⟨hlt, hr⟩ := hlink.1 vs (ws ++ rest) hvs hends
    obtain ⟨hlt', hr'⟩ := ih (.binary left l.op l.expr) hws hsign.2 hlink.2
    rw [List.cons_append, List.append_assoc, leftChain, ht, hsign.1]
    simp only [hr, hr', yields_ok_iff, Reading.weaken]
    exact ⟨rfl, trivial⟩

/-- The comparisons of neighbours after those that are already joined. -/
def conjoined (joined : Option Expr) (left : Expr) (links : List Link) : Expr :=
  match joined with
  | none => comparisons left links
  | some e => allOf e (neighbours left links)

theorem conjoined_nil (joined : Option Expr) (left : Expr) :
    conjoined joined left [] = joined.getD left := by
  cases joined <;> rfl

theorem conjoined_cons (joined : Option Expr) (left : Expr) (l : Link) (links : List Link) :
    conjoined joined left (l :: links) =
      conjoined
        (some (match joined with
          | none => .binary left l.op l.expr
          | some e => .binary e (.combine .and) (.binary left l.op l.expr))) l.expr links := by
  cases joined <;> rfl

/-- What is read after a first operand are comparisons with operands. -/
theorem exists_links_of_yields_comparisonChain (hop : Sound D operand) {joined : Option Expr}
    {left e : Expr} {ts rest : Tokens}
    (h : Yields (comparisonChain operand joined left ts) e rest) :
    ∃ us links, ts = us ++ rest ∧ plain us = links.flatMap Link.all ∧
      (∀ l ∈ links, Level.comparison.operator? l.sign = some l.op) ∧
      (∀ l ∈ links, D l.tokens l.expr) ∧ e = conjoined joined left links := by
  fun_induction comparisonChain operand joined left ts generalizing e rest with
  | case1 joined left =>
    obtain ⟨rfl, rfl⟩ := yields_ok_iff.1 h
    exact ⟨[], [], by simp [conjoined_nil]⟩
  | case2 joined left op p ts err hr => exact absurd h not_yields_error
  | case3 joined left op p ts r hr hlt =>
    exact absurd h not_yields_error
  | case4 joined left op p ts r hr hlt c joined' r' =>
    rename_i hchain ih
    obtain ⟨rfl, rfl⟩ := yields_ok_iff.1 h
    obtain ⟨x, mid, hlt'⟩ := r
    obtain ⟨us, rfl, hus⟩ := hop ts x mid ⟨hlt', hr⟩
    obtain ⟨vs, links, hvs, hplain, hsign, hlink, he⟩ := ih ⟨r'.shorter, hchain⟩
    refine ⟨⟨.op (.binary (.compare op)), p⟩ :: us ++ vs,
      ⟨⟨plain us, x⟩, .op (.binary (.compare op)), .compare op⟩ :: links, ?_, ?_, ?_, ?_, ?_⟩
    · simpa [Reading.weaken] using hvs
    · simp [Link.all, hplain]
    · simpa [Level.operator?] using hsign
    · simpa [hus] using hlink
    · rw [conjoined_cons]
      exact he
  | case5 joined left t ts ht =>
    obtain ⟨rfl, rfl⟩ := yields_ok_iff.1 h
    exact ⟨[], [], by simp [conjoined_nil]⟩

/-- Where no operator of comparison stands a chain of comparisons is over. -/
theorem comparisonChain_eq_of_ends {joined : Option Expr} {left : Expr} {rest : Tokens}
    (hend : Ends (.chain .comparison) (plain rest)) :
    Yields (comparisonChain operand joined left rest) (joined.getD left) rest := by
  cases rest with
  | nil => simp [comparisonChain]
  | cons t rest =>
    have ht := hend.operator?_eq_none
    rw [comparisonChain]
    · simp
    · rintro op p rfl
      simp [Level.operator?] at ht

/-- Comparisons with operands are read up to the end of the chain. -/
theorem yields_comparisonChain {links : List Link} (joined : Option Expr) (left : Expr)
    {us rest : Tokens} (hplain : plain us = links.flatMap Link.all)
    (hsign : ∀ l ∈ links, Level.comparison.operator? l.sign = some l.op)
    (hlink : ∀ l ∈ links, Complete (.chain .sum) l.tokens l.expr operand)
    (hend : Ends (.chain .comparison) (plain rest)) :
    Yields (comparisonChain operand joined left (us ++ rest)) (conjoined joined left links)
      rest := by
  induction links generalizing joined left us with
  | nil =>
    obtain rfl : us = [] := by simpa using hplain
    rw [conjoined_nil]
    exact comparisonChain_eq_of_ends hend
  | cons l links ih =>
    rw [List.flatMap_cons, Link.all, List.cons_append] at hplain
    obtain ⟨t, us, rfl, ht, hus⟩ := List.map_eq_cons_iff.1 hplain
    obtain ⟨vs, ws, rfl, hvs, hws⟩ := List.map_eq_append_iff.1 hus
    simp only [List.mem_cons, forall_eq_or_imp] at hsign hlink
    have hends : Ends (.chain .sum) _ := ends_after_operand hws hsign.2 hend
    obtain ⟨hlt, hr⟩ := hlink.1 vs (ws ++ rest) hvs hends
    obtain ⟨op, hop, hlop⟩ : ∃ op, t.token = .op (.binary (.compare op)) ∧ l.op = .compare op := by
      have := hsign.1
      simp only [Level.operator?] at this
      split at this
      · rename_i op hop
        exact ⟨op, ht ▸ hop, by simpa using this.symm⟩
      · cases this
    obtain ⟨t, p⟩ := t
    subst hop
    obtain ⟨hlt', hr'⟩ := ih
      (some (match joined with
        | none => .binary left l.op l.expr
        | some e => .binary e (.combine .and) (.binary left l.op l.expr)))
      l.expr hws hsign.2 hlink.2
    rw [List.cons_append, List.append_assoc, comparisonChain, conjoined_cons]
    simp only [hlop] at hr' ⊢
    cases joined <;> simp [hr, hr', Reading.weaken]

end Chains

/-! ### Arguments -/

section Arguments

variable {inner : Rules} {D : List Token → Expr → Prop}

/-- What is read after the opening parenthesis of a call are arguments with commas between them and
the closing parenthesis. -/
theorem exists_operands_of_arguments (hinner : Sound D inner.disjunction) {ts : Tokens}
    {es : List Expr} {rest : { rest : Tokens // rest.length < ts.length }}
    (h : arguments inner ts = .ok (es, rest)) :
    ∃ us, ∃ first : Operand, ∃ more : List Operand, ts = us ++ rest ∧
      plain us = first.tokens ++ more.flatMap (fun a => .comma :: a.tokens) ++ [.rparen] ∧
      D first.tokens first.expr ∧ (∀ a ∈ more, D a.tokens a.expr) ∧
      es = first.expr :: more.map Operand.expr := by
  fun_induction arguments inner ts generalizing es with
  | case1 ts err hr => cases h
  | case2 ts e hlt hr => cases h
  | case3 ts e p rest hlt hr hrest err hmore ih => cases h
  | case4 ts e p mid _ es rest' hlt' hmore hlt hr hrest =>
    rename_i ih
    cases h
    obtain ⟨us, hts, hus⟩ := hinner ts e _ ⟨hlt, hr⟩
    obtain ⟨vs, first, more, hvs, hplain, hfirst, hall, rfl⟩ := ih hmore
    refine ⟨us ++ ⟨.comma, p⟩ :: vs, ⟨plain us, e⟩, first :: more, ?_, ?_, hus, ?_, rfl⟩
    · simpa [hvs] using hts
    · simp [hplain]
    · simpa [hfirst] using hall
  | case5 ts e p rest _ hlt hr =>
    cases h
    obtain ⟨us, hts, hus⟩ := hinner ts e _ ⟨hlt, hr⟩
    refine ⟨us ++ [⟨.rparen, p⟩], ⟨plain us, e⟩, [], ?_, ?_, hus, ?_, rfl⟩
    · simpa using hts
    · simp
    · simp
  | case6 => cases h

/-- Arguments with commas between them are read up to the closing parenthesis. -/
theorem arguments_eq_ok {first : Operand} {more : List Operand} {us : Tokens} (rest : Tokens)
    (hplain : plain us =
      first.tokens ++ more.flatMap (fun a => .comma :: a.tokens) ++ [.rparen])
    (hfirst : Complete (.chain .disjunction) first.tokens first.expr inner.disjunction)
    (hmore : ∀ a ∈ more, Complete (.chain .disjunction) a.tokens a.expr inner.disjunction) :
    ∃ h, arguments inner (us ++ rest) = .ok (first.expr :: more.map Operand.expr, ⟨rest, h⟩) := by
  induction more generalizing first us with
  | nil =>
    obtain ⟨vs, ws, rfl, hvs, hws⟩ := List.map_eq_append_iff.1 (by simpa using hplain)
    obtain ⟨⟨t, p⟩, rfl, rfl⟩ := List.map_eq_singleton_iff.1 hws
    obtain ⟨hlt, hr⟩ := hfirst vs (⟨.rparen, p⟩ :: rest) hvs (ends_of_strength?_eq_none rfl)
    rw [List.append_assoc, List.singleton_append, arguments]
    exact ⟨by simp; omega, by simp [hr]⟩
  | cons a more ih =>
    rw [List.flatMap_cons, List.append_assoc, List.append_assoc] at hplain
    obtain ⟨vs, ws, rfl, hvs, hws⟩ := List.map_eq_append_iff.1 hplain
    obtain ⟨⟨t, p⟩, ws, rfl, rfl, hws⟩ := List.map_eq_cons_iff.1 hws
    simp only [List.mem_cons, forall_eq_or_imp] at hmore
    obtain ⟨hlt, hr⟩ := hfirst vs (⟨.comma, p⟩ :: (ws ++ rest)) hvs
      (ends_of_strength?_eq_none rfl)
    obtain ⟨hlt', hr'⟩ := ih (by simpa using hws) hmore.1 hmore.2
    rw [List.append_assoc, List.cons_append, arguments]
    exact ⟨by simp; omega, by simp [hr, hr']⟩

end Arguments

/-! ### Soundness -/

/-- What is derived one level deeper. -/
def Nested (n : Nat) (A : Nonterminal) (ts : List Token) (e : Expr) : Prop :=
  ∃ m, n = m + 1 ∧ Derives m A ts e

/-- What the readers one level deeper take is derived there. -/
structure Rules.Sound (inner : Rules) (n : Nat) : Prop where
  disjunction : Expr.Sound (Nested n (.chain .disjunction)) inner.disjunction
  negation : Expr.Sound (Nested n .negation) inner.negation
  sign : Expr.Sound (Nested n .sign) inner.sign

section Soundness

variable {inner : Rules} {n : Nat}

theorem sound_primary (hinner : inner.Sound n) :
    Sound (Derives n .primary) (Expr.primary inner) := by
  intro ts e rest h
  unfold Expr.primary at h
  split at h
  · exact absurd h not_yields_error
  · obtain ⟨rfl, rfl⟩ := yields_ok_iff.1 h
    exact ⟨[_], rfl, .number _⟩
  · obtain ⟨rfl, rfl⟩ := yields_ok_iff.1 h
    exact ⟨[_], rfl, .str _⟩
  · split at h
    · exact absurd h not_yields_error
    · exact absurd h not_yields_error
    · rename_i p ts _ e' q rest' hlt hr
      obtain ⟨rfl, rfl⟩ := yields_ok_iff.1 h
      obtain ⟨us, rfl, m, rfl, hus⟩ := hinner.disjunction ts _ _ ⟨hlt, hr⟩
      refine ⟨⟨.lparen, p⟩ :: (us ++ [⟨.rparen, q⟩]), by simp, ?_⟩
      simpa using Derives.group hus
    · exact absurd h not_yields_error
  · rename_i name p ts
    split at h
    · rename_i hname
      obtain ⟨rfl, rfl⟩ := yields_ok_iff.1 h
      exact ⟨[_], rfl, .constant (by simp [constant?, hname])⟩
    · rename_i htrue
      split at h
      · rename_i hname
        obtain ⟨rfl, rfl⟩ := yields_ok_iff.1 h
        exact ⟨[_], rfl, .constant (by simp [constant?, htrue, hname])⟩
      · rename_i hfalse
        have hname : constant? name = none := by simp [constant?, htrue, hfalse]
        split at h
        · obtain ⟨rfl, rfl⟩ := yields_ok_iff.1 h
          exact ⟨[_, _, _], rfl, .emptyCall hname⟩
        · split at h
          · exact absurd h not_yields_error
          · rename_i q ts _ _ args rest' hlt hargs
            obtain ⟨rfl, rfl⟩ := yields_ok_iff.1 h
            obtain ⟨us, first, more, hts, hplain, ⟨m, rfl, hfirst⟩, hmore, rfl⟩ :=
              exists_operands_of_arguments hinner.disjunction hargs
            refine ⟨⟨.ident name, p⟩ :: ⟨.lparen, q⟩ :: us, by simpa using hts, ?_⟩
            have hmore : ∀ a ∈ more, Derives m (.chain .disjunction) a.tokens a.expr := by
              intro a ha
              obtain ⟨m', hm', ha'⟩ := hmore a ha
              obtain rfl : m = m' := by omega
              exact ha'
            have := Derives.call hname hfirst hmore
            simpa [hplain] using this
        · exact absurd h not_yields_error
  · exact absurd h not_yields_error

theorem sound_power (hinner : inner.Sound n) : Sound (Derives n .power) (Expr.power inner) := by
  intro ts e rest h
  unfold Expr.power at h
  split at h
  · exact absurd h not_yields_error
  · rename_i base p mid hlt hr
    obtain ⟨us, rfl, hus⟩ := sound_primary hinner ts base _ ⟨hlt, hr⟩
    split at h
    · exact absurd h not_yields_error
    · rename_i r hr'
      obtain ⟨rfl, rfl⟩ := yields_ok_iff.1 h
      obtain ⟨vs, hvs, m, rfl, hv⟩ := hinner.sign mid r.expr r.rest ⟨r.shorter, hr'⟩
      refine ⟨us ++ ⟨.op (.binary (.compute .pow)), p⟩ :: vs, by simpa using hvs, ?_⟩
      simpa using Derives.power hus hv
  · rename_i r _ hr
    obtain ⟨rfl, rfl⟩ := yields_ok_iff.1 h
    obtain ⟨us, hts, hus⟩ := sound_primary hinner ts r.expr r.rest ⟨r.shorter, hr⟩
    exact ⟨us, hts, .base hus⟩

/-- The signs are those in front of an operand of the rule `unary`. -/
theorem signOf?_eq_some_iff {t : Token} {op : UnaryOperator} :
    signOf? t = some op ↔ Precedes .sign t op := by
  constructor
  · intro h
    unfold signOf? at h
    split at h <;> cases h
    · exact .minus
    · exact .plus
  · rintro (_ | _) <;> rfl

theorem sound_unaryRule (hinner : inner.Sound n) : Sound (Derives n .sign) (unaryRule inner) := by
  intro ts e rest h
  unfold unaryRule at h
  split at h
  · obtain ⟨us, hts, hus⟩ := sound_power hinner [] e rest h
    exact ⟨us, hts, .unsigned hus⟩
  · rename_i t ts
    split at h
    · obtain ⟨us, hts, hus⟩ := sound_power hinner (t :: ts) e rest h
      exact ⟨us, hts, .unsigned hus⟩
    · rename_i op hop
      split at h
      · exact absurd h not_yields_error
      · rename_i r hr
        obtain ⟨rfl, rfl⟩ := yields_ok_iff.1 h
        obtain ⟨us, hts, m, rfl, hus⟩ := hinner.sign ts r.expr r.rest ⟨r.shorter, hr⟩
        exact ⟨t :: us, by simpa using hts, .unary (signOf?_eq_some_iff.1 hop) hus⟩

theorem sound_chainRule (level : Level) {operand : Rule} (hlevel : level.result = leftNested)
    (hop : Sound (Derives n level.operand) operand) :
    Sound (Derives n (.chain level)) (chainRule operand level.operator?) := by
  intro ts e rest h
  unfold chainRule at h
  split at h
  · exact absurd h not_yields_error
  · rename_i r hr
    split at h
    · exact absurd h not_yields_error
    · rename_i r' hr'
      obtain ⟨rfl, rfl⟩ := yields_ok_iff.1 h
      obtain ⟨us, hts, hus⟩ := hop ts r.expr r.rest ⟨r.shorter, hr⟩
      obtain ⟨vs, links, hvs, hplain, hsign, hlink, he⟩ :=
        exists_links_of_yields_leftChain hop ⟨r'.shorter, hr'⟩
      refine ⟨us ++ vs, ?_, ?_⟩
      · rw [List.append_assoc]
        exact hts.trans (congrArg (us ++ ·) hvs)
      · have := @Derives.chain n level ⟨plain us, r.expr⟩ links hus
          (fun l hl => Level.operator?_eq_some_iff.1 (hsign l hl)) hlink
        simpa [hlevel, hplain, he, Reading.weaken] using this

theorem sound_compareRule
    (hop : Sound (Derives n (.chain .sum)) (sumRule inner)) :
    Sound (Derives n (.chain .comparison)) (compareRule inner) := by
  intro ts e rest h
  unfold compareRule at h
  split at h
  · exact absurd h not_yields_error
  · rename_i r hr
    split at h
    · exact absurd h not_yields_error
    · rename_i r' hr'
      obtain ⟨rfl, rfl⟩ := yields_ok_iff.1 h
      obtain ⟨us, hts, hus⟩ := hop ts r.expr r.rest ⟨r.shorter, hr⟩
      obtain ⟨vs, links, hvs, hplain, hsign, hlink, he⟩ :=
        exists_links_of_yields_comparisonChain hop ⟨r'.shorter, hr'⟩
      refine ⟨us ++ vs, ?_, ?_⟩
      · rw [List.append_assoc]
        exact hts.trans (congrArg (us ++ ·) hvs)
      · have := @Derives.chain n .comparison ⟨plain us, r.expr⟩ links hus
          (fun l hl => Level.operator?_eq_some_iff.1 (hsign l hl)) hlink
        simpa [hplain, he, Reading.weaken, conjoined, Level.result] using this

/-- The negations are the tokens in front of an operand of the rule `not`. -/
theorem isNegation_eq_true_iff {t : Token} : isNegation t = true ↔ Precedes .negation t .not := by
  constructor
  · intro h
    unfold isNegation at h
    split at h
    · exact .bang
    · rw [beq_iff_eq] at h
      exact h ▸ .word
    · cases h
  · rintro (_ | _) <;> rfl

theorem sound_negationRule (hinner : inner.Sound n)
    (hop : Sound (Derives n (.chain .comparison)) (compareRule inner)) :
    Sound (Derives n .negation) (negationRule inner) := by
  intro ts e rest h
  unfold negationRule at h
  split at h
  · obtain ⟨us, hts, hus⟩ := hop [] e rest h
    obtain ⟨rfl, -⟩ := List.nil_eq_append_iff.1 hts
    exact ⟨[], hts, .unnegated hus (by simp)⟩
  · rename_i t ts
    split at h
    · rename_i hnot
      split at h
      · exact absurd h not_yields_error
      · rename_i r hr
        obtain ⟨rfl, rfl⟩ := yields_ok_iff.1 h
        obtain ⟨us, hts, m, rfl, hus⟩ := hinner.negation ts r.expr r.rest ⟨r.shorter, hr⟩
        exact ⟨t :: us, by simpa using hts, .unary (isNegation_eq_true_iff.1 hnot) hus⟩
    · rename_i hnot
      obtain ⟨us, hts, hus⟩ := hop (t :: ts) e rest h
      refine ⟨us, hts, .unnegated hus ?_⟩
      intro hhead
      cases us with
      | nil => simp at hhead
      | cons u us =>
        obtain ⟨rfl, -⟩ := List.cons_eq_cons.1 hts
        have ht : t.token = .ident "not" := by simpa using hhead
        exact hnot (isNegation_eq_true_iff.2 (ht ▸ .word))

/-- What the reader of a nonterminal takes is derived from it. -/
theorem Rules.Sound.reader (hinner : inner.Sound n)
    (A : Nonterminal) : Expr.Sound (Derives n A) (inner.reader A) := by
  have hproduct := sound_chainRule .product rfl (sound_unaryRule hinner)
  have hsum := sound_chainRule .sum rfl hproduct
  have hcomparison := sound_compareRule hsum
  have hnegation := sound_negationRule hinner hcomparison
  have hconjunction := sound_chainRule .conjunction rfl hnegation
  cases A with
  | chain level =>
    cases level with
    | disjunction => exact sound_chainRule .disjunction rfl hconjunction
    | conjunction => exact hconjunction
    | comparison => exact hcomparison
    | sum => exact hsum
    | product => exact hproduct
  | negation => exact hnegation
  | sign => exact sound_unaryRule hinner
  | power => exact sound_power hinner
  | primary => exact sound_primary hinner

theorem sound_exhausted : Rules.exhausted.Sound 0 where
  disjunction := fun _ _ _ h => absurd h not_yields_error
  negation := fun _ _ _ h => absurd h not_yields_error
  sign := fun _ _ _ h => absurd h not_yields_error

/-- The readers one level deeper take what is derived there. -/
theorem sound_innerAt : (n : Nat) → (innerAt n).Sound n
  | 0 => sound_exhausted
  | n + 1 => by
    have nested {A : Nonterminal} {rule : Rule} (h : Sound (Derives n A) rule) :
        Sound (Nested (n + 1) A) rule := by
      intro ts e rest hr
      obtain ⟨us, hts, hus⟩ := h ts e rest hr
      exact ⟨us, hts, n, rfl, hus⟩
    refine ⟨nested ?_, nested ?_, nested ?_⟩
    · exact disjunction_rulesAt n ▸ (sound_innerAt n).reader _
    · exact negation_rulesAt n ▸ (sound_innerAt n).reader _
    · exact sign_rulesAt n ▸ (sound_innerAt n).reader _

/-- What a reader takes is derived. -/
theorem sound_reader (n : Nat) (A : Nonterminal) : Sound (Derives n A) ((innerAt n).reader A) :=
  (sound_innerAt n).reader A

end Soundness

/-! ### Completeness -/

/-- The tokens that a phrase may begin with. -/
def Nonterminal.Opens : Nonterminal → Token → Prop
  | chain .disjunction, t | chain .conjunction, t | negation, t => t ≠ .rparen
  | chain _, t | sign, t => t ≠ .rparen ∧ t ≠ .op .bang
  | power, t | primary, t => t ≠ .rparen ∧ t ≠ .op .bang ∧ signOf? t = none

theorem Nonterminal.Opens.ne_rparen {A : Nonterminal} {t : Token} (h : A.Opens t) :
    t ≠ .rparen := by
  cases A with
  | chain level =>
    cases level with
    | disjunction | conjunction => exact h
    | comparison | sum | product => exact h.1
  | negation => exact h
  | sign | power | primary => exact h.1

theorem Nonterminal.Opens.chain {level : Level} {t : Token} (h : level.operand.Opens t) :
    (Nonterminal.chain level).Opens t := by
  cases level with
  | disjunction | conjunction => exact h.ne_rparen
  | comparison | sum | product => exact h

/-- A phrase begins with a token that it may begin with. -/
theorem Derives.exists_cons {n : Nat} {A : Nonterminal} {ts : List Token} {e : Expr}
    (h : Derives n A ts e) : ∃ t us, ts = t :: us ∧ A.Opens t := by
  induction h with
  | chain hfirst hsign hlink ih =>
    obtain ⟨t, us, ht, hopens⟩ := ih
    exact ⟨t, _, by rw [ht, List.cons_append], hopens.chain⟩
  | unary ht =>
    refine ⟨_, _, rfl, ?_⟩
    cases ht with
    | bang | word => simp [Nonterminal.Opens]
    | minus | plus => simp [Nonterminal.Opens]
  | unnegated h hnot ih =>
    obtain ⟨t, us, ht, hopens⟩ := ih
    exact ⟨t, us, ht, hopens.ne_rparen⟩
  | unsigned h ih =>
    obtain ⟨t, us, ht, hparen, hbang, -⟩ := ih
    exact ⟨t, us, ht, hparen, hbang⟩
  | base h ih => exact ih
  | power hbase hexponent ih =>
    obtain ⟨t, us, ht, hopens⟩ := ih
    exact ⟨t, _, by rw [ht, List.cons_append], hopens⟩
  | number | str | constant | group | emptyCall | call =>
    exact ⟨_, _, rfl, by simp, by simp, rfl⟩

section Completeness

variable {inner : Rules}

theorem complete_chainRule {level : Level} {operand : Rule} {first : Operand} {links : List Link}
    (hlevel : level.result = leftNested)
    (hfirst : Complete level.operand first.tokens first.expr operand)
    (hsign : ∀ l ∈ links, level.Joins l.sign l.op)
    (hlink : ∀ l ∈ links, Complete level.operand l.tokens l.expr operand) :
    Complete (.chain level) (first.tokens ++ links.flatMap Link.all)
      (level.result first.expr links) (chainRule operand level.operator?) := by
  intro us rest hplain hend
  obtain ⟨vs, ws, rfl, hvs, hws⟩ := List.map_eq_append_iff.1 hplain
  have hop : ∀ l ∈ links, level.operator? l.sign = some l.op :=
    fun l hl => Level.operator?_eq_some_iff.2 (hsign l hl)
  obtain ⟨hlt, hr⟩ := hfirst vs (ws ++ rest) hvs (ends_after_operand hws hop hend)
  obtain ⟨hlt', hr'⟩ := yields_leftChain first.expr hws hop hlink hend
  rw [List.append_assoc, chainRule, hlevel]
  simp [hr, hr', Reading.weaken]

theorem complete_compareRule {first : Operand} {links : List Link}
    (hfirst : Complete (.chain .sum) first.tokens first.expr (sumRule inner))
    (hsign : ∀ l ∈ links, Level.comparison.Joins l.sign l.op)
    (hlink : ∀ l ∈ links, Complete (.chain .sum) l.tokens l.expr (sumRule inner)) :
    Complete (.chain .comparison) (first.tokens ++ links.flatMap Link.all)
      (comparisons first.expr links) (compareRule inner) := by
  intro us rest hplain hend
  obtain ⟨vs, ws, rfl, hvs, hws⟩ := List.map_eq_append_iff.1 hplain
  have hop : ∀ l ∈ links, Level.comparison.operator? l.sign = some l.op :=
    fun l hl => Level.operator?_eq_some_iff.2 (hsign l hl)
  obtain ⟨hlt, hr⟩ := hfirst vs (ws ++ rest) hvs (ends_after_operand hws hop hend)
  obtain ⟨hlt', hr'⟩ :=
    yields_comparisonChain none first.expr hws hop hlink hend
  rw [List.append_assoc, compareRule]
  simp [hr, hr', Reading.weaken, conjoined]

/-- The operand of a prefix operator is read one level deeper. -/
theorem complete_unary {n : Nat} {A : Nonterminal} {t : Token} {op : UnaryOperator}
    {ts : List Token} {e : Expr} (ht : Precedes A t op)
    (h : Complete A ts e ((innerAt n).reader A)) :
    Complete A (t :: ts) (.unary op e) ((innerAt (n + 1)).reader A) := by
  intro us rest hplain hend
  obtain ⟨⟨t, p⟩, us, rfl, rfl, hus⟩ := List.map_eq_cons_iff.1 hplain
  obtain ⟨hlt, hr⟩ := h us rest hus hend
  cases ht with
  | bang | word =>
    rw [← negation_rulesAt] at hr
    simp [Rules.reader, negationRule, isNegation, innerAt, hr]
  | minus | plus =>
    rw [← sign_rulesAt] at hr
    simp [Rules.reader, unaryRule, signOf?, innerAt, hr]

theorem complete_unnegated {t : Token} {ts : List Token} {e : Expr} (hbang : t ≠ .op .bang)
    (hnot : t ≠ .ident "not") (h : Complete (.chain .comparison) (t :: ts) e (compareRule inner)) :
    Complete .negation (t :: ts) e (negationRule inner) := by
  intro us rest hplain hend
  have hr := h us rest hplain hend
  obtain ⟨⟨t, p⟩, us, rfl, rfl, -⟩ := List.map_eq_cons_iff.1 hplain
  have hsign : isNegation t ≠ true := by
    intro h
    cases isNegation_eq_true_iff.1 h with
    | bang => exact hbang rfl
    | word => exact hnot rfl
  simpa [negationRule, hsign] using hr

theorem complete_unsigned {t : Token} {ts : List Token} {e : Expr} (ht : signOf? t = none)
    (h : Complete .power (t :: ts) e (Expr.power inner)) :
    Complete .sign (t :: ts) e (unaryRule inner) := by
  intro us rest hplain hend
  have hr := h us rest hplain hend
  obtain ⟨⟨t, p⟩, us, rfl, rfl, -⟩ := List.map_eq_cons_iff.1 hplain
  simpa [unaryRule, ht] using hr

theorem complete_base {ts : List Token} {e : Expr}
    (h : Complete .primary ts e (Expr.primary inner)) :
    Complete .power ts e (Expr.power inner) := by
  intro us rest hplain hend
  obtain ⟨hlt, hr⟩ := h us rest hplain (hend.mono (by decide))
  unfold Expr.power
  rw [hr]
  split
  · rename_i heq
    cases heq
  · rename_i heq
    cases heq
    exact absurd (hend (.op (.binary (.compute .pow))) 6 rfl rfl) (by decide)
  · rename_i heq
    cases heq
    simp

theorem complete_power {n : Nat} {ts us : List Token} {e x : Expr}
    (hbase : Complete .primary ts e ((innerAt (n + 1)).reader .primary))
    (hexponent : Complete .sign us x ((innerAt n).reader .sign)) :
    Complete .power (ts ++ .op (.binary (.compute .pow)) :: us) (.binary e (.compute .pow) x)
      ((innerAt (n + 1)).reader .power) := by
  intro vs rest hplain hend
  obtain ⟨vs, ws, rfl, hvs, hws⟩ := List.map_eq_append_iff.1 hplain
  obtain ⟨⟨t, p⟩, ws, rfl, rfl, hexp⟩ := List.map_eq_cons_iff.1 hws
  obtain ⟨hlt, hr⟩ := hbase vs (⟨.op (.binary (.compute .pow)), p⟩ :: (ws ++ rest)) hvs
    (by
      intro t k ht hk
      cases ht
      cases hk
      decide)
  obtain ⟨hlt', hr'⟩ := hexponent ws rest hexp hend
  rw [← sign_rulesAt] at hr'
  simp only [Rules.reader, innerAt] at hr
  rw [List.append_assoc, List.cons_append]
  simp [Rules.reader, Expr.power, innerAt, hr, hr']

theorem complete_group {n : Nat} {ts : List Token} {e : Expr}
    (h : Complete (.chain .disjunction) ts e ((innerAt n).reader (.chain .disjunction))) :
    Complete .primary (.lparen :: (ts ++ [.rparen])) e ((innerAt (n + 1)).reader .primary) := by
  intro us rest hplain hend
  obtain ⟨⟨t, p⟩, us, rfl, rfl, hus⟩ := List.map_eq_cons_iff.1 hplain
  obtain ⟨vs, ws, rfl, hvs, hws⟩ := List.map_eq_append_iff.1 hus
  obtain ⟨⟨t, q⟩, rfl, rfl⟩ := List.map_eq_singleton_iff.1 hws
  obtain ⟨hlt, hr⟩ := h vs (⟨.rparen, q⟩ :: rest) hvs (ends_of_strength?_eq_none rfl)
  rw [← disjunction_rulesAt] at hr
  rw [List.cons_append, List.append_assoc, List.singleton_append]
  simp [Rules.reader, Expr.primary, innerAt, hr]

/-- Names that stand for no truth value are read as names of calls. -/
theorem ne_of_constant?_eq_none {name : String} (h : constant? name = none) :
    ¬(name = "True" ∨ name = "true") ∧ ¬(name = "False" ∨ name = "false") := by
  unfold constant? at h
  split at h
  · cases h
  · split at h
    · cases h
    · exact ⟨‹_›, ‹_›⟩

theorem complete_emptyCall {name : String} (h : constant? name = none) :
    Complete .primary [.ident name, .lparen, .rparen] (.call name []) (Expr.primary inner) := by
  intro us rest hplain hend
  obtain ⟨⟨t, p⟩, us, rfl, rfl, hus⟩ := List.map_eq_cons_iff.1 hplain
  obtain ⟨⟨t, q⟩, us, rfl, rfl, hclose⟩ := List.map_eq_cons_iff.1 hus
  obtain ⟨⟨t, r⟩, rfl, rfl⟩ := List.map_eq_singleton_iff.1 hclose
  obtain ⟨htrue, hfalse⟩ := ne_of_constant?_eq_none h
  simp [Expr.primary, htrue, hfalse]

theorem complete_call {n : Nat} {name : String} {first : Operand} {more : List Operand}
    (h : constant? name = none)
    (hfirst : Complete (.chain .disjunction) first.tokens first.expr
      ((innerAt n).reader (.chain .disjunction)))
    (hmore : ∀ a ∈ more, Complete (.chain .disjunction) a.tokens a.expr
      ((innerAt n).reader (.chain .disjunction)))
    {t : Token} {ts : List Token} (hts : first.tokens = t :: ts) (ht : t ≠ .rparen) :
    Complete .primary
      (.ident name :: .lparen ::
        (first.tokens ++ more.flatMap (fun a => .comma :: a.tokens) ++ [.rparen]))
      (.call name (first.expr :: more.map Operand.expr))
      ((innerAt (n + 1)).reader .primary) := by
  intro us rest hplain hend
  obtain ⟨⟨t, p⟩, us, rfl, rfl, hus⟩ := List.map_eq_cons_iff.1 hplain
  obtain ⟨⟨t, q⟩, us, rfl, rfl, hargs⟩ := List.map_eq_cons_iff.1 hus
  rw [← disjunction_rulesAt] at hfirst hmore
  obtain ⟨hlt, hr⟩ := arguments_eq_ok rest hargs hfirst hmore
  obtain ⟨htrue, hfalse⟩ := ne_of_constant?_eq_none h
  rw [hts] at hargs
  obtain ⟨⟨t, r⟩, us, rfl, rfl, -⟩ := List.map_eq_cons_iff.1 hargs
  simp only [List.cons_append] at hr
  simp [Rules.reader, Expr.primary, innerAt, htrue, hfalse, hr, ht]

/-- A phrase is read by the reader of its nonterminal. -/
theorem Derives.complete {n : Nat} {A : Nonterminal} {ts : List Token} {e : Expr}
    (h : Derives n A ts e) : Complete A ts e ((innerAt n).reader A) := by
  induction h with
  | @chain n level first links hfirst hsign hlink ihfirst ihlink =>
    cases level with
    | disjunction | conjunction | sum | product =>
      exact complete_chainRule rfl ihfirst hsign ihlink
    | comparison => exact complete_compareRule ihfirst hsign ihlink
  | unary ht h ih => exact complete_unary ht ih
  | unnegated h hnot ih =>
    obtain ⟨t, us, rfl, hopens⟩ := h.exists_cons
    exact complete_unnegated hopens.2 (by simpa using hnot) ih
  | unsigned h ih =>
    obtain ⟨t, us, rfl, hopens⟩ := h.exists_cons
    exact complete_unsigned hopens.2.2 ih
  | base h ih => exact complete_base ih
  | power hbase hexponent ihbase ihexponent => exact complete_power ihbase ihexponent
  | number x =>
    intro us rest hplain hend
    obtain ⟨⟨t, p⟩, rfl, rfl⟩ := List.map_eq_singleton_iff.1 hplain
    simp [Rules.reader, Expr.primary]
  | str s =>
    intro us rest hplain hend
    obtain ⟨⟨t, p⟩, rfl, rfl⟩ := List.map_eq_singleton_iff.1 hplain
    simp [Rules.reader, Expr.primary]
  | @constant n name b hname =>
    intro us rest hplain hend
    obtain ⟨⟨t, p⟩, rfl, rfl⟩ := List.map_eq_singleton_iff.1 hplain
    unfold constant? at hname
    split at hname
    · cases hname
      simp [Rules.reader, Expr.primary, *]
    · split at hname <;> cases hname
      simp [Rules.reader, Expr.primary, *]
  | group h ih => exact complete_group ih
  | emptyCall hname => exact complete_emptyCall hname
  | call hname hfirst hmore ihfirst ihmore =>
    obtain ⟨t, us, hts, hopens⟩ := hfirst.exists_cons
    exact complete_call hname ihfirst ihmore hts hopens.ne_rparen

end Completeness

/-! ### Whole texts -/

/-- A list of tokens that is not too long is an expression if the grammar derives it. -/
theorem ofTokens_eq_ok_iff {ts : Tokens} {e : Expr} :
    ofTokens ts = .ok e ↔
      ts.length ≤ maxTokens ∧ Derives maxDepth (.chain .disjunction) (plain ts) e := by
  unfold ofTokens
  split
  · rename_i t ht
    obtain ⟨hlt, -⟩ := List.getElem?_eq_some_iff.1 ht
    simp [Nat.not_le.2 hlt]
  · rename_i hlen
    rw [List.getElem?_eq_none_iff] at hlen
    rw [disjunction_rulesAt]
    constructor
    · intro h
      split at h
      · cases h
      · rename_i hlt hr
        cases h
        obtain ⟨us, rfl, hus⟩ := sound_reader maxDepth (.chain .disjunction) ts e [] ⟨hlt, hr⟩
        exact ⟨hlen, by simpa using hus⟩
      · cases h
    · rintro ⟨-, h⟩
      obtain ⟨hlt, hr⟩ := List.append_nil ts ▸ h.complete ts [] rfl (ends_nil _)
      rw [hr]

/-- A text of blanks has no tokens. -/
theorem tokensFrom_of_allBlank {text : List Char} (h : Unicode.allBlank text = true)
    (position : Nat) : tokensFrom position text = .ok [] := by
  induction text generalizing position with
  | nil => rw [tokensFrom]
  | cons c cs ih =>
    simp only [Unicode.allBlank, List.all_cons, Bool.and_eq_true] at h
    rw [tokensFrom, if_pos h.1]
    exact ih h.2 (position + 1)

/-- The grammar derives a tree from the whole of the tokens of a text, at least one and not more
than `maxTokens` of them, with at most `maxDepth` levels of nesting. -/
def Denotes (text : List Char) (e : Expr) : Prop :=
  ∃ ts, tokenize text = .ok ts ∧ 1 ≤ ts.length ∧ ts.length ≤ maxTokens ∧
    Derives maxDepth (.chain .disjunction) (plain ts) e

/-- What is parsed is what the grammar derives. -/
theorem parse_eq_ok_iff {text : List Char} {e : Expr} : parse text = .ok e ↔ Denotes text e := by
  unfold parse Denotes
  by_cases hblank : Unicode.allBlank text = true
  · rw [if_pos hblank, tokenize, tokensFrom_of_allBlank hblank 0]
    constructor
    · intro h
      cases h
    · rintro ⟨ts, hts, hpos, -⟩
      cases hts
      cases hpos
  · rw [if_neg hblank]
    cases tokenize text with
    | error err => simp
    | ok ts =>
      rw [ofTokens_eq_ok_iff]
      constructor
      · rintro ⟨hlen, hd⟩
        obtain ⟨t, us, ht, -⟩ := hd.exists_cons
        have hpos := congrArg List.length ht
        rw [List.length_map, List.length_cons] at hpos
        exact ⟨ts, rfl, by omega, hlen, hd⟩
      · rintro ⟨us, hus, -, hlen, hd⟩
        cases hus
        exact ⟨hlen, hd⟩

/-- **The parser accepts exactly the grammar.** The parser reads an expression from a text if the
grammar derives it from the tokens of the text. Where nothing is derived the parser fails with an
error of grammar. -/
theorem parse_accepts_exactly_derivable (text : List Char) :
    (∀ e, parse text = .ok e ↔ Denotes text e) ∧
      ((¬∃ e, Denotes text e) →
        ∃ err, parse text = .error err ∧ (EvalError.grammar err).category = .grammar) := by
  refine ⟨fun e => parse_eq_ok_iff, fun h => ?_⟩
  cases hparse : parse text with
  | error err => exact ⟨err, rfl, rfl⟩
  | ok e => exact absurd ⟨e, parse_eq_ok_iff.1 hparse⟩ h

end TripletFacts.Expr
