import Mathlib.Data.List.Forall2
import TripletFacts.Proofs.Expr.Words

/-!
# Expressions that vary in texts and names

Two token sequences may differ in the payloads of their string literals and in the names of their
calls. As long as no name is exchanged that the grammar knows as a word, the grammar does the same
with both of them, and their trees differ in the same payloads and names only.

## Main definitions

* `Variation`: which texts and which names may stand in the place of others.
* `Token.Varies`, `Expr.Varies`: tokens and trees that differ as a variation allows.

## Main results

* `Expr.Derives.varies`: what is derived from varied tokens.
* `Expr.exists_parse_of_varies`: what is parsed from varied tokens.
-/

namespace TripletFacts

/-- Texts and names that may stand in the place of others. A name that is exchanged is no word of
the grammar. -/
structure Variation where
  text : String → String → Prop
  name : String → String → Prop
  not_connective : ∀ a b, name a b → ∀ c : Connective, a ≠ c.symbol
  not_negation : ∀ a b, name a b → a ≠ "not" ∧ b ≠ "not"
  not_constant : ∀ a b, name a b → Expr.constant? a = none ∧ Expr.constant? b = none

variable {V : Variation}

/-- Tokens that differ as a variation allows. -/
inductive Token.Varies (V : Variation) : Token → Token → Prop
  | same (t : Token) : Varies V t t
  | text {s t : String} (h : V.text s t) : Varies V (.str s) (.str t)
  | name {a b : String} (h : V.name a b) : Varies V (.ident a) (.ident b)

/-- Trees that differ as a variation allows. -/
inductive Expr.Varies (V : Variation) : Expr → Expr → Prop
  | same (v : Value) : Varies V (.literal v) (.literal v)
  | text {s t : String} (h : V.text s t) : Varies V (.literal (.str s)) (.literal (.str t))
  | binary {l l' r r' : Expr} (op : Operator) (hl : Varies V l l') (hr : Varies V r r') :
      Varies V (.binary l op r) (.binary l' op r')
  | unary {e e' : Expr} (op : UnaryOperator) (h : Varies V e e') :
      Varies V (.unary op e) (.unary op e')
  | call {a b : String} {args args' : List Expr} (hname : a = b ∨ V.name a b)
      (hargs : List.Forall₂ (Varies V) args args') : Varies V (.call a args) (.call b args')

/-! ### Lists -/

section

variable {α β : Type} {R : α → β → Prop}

/-- What is related to two lists after one another are two lists after one another. -/
theorem exists_append_of_forall₂ {l₁ l₂ : List α} {u : List β} (h : List.Forall₂ R (l₁ ++ l₂) u) :
    ∃ u₁ u₂, u = u₁ ++ u₂ ∧ List.Forall₂ R l₁ u₁ ∧ List.Forall₂ R l₂ u₂ := by
  induction l₁ generalizing u with
  | nil => exact ⟨[], u, rfl, .nil, h⟩
  | cons a l₁ ih =>
    obtain ⟨b, u, hab, hrest, rfl⟩ := List.forall₂_cons_left_iff.1 h
    obtain ⟨u₁, u₂, rfl, h₁, h₂⟩ := ih hrest
    exact ⟨b :: u₁, u₂, rfl, .cons hab h₁, h₂⟩

end

namespace Expr

/-! ### Fixed tokens -/

/-- An operator, a parenthesis or a comma does not vary. -/
theorem eq_of_varies {t t' : Token} (h : t.Varies V t') (hstr : ∀ s, t ≠ .str s)
    (hident : ∀ name, t ≠ .ident name) : t' = t := by
  cases h with
  | same => rfl
  | text => exact absurd rfl (hstr _)
  | name => exact absurd rfl (hident _)

/-- Nor does it at the beginning of a phrase. -/
theorem exists_cons_of_varies {t : Token} {ts ts' : List Token}
    (h : List.Forall₂ (Token.Varies V) (t :: ts) ts') (hstr : ∀ s, t ≠ .str s)
    (hident : ∀ name, t ≠ .ident name) :
    ∃ us, ts' = t :: us ∧ List.Forall₂ (Token.Varies V) ts us := by
  obtain ⟨t', us, ht, hus, rfl⟩ := List.forall₂_cons_left_iff.1 h
  obtain rfl := eq_of_varies ht hstr hident
  exact ⟨us, rfl, hus⟩

/-- The sign of a chain does not vary. -/
theorem Level.Joins.eq_of_varies {level : Level} {t t' : Token} {op : Operator}
    (hjoins : level.Joins t op) (h : t.Varies V t') : t' = t := by
  cases h with
  | same => rfl
  | text => cases hjoins
  | name h =>
    cases hjoins with
    | word => exact absurd rfl (V.not_connective _ _ h _)

/-- A prefix operator does not vary. -/
theorem Precedes.eq_of_varies {A : Nonterminal} {t t' : Token} {op : UnaryOperator}
    (hprecedes : Precedes A t op) (h : t.Varies V t') : t' = t := by
  cases h with
  | same => rfl
  | text => cases hprecedes
  | name h =>
    cases hprecedes with
    | word => exact absurd rfl (V.not_negation _ _ h).1

/-- The closing parenthesis at the end of a phrase does not vary. -/
theorem eq_of_varies_rparen {ts : List Token}
    (h : List.Forall₂ (Token.Varies V) [.rparen] ts) : ts = [.rparen] := by
  obtain ⟨us, rfl, hus⟩ := exists_cons_of_varies h (by simp) (by simp)
  obtain rfl := List.forall₂_nil_left_iff.1 hus
  rfl

/-- The name of a call varies to the name of a call. -/
theorem exists_name_of_varies {a : String} {t : Token} (ha : constant? a = none)
    (h : (Token.ident a).Varies V t) :
    ∃ b, t = .ident b ∧ (a = b ∨ V.name a b) ∧ constant? b = none := by
  cases h with
  | same => exact ⟨a, rfl, .inl rfl, ha⟩
  | name h => exact ⟨_, rfl, .inr h, (V.not_constant _ _ h).2⟩

/-! ### Trees of chains -/

/-- Links that vary in their operands only. -/
structure Link.Varies (V : Variation) (l l' : Link) : Prop where
  sign : l'.sign = l.sign
  op : l'.op = l.op
  expr : l.expr.Varies V l'.expr

theorem varies_leftNested {first first' : Expr} {links links' : List Link}
    (hfirst : first.Varies V first') (hlinks : List.Forall₂ (Link.Varies V) links links') :
    (leftNested first links).Varies V (leftNested first' links') := by
  induction hlinks generalizing first first' with
  | nil => exact hfirst
  | cons hl _ ih =>
    exact ih (by dsimp only; exact hl.op ▸ .binary _ hfirst hl.expr)

theorem forall₂_neighbours {first first' : Expr} {links links' : List Link}
    (hfirst : first.Varies V first') (hlinks : List.Forall₂ (Link.Varies V) links links') :
    List.Forall₂ (Expr.Varies V) (neighbours first links) (neighbours first' links') := by
  induction hlinks generalizing first first' with
  | nil => exact .nil
  | cons hl _ ih =>
    exact .cons (hl.op ▸ .binary _ hfirst hl.expr) (ih hl.expr)

theorem varies_allOf {first first' : Expr} {es es' : List Expr} (hfirst : first.Varies V first')
    (hes : List.Forall₂ (Expr.Varies V) es es') : (allOf first es).Varies V (allOf first' es') := by
  induction hes generalizing first first' with
  | nil => exact hfirst
  | cons he _ ih => exact ih (.binary _ hfirst he)

/-- The tree of a chain varies with its operands. -/
theorem Level.varies_result (level : Level) {first first' : Expr} {links links' : List Link}
    (hfirst : first.Varies V first') (hlinks : List.Forall₂ (Link.Varies V) links links') :
    (level.result first links).Varies V (level.result first' links') := by
  cases level with
  | disjunction | conjunction | sum | product => exact varies_leftNested hfirst hlinks
  | comparison =>
    have hcs := forall₂_neighbours hfirst hlinks
    simp only [Level.result, comparisons]
    generalize neighbours first links = cs at hcs
    generalize neighbours first' links' = cs' at hcs
    cases hcs with
    | nil => exact hfirst
    | cons hc hcs => exact varies_allOf hc hcs

/-! ### Derivations -/

/-- What varied tokens derive. -/
def DerivesVaried (V : Variation) (n : Nat) (A : Nonterminal) (ts : List Token) (e : Expr) : Prop :=
  ∀ ts', List.Forall₂ (Token.Varies V) ts ts' → ∃ e', Derives n A ts' e' ∧ e.Varies V e'

/-- Varied tokens of operands after signs. -/
theorem exists_links_of_forall₂ {n : Nat} {level : Level} {links : List Link} {ts' : List Token}
    (hsign : ∀ l ∈ links, level.Joins l.sign l.op)
    (hlink : ∀ l ∈ links, DerivesVaried V n level.operand l.tokens l.expr)
    (h : List.Forall₂ (Token.Varies V) (links.flatMap Link.all) ts') :
    ∃ links', ts' = links'.flatMap Link.all ∧ List.Forall₂ (Link.Varies V) links links' ∧
      (∀ l ∈ links', level.Joins l.sign l.op) ∧
      ∀ l ∈ links', Derives n level.operand l.tokens l.expr := by
  induction links generalizing ts' with
  | nil =>
    obtain rfl := List.forall₂_nil_left_iff.1 h
    exact ⟨[], rfl, .nil, by simp, by simp⟩
  | cons l links ih =>
    simp only [List.mem_cons, forall_eq_or_imp] at hsign hlink
    rw [List.flatMap_cons] at h
    obtain ⟨us, vs, rfl, hus, hvs⟩ := exists_append_of_forall₂ h
    obtain ⟨t, us, ht, hoperand, rfl⟩ := List.forall₂_cons_left_iff.1 hus
    obtain rfl := hsign.1.eq_of_varies ht
    obtain ⟨e', he', hvaries⟩ := hlink.1 us hoperand
    obtain ⟨links', rfl, hlinks', hjoins, hderives⟩ := ih hsign.2 hlink.2 hvs
    refine ⟨⟨⟨us, e'⟩, l.sign, l.op⟩ :: links', rfl, .cons ⟨rfl, rfl, hvaries⟩ hlinks', ?_, ?_⟩
    · simpa [hsign.1] using hjoins
    · simpa [he'] using hderives

/-- Varied tokens of arguments after commas. -/
theorem exists_operands_of_forall₂ {n : Nat} {A : Nonterminal} {more : List Operand}
    {ts' : List Token} (hmore : ∀ a ∈ more, DerivesVaried V n A a.tokens a.expr)
    (h : List.Forall₂ (Token.Varies V) (more.flatMap fun a => .comma :: a.tokens) ts') :
    ∃ more' : List Operand, ts' = (more'.flatMap fun a => .comma :: a.tokens) ∧
      List.Forall₂ (fun a a' => a.expr.Varies V a'.expr) more more' ∧
      ∀ a ∈ more', Derives n A a.tokens a.expr := by
  induction more generalizing ts' with
  | nil =>
    obtain rfl := List.forall₂_nil_left_iff.1 h
    exact ⟨[], rfl, .nil, by simp⟩
  | cons a more ih =>
    simp only [List.mem_cons, forall_eq_or_imp] at hmore
    rw [List.flatMap_cons] at h
    obtain ⟨us, vs, rfl, hus, hvs⟩ := exists_append_of_forall₂ h
    obtain ⟨us, rfl, hoperand⟩ := exists_cons_of_varies hus (by simp) (by simp)
    obtain ⟨e', he', hvaries⟩ := hmore.1 us hoperand
    obtain ⟨more', rfl, hmore', hderives⟩ := ih hmore.2 hvs
    refine ⟨⟨us, e'⟩ :: more', rfl, .cons hvaries hmore', ?_⟩
    simpa [he'] using hderives

/-- The grammar does the same with varied tokens. -/
theorem Derives.varies {n : Nat} {A : Nonterminal} {ts : List Token} {e : Expr}
    (h : Derives n A ts e) : DerivesVaried V n A ts e := by
  induction h with
  | @chain n level first links hfirst hsign hlink ihfirst ihlink =>
    intro ts' hts
    obtain ⟨us, vs, rfl, hus, hvs⟩ := exists_append_of_forall₂ hts
    obtain ⟨e', he', hvaries⟩ := ihfirst us hus
    obtain ⟨links', rfl, hlinks', hjoins, hderives⟩ := exists_links_of_forall₂ hsign ihlink hvs
    exact ⟨_, @Derives.chain _ _ ⟨us, e'⟩ _ he' hjoins hderives,
      level.varies_result hvaries hlinks'⟩
  | unary ht h ih =>
    intro ts' hts
    obtain ⟨t', us, hvaries, hus, rfl⟩ := List.forall₂_cons_left_iff.1 hts
    obtain rfl := ht.eq_of_varies hvaries
    obtain ⟨e', he', hvaries⟩ := ih us hus
    exact ⟨_, .unary ht he', .unary _ hvaries⟩
  | unnegated h hnot ih =>
    intro ts' hts
    obtain ⟨e', he', hvaries⟩ := ih ts' hts
    refine ⟨e', .unnegated he' ?_, hvaries⟩
    cases hts with
    | nil => simp
    | cons ht _ =>
      cases ht with
      | same => exact hnot
      | text => simp
      | name hname => simpa using (V.not_negation _ _ hname).2
  | unsigned h ih =>
    intro ts' hts
    obtain ⟨e', he', hvaries⟩ := ih ts' hts
    exact ⟨e', .unsigned he', hvaries⟩
  | base h ih =>
    intro ts' hts
    obtain ⟨e', he', hvaries⟩ := ih ts' hts
    exact ⟨e', .base he', hvaries⟩
  | power hbase hexponent ihbase ihexponent =>
    intro ts' hts
    obtain ⟨us, vs, rfl, hus, hvs⟩ := exists_append_of_forall₂ hts
    obtain ⟨vs, rfl, hexp⟩ := exists_cons_of_varies hvs (by simp) (by simp)
    obtain ⟨e', he', hvaries⟩ := ihbase us hus
    obtain ⟨x', hx', hvaries'⟩ := ihexponent vs hexp
    exact ⟨_, .power he' hx', .binary _ hvaries hvaries'⟩
  | number x =>
    intro ts' hts
    obtain ⟨us, rfl, hus⟩ := exists_cons_of_varies hts (by simp) (by simp)
    obtain rfl := List.forall₂_nil_left_iff.1 hus
    exact ⟨_, .number x, .same _⟩
  | str s =>
    intro ts' hts
    obtain ⟨t', us, ht, hus, rfl⟩ := List.forall₂_cons_left_iff.1 hts
    obtain rfl := List.forall₂_nil_left_iff.1 hus
    cases ht with
    | same => exact ⟨_, .str s, .same _⟩
    | text htext => exact ⟨_, .str _, .text htext⟩
  | constant hname =>
    intro ts' hts
    obtain ⟨t', us, ht, hus, rfl⟩ := List.forall₂_cons_left_iff.1 hts
    obtain rfl := List.forall₂_nil_left_iff.1 hus
    cases ht with
    | same => exact ⟨_, .constant hname, .same _⟩
    | name h =>
      rw [(V.not_constant _ _ h).1] at hname
      cases hname
  | group h ih =>
    intro ts' hts
    obtain ⟨us, rfl, hus⟩ := exists_cons_of_varies hts (by simp) (by simp)
    obtain ⟨us, vs, rfl, hbody, hclose⟩ := exists_append_of_forall₂ hus
    obtain rfl := eq_of_varies_rparen hclose
    obtain ⟨e', he', hvaries⟩ := ih us hbody
    exact ⟨e', .group he', hvaries⟩
  | emptyCall hname =>
    intro ts' hts
    obtain ⟨t', us, ht, hus, rfl⟩ := List.forall₂_cons_left_iff.1 hts
    obtain ⟨vs, rfl, hvs⟩ := exists_cons_of_varies hus (by simp) (by simp)
    obtain rfl := eq_of_varies_rparen hvs
    obtain ⟨b, rfl, hvaries, hb⟩ := exists_name_of_varies hname ht
    exact ⟨_, .emptyCall hb, .call hvaries .nil⟩
  | call hname hfirst hmore ihfirst ihmore =>
    intro ts' hts
    obtain ⟨t', us, ht, hus, rfl⟩ := List.forall₂_cons_left_iff.1 hts
    obtain ⟨vs, rfl, hvs⟩ := exists_cons_of_varies hus (by simp) (by simp)
    obtain ⟨vs, ws, rfl, hargs, hclose⟩ := exists_append_of_forall₂ hvs
    obtain ⟨us, vs, rfl, hfirstTokens, hmoreTokens⟩ := exists_append_of_forall₂ hargs
    obtain rfl := eq_of_varies_rparen hclose
    obtain ⟨b, rfl, hvaries, hb⟩ := exists_name_of_varies hname ht
    obtain ⟨e', he', hfirst'⟩ := ihfirst us hfirstTokens
    obtain ⟨more', rfl, hmore', hderives⟩ := exists_operands_of_forall₂ ihmore hmoreTokens
    refine ⟨_, @Derives.call _ _ ⟨us, e'⟩ _ hb he' hderives, .call hvaries (.cons hfirst' ?_)⟩
    simpa [List.forall₂_map_left_iff, List.forall₂_map_right_iff] using hmore'

/-- Varied tokens are parsed together: what is parsed from the first ones varies to what is parsed
from the second ones. -/
theorem exists_parse_of_varies {text text' : List Char} {ts ts' : List Token} {e : Expr}
    (hts : tokens? text = some ts) (hts' : tokens? text' = some ts')
    (hvaries : List.Forall₂ (Token.Varies V) ts ts') (h : parse text = .ok e) :
    ∃ e', parse text' = .ok e' ∧ e.Varies V e' := by
  obtain ⟨us, hus, hpos, hlen, hderives⟩ := parse_eq_ok_iff_tokens?.1 h
  obtain rfl : ts = us := Option.some.inj (hts.symm.trans hus)
  obtain ⟨e', he', hvaries'⟩ := hderives.varies ts' hvaries
  have hlength := hvaries.length_eq
  exact ⟨e', parse_eq_ok_iff_tokens?.2 ⟨ts', hts', by omega, by omega, he'⟩, hvaries'⟩

end Expr

end TripletFacts
