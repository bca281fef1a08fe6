import Mathlib.Tactic.Tauto
import TripletFacts.Proofs.Expr.Reading
import TripletFacts.Proofs.Outcome

/-!
# Words of the grammar as names of calls

The words of the grammar come as names, and so do the names of calls. The truth values are told from
a call by themselves. The connectives and the negation are only looked for where a rule may go on
with them: a connective behind an operand, and `not` where the rule `not` begins, which is never
directly behind a sign of comparison or arithmetic. In all other places they are read as names of
calls. So what a text applies to operands can be seen from its tokens with the token before each of
them, without reading it.

## Main definitions

* `Expr.Applied`, `Expr.applied`: the negations and the functions that a tree applies.
* `Expr.reservedWords`: the words of the grammar.
* `Expr.Misplaced`: a word of the grammar in a place where it names a function.
* `Expr.appliedIn`: the negations and the functions that tokens apply.

## Main results

* `Expr.Derives.mem_applied_iff`: a derived tree applies what its tokens apply.
* `Expr.reservedWord_applied_iff`: which words of the grammar an expression calls.
-/

namespace TripletFacts.Expr

/-! ### Trees -/

/-- What an expression applies to operands behind it: the negation of truth values or a function. -/
inductive Applied where
  | negation
  | function (name : String)
deriving DecidableEq

/-- A unary operator applies the negation or nothing. -/
def appliedBy : UnaryOperator → List Applied
  | .not => [.negation]
  | .negate | .plus => []

mutual

/-- What a tree applies in any of its nodes. -/
def applied : Expr → List Applied
  | literal _ => []
  | binary left _ right => left.applied ++ right.applied
  | unary op operand => appliedBy op ++ operand.applied
  | call name args => .function name :: appliedList args

/-- What several trees apply. -/
def appliedList : List Expr → List Applied
  | [] => []
  | e :: es => e.applied ++ appliedList es

end

variable {a : Applied}

theorem mem_applied_leftNested {first : Expr} {links : List Link} :
    a ∈ (leftNested first links).applied ↔ a ∈ first.applied ∨ ∃ l ∈ links, a ∈ l.expr.applied := by
  induction links generalizing first with
  | nil => simp [leftNested]
  | cons l links ih =>
    change a ∈ (leftNested (.binary first l.op l.expr) links).applied ↔ _
    rw [ih]
    simp [applied, or_assoc]

theorem mem_applied_allOf {first : Expr} {es : List Expr} :
    a ∈ (allOf first es).applied ↔ a ∈ first.applied ∨ a ∈ appliedList es := by
  induction es generalizing first with
  | nil => simp [allOf, appliedList]
  | cons e es ih =>
    change a ∈ (allOf (.binary first (.combine .and) e) es).applied ↔ _
    rw [ih]
    simp [applied, appliedList, or_assoc]

/-- Comparisons of neighbours apply what the operands apply, if there are two of them. -/
theorem mem_appliedList_neighbours {first : Expr} {l : Link} {links : List Link} :
    a ∈ appliedList (neighbours first (l :: links)) ↔
      a ∈ first.applied ∨ ∃ m ∈ l :: links, a ∈ m.expr.applied := by
  induction links generalizing first l with
  | nil => simp [neighbours, appliedList, applied]
  | cons m links ih =>
    rw [neighbours, appliedList, List.mem_append, ih]
    simp only [applied, List.mem_append, List.mem_cons, exists_eq_or_imp]
    -- the operand between two comparisons stands in both
    grind

/-- A chain applies what its operands apply. -/
theorem mem_applied_result (level : Level) {first : Expr} {links : List Link} :
    a ∈ (level.result first links).applied ↔
      a ∈ first.applied ∨ ∃ l ∈ links, a ∈ l.expr.applied := by
  cases level with
  | disjunction | conjunction | sum | product => exact mem_applied_leftNested
  | comparison =>
    cases links with
    | nil => simp [Level.result, comparisons, neighbours]
    | cons l links =>
      refine mem_applied_allOf.trans ?_
      rw [← mem_appliedList_neighbours (l := l), neighbours, appliedList, List.mem_append]

/-! ### Tokens -/

/-- The words of the grammar. -/
def reservedWords : List String := ["and", "or", "not", "True", "true", "False", "false"]

/-- A token that ends an operand. -/
def endsOperand : Token → Bool
  | .number _ | .str _ | .rparen => true
  | .ident name => (constant? name).isSome
  | .op _ | .lparen | .comma => false

/-- A sign of comparison or arithmetic. Behind it stands an operand that is no negation. -/
def isTightSign : Token → Bool
  | .op (.binary (.compare _)) | .op (.binary (.compute _)) => true
  | .op (.binary (.combine _)) | .op .bang | .number _ | .str _ | .ident _ | .lparen | .rparen
  | .comma => false

/-- A word of the grammar in a place where it names a function, given the token before it: a
connective that no operand stands before, and `not` behind a sign of comparison or arithmetic. -/
def Misplaced (last : Option Token) (word : String) : Prop :=
  (word = "and" ∨ word = "or") ∧ last.any endsOperand = false ∨
    word = "not" ∧ last.any isTightSign = true

instance (last : Option Token) (word : String) : Decidable (Misplaced last word) :=
  inferInstanceAs (Decidable (_ ∨ _))

/-- What a name applies, given the token before it. -/
def appliedByName (last : Option Token) (name : String) : List Applied :=
  if name ∈ reservedWords ∧ ¬Misplaced last name then
    if name = "not" then [.negation] else []
  else [.function name]

/-- What a token applies, given the token before it. -/
def appliedByToken (last : Option Token) : Token → List Applied
  | .op .bang => [.negation]
  | .ident name => appliedByName last name
  | .op (.binary _) | .number _ | .str _ | .lparen | .rparen | .comma => []

/-- What tokens apply, given the token before them. -/
def appliedIn (last : Option Token) : List Token → List Applied
  | [] => []
  | t :: ts => appliedByToken last t ++ appliedIn (some t) ts

theorem appliedIn_cons_of_eq_nil {last : Option Token} {t : Token}
    (h : appliedByToken last t = []) (ts : List Token) :
    appliedIn last (t :: ts) = appliedIn (some t) ts := by
  rw [appliedIn, h, List.nil_append]

theorem getLast?_or_some (t : Token) (ts : List Token) (last : Option Token) :
    ts.getLast?.or (some t) = (t :: ts).getLast?.or last := by
  rw [List.getLast?_cons]
  cases ts.getLast? <;> rfl

theorem appliedIn_append (last : Option Token) (ts us : List Token) :
    appliedIn last (ts ++ us) = appliedIn last ts ++ appliedIn (ts.getLast?.or last) us := by
  induction ts generalizing last with
  | nil => rfl
  | cons t ts ih =>
    rw [List.cons_append, appliedIn, ih, appliedIn, List.append_assoc, getLast?_or_some t ts last]

/-- What tokens apply one of them applies, told by the token before it. -/
theorem mem_appliedIn_iff {last : Option Token} {ts : List Token} :
    a ∈ appliedIn last ts ↔
      ∃ before t after, ts = before ++ t :: after ∧
        a ∈ appliedByToken (before.getLast?.or last) t := by
  constructor
  · intro h
    induction ts generalizing last with
    | nil => cases h
    | cons t ts ih =>
      rcases List.mem_append.1 h with h | h
      · exact ⟨[], t, ts, rfl, h⟩
      · obtain ⟨before, u, after, rfl, hu⟩ := ih h
        exact ⟨t :: before, u, after, rfl, getLast?_or_some t before last ▸ hu⟩
  · rintro ⟨before, t, after, rfl, h⟩
    rw [appliedIn_append]
    exact List.mem_append_right _ (List.mem_append_left _ h)

/-! ### Ends of phrases -/

/-- The last of the tokens ends an operand. -/
def EndsOperand (ts : List Token) : Prop := ∃ t, ts.getLast? = some t ∧ endsOperand t = true

theorem EndsOperand.append_left {us : List Token} (h : EndsOperand us) (ts : List Token) :
    EndsOperand (ts ++ us) := by
  obtain ⟨t, ht, hends⟩ := h
  exact ⟨t, by rw [List.getLast?_append, ht, Option.some_or], hends⟩

theorem EndsOperand.cons {ts : List Token} (h : EndsOperand ts) (t : Token) :
    EndsOperand (t :: ts) :=
  h.append_left [t]

theorem EndsOperand.append_links {ts : List Token} {links : List Link} (h : EndsOperand ts)
    (hlink : ∀ l ∈ links, EndsOperand l.tokens) : EndsOperand (ts ++ links.flatMap Link.all) := by
  induction links generalizing ts with
  | nil => rwa [List.flatMap_nil, List.append_nil]
  | cons l links ih =>
    rw [List.forall_mem_cons] at hlink
    rw [List.flatMap_cons, ← List.append_assoc]
    exact ih ((hlink.1.cons l.sign).append_left ts) hlink.2

/-- A derived phrase ends with the end of an operand. -/
theorem Derives.endsOperand {n : Nat} {A : Nonterminal} {ts : List Token} {e : Expr}
    (h : Derives n A ts e) : EndsOperand ts := by
  induction h with
  | chain hfirst hsign hlink ihfirst ihlink => exact ihfirst.append_links ihlink
  | unary ht h ih => exact ih.cons _
  | unnegated h hnot ih => exact ih
  | unsigned h ih | base h ih => exact ih
  | power hbase hexponent ihbase ihexponent => exact (ihexponent.cons _).append_left _
  | number | str => exact ⟨_, rfl, rfl⟩
  | @constant n name b hname =>
    have hends : Expr.endsOperand (.ident name) = (constant? name).isSome := rfl
    exact ⟨.ident name, rfl, by rw [hends, hname, Option.isSome_some]⟩
  | group h ih => exact .cons (.append_left ⟨.rparen, rfl, rfl⟩ _) _
  | emptyCall h => exact ⟨.rparen, rfl, rfl⟩
  | call h hfirst hmore ihfirst ihmore =>
    exact .cons (.cons (.append_left ⟨.rparen, rfl, rfl⟩ _) _) _

/-- Behind a phrase stands the end of an operand. -/
theorem EndsOperand.any_or {ts : List Token} (h : EndsOperand ts) (last : Option Token) :
    (ts.getLast?.or last).any endsOperand = true := by
  obtain ⟨t, ht, hends⟩ := h
  rw [ht, Option.some_or, Option.any_some, hends]

/-! ### Beginnings of phrases -/

/-- A phrase of a nonterminal may stand behind a token: no operand ends there, a negation does not
stand behind a sign of comparison or arithmetic, and a phrase that is no negation does if it
begins with `not`. -/
def Nonterminal.MayFollow (A : Nonterminal) (last : Option Token) (ts : List Token) : Prop :=
  last.any endsOperand = false ∧
    match A with
    | .chain .disjunction | .chain .conjunction | .negation => last.any isTightSign = false
    | .chain _ | .sign | .power | .primary =>
      ts.head? = some (.ident "not") → last.any isTightSign = true

/-- Where a chain stands, its first operand stands. -/
theorem Nonterminal.MayFollow.first {level : Level} {last : Option Token} {ts : List Token}
    (us : List Token) (h : (Nonterminal.chain level).MayFollow last (ts ++ us))
    (hts : ts ≠ []) : level.operand.MayFollow last ts := by
  obtain ⟨t, ts, rfl⟩ := List.exists_cons_of_ne_nil hts
  refine ⟨h.1, ?_⟩
  have hplace := h.2
  cases level with
  | disjunction | conjunction => exact hplace
  | comparison | sum | product => exact hplace

/-- The signs of a level end no operand, and those of the levels of operands that are no negations
are signs of comparison and arithmetic. -/
theorem Level.Joins.endsOperand_isTightSign {level : Level} {t : Token} {op : Operator}
    (h : level.Joins t op) : endsOperand t = false ∧
      isTightSign t = decide (level ≠ .disjunction ∧ level ≠ .conjunction) := by
  rcases h with @⟨op, h⟩ | @⟨c, h⟩ <;> revert h
  · rcases op with c | a | c
    · cases c <;> cases level <;> decide
    · cases a <;> cases level <;> decide
    · cases c <;> cases level <;> decide
  · cases c <;> cases level <;> decide

/-- Behind a sign of a level stands an operand. -/
theorem Level.Joins.mayFollow {level : Level} {t : Token} {op : Operator} (h : level.Joins t op)
    (ts : List Token) : level.operand.MayFollow (some t) ts := by
  obtain ⟨hends, htight⟩ := h.endsOperand_isTightSign
  refine ⟨hends, ?_⟩
  cases level with
  | disjunction | conjunction => exact htight
  | comparison | sum | product => exact fun _ => htight

/-- A sign of a level applies nothing behind an operand. -/
theorem Level.Joins.appliedByToken_eq_nil {level : Level} {t : Token} {op : Operator}
    (h : level.Joins t op) {last : Option Token} (hlast : last.any endsOperand = true) :
    appliedByToken last t = [] := by
  cases h with
  | sign => rfl
  | @word c => cases c <;> simp [appliedByToken, appliedByName, Connective.symbol, reservedWords,
      Misplaced, hlast]

theorem Precedes.mayFollow {A : Nonterminal} {t : Token} {op : UnaryOperator} (h : Precedes A t op)
    (ts : List Token) : A.MayFollow (some t) ts := by
  cases h with
  | bang | word => exact ⟨by decide, rfl⟩
  | minus | plus => exact ⟨rfl, fun _ => rfl⟩

/-- Inside of parentheses and between commas stands an expression. -/
theorem mayFollow_lparen (ts : List Token) :
    (Nonterminal.chain .disjunction).MayFollow (some .lparen) ts :=
  ⟨rfl, rfl⟩

theorem mayFollow_comma (ts : List Token) :
    (Nonterminal.chain .disjunction).MayFollow (some .comma) ts :=
  ⟨rfl, rfl⟩

/-- Behind the sign of a power stands an exponent. -/
theorem mayFollow_pow (ts : List Token) :
    Nonterminal.sign.MayFollow (some (.op (.binary (.compute .pow)))) ts :=
  ⟨rfl, fun _ => rfl⟩

/-- What stands before an operand applies its operator. -/
theorem Precedes.appliedByToken_eq {A : Nonterminal} {t : Token} {op : UnaryOperator}
    (h : Precedes A t op) {last : Option Token} {ts : List Token} (hlast : A.MayFollow last ts) :
    appliedByToken last t = appliedBy op := by
  cases h with
  | bang | minus | plus => rfl
  | word =>
    have htight : last.any isTightSign = false := hlast.2
    simp [appliedByToken, appliedByName, appliedBy, reservedWords, Misplaced, htight]

/-! ### Names -/

/-- A word for a truth value applies nothing. -/
theorem appliedByName_of_constant {name : String} {b : Bool} (h : constant? name = some b)
    (last : Option Token) : appliedByName last name = [] := by
  have hname : name ∈ ["True", "true", "False", "false"] := by
    unfold constant? at h
    split at h
    · next htrue => rcases htrue with rfl | rfl <;> decide
    · split at h
      · next hfalse => rcases hfalse with rfl | rfl <;> decide
      · cases h
  simp only [List.mem_cons, List.not_mem_nil, or_false] at hname
  rcases hname with rfl | rfl | rfl | rfl <;> simp [appliedByName, reservedWords, Misplaced]

/-- The name of a call applies its function. -/
theorem appliedByName_of_mayFollow {name : String} (h : constant? name = none)
    {last : Option Token} {ts : List Token}
    (hlast : Nonterminal.primary.MayFollow last (.ident name :: ts)) :
    appliedByName last name = [.function name] := by
  have hplace : ¬(name ∈ reservedWords ∧ ¬Misplaced last name) := by
    rintro ⟨hword, hplaced⟩
    obtain ⟨htrue, hfalse⟩ := ne_of_constant?_eq_none h
    have hname : name = "and" ∨ name = "or" ∨ name = "not" := by
      simp only [reservedWords, List.mem_cons, List.not_mem_nil, or_false] at hword
      tauto
    rcases hname with hname | hname | hname
    · exact hplaced (.inl ⟨.inl hname, hlast.1⟩)
    · exact hplaced (.inl ⟨.inr hname, hlast.1⟩)
    · exact hplaced (.inr ⟨hname, hlast.2 (by rw [List.head?_cons, hname])⟩)
  rw [appliedByName, if_neg hplace]

/-! ### Derivations -/

/-- Operands after signs apply what their tokens apply. -/
theorem mem_appliedIn_links {level : Level} {links : List Link}
    (hsign : ∀ l ∈ links, level.Joins l.sign l.op) (hends : ∀ l ∈ links, EndsOperand l.tokens)
    (hlink : ∀ l ∈ links, a ∈ l.expr.applied ↔ a ∈ appliedIn (some l.sign) l.tokens)
    {last : Option Token} (hlast : last.any endsOperand = true) :
    a ∈ appliedIn last (links.flatMap Link.all) ↔ ∃ l ∈ links, a ∈ l.expr.applied := by
  induction links generalizing last with
  | nil => simp [appliedIn]
  | cons l links ih =>
    rw [List.forall_mem_cons] at hsign hends hlink
    have hrest := ih hsign.2 hends.2 hlink.2 (hends.1.any_or (some l.sign))
    rw [List.flatMap_cons, Link.all, List.cons_append, appliedIn,
      hsign.1.appliedByToken_eq_nil hlast, List.nil_append, appliedIn_append, List.mem_append,
      hrest, ← hlink.1]
    simp only [List.mem_cons, exists_eq_or_imp]

/-- Arguments after commas apply what their tokens apply. -/
theorem mem_appliedIn_arguments {more : List Operand}
    (hmore : ∀ x ∈ more, a ∈ x.expr.applied ↔ a ∈ appliedIn (some .comma) x.tokens)
    (last : Option Token) :
    a ∈ appliedIn last (more.flatMap fun x => .comma :: x.tokens) ↔
      a ∈ appliedList (more.map Operand.expr) := by
  induction more generalizing last with
  | nil => simp [appliedIn, appliedList]
  | cons x more ih =>
    rw [List.forall_mem_cons] at hmore
    rw [List.flatMap_cons, List.cons_append, appliedIn_cons_of_eq_nil rfl, appliedIn_append,
      List.map_cons, appliedList, List.mem_append, List.mem_append, hmore.1, ih hmore.2]

/-- A derived tree applies what its tokens apply. -/
theorem Derives.mem_applied_iff {n : Nat} {A : Nonterminal} {ts : List Token} {e : Expr}
    (h : Derives n A ts e) {last : Option Token} (hlast : A.MayFollow last ts) :
    a ∈ e.applied ↔ a ∈ appliedIn last ts := by
  induction h generalizing last with
  | @chain n level first links hfirst hsign hlink ihfirst ihlink =>
    have hne : first.tokens ≠ [] := by
      obtain ⟨t, us, ht, -⟩ := hfirst.exists_cons
      exact ht ▸ List.cons_ne_nil t us
    have hlinks := mem_appliedIn_links (a := a) hsign (fun l hl => (hlink l hl).endsOperand)
      (fun l hl => ihlink l hl ((hsign l hl).mayFollow l.tokens)) (hfirst.endsOperand.any_or last)
    rw [mem_applied_result, appliedIn_append, List.mem_append, hlinks, ihfirst (hlast.first _ hne)]
  | unary ht h ih =>
    rw [applied, appliedIn, ht.appliedByToken_eq hlast, List.mem_append, List.mem_append,
      ih (ht.mayFollow _)]
  | unnegated h hnot ih => exact ih ⟨hlast.1, fun h => absurd h hnot⟩
  | unsigned h ih | base h ih => exact ih hlast
  | @power n ts us e x hbase hexponent ihbase ihexponent =>
    obtain ⟨t, vs, rfl, -⟩ := hbase.exists_cons
    rw [applied, appliedIn_append, appliedIn_cons_of_eq_nil (t := .op _) rfl, List.mem_append,
      List.mem_append, ihbase hlast, ihexponent (mayFollow_pow us)]
  | number | str => simp [applied, appliedIn, appliedByToken]
  | constant hname => simp [applied, appliedIn, appliedByToken, appliedByName_of_constant hname]
  | group h ih =>
    rw [appliedIn_cons_of_eq_nil rfl, appliedIn_append, List.mem_append, ih (mayFollow_lparen _)]
    simp [appliedIn, appliedByToken]
  | emptyCall hname =>
    simp [applied, appliedList, appliedIn, appliedByToken, appliedByName_of_mayFollow hname hlast]
  | @call n name first more hname hfirst hmore ihfirst ihmore =>
    have harguments := mem_appliedIn_arguments (a := a)
      (fun x hx => ihmore x hx (mayFollow_comma x.tokens))
      (first.tokens.getLast?.or (some .lparen))
    have hname : appliedByToken last (.ident name) = [.function name] :=
      appliedByName_of_mayFollow hname hlast
    rw [applied, appliedList, appliedIn, hname, appliedIn_cons_of_eq_nil rfl, appliedIn_append,
      appliedIn_append]
    simp only [List.mem_append, List.mem_cons, harguments, ihfirst (mayFollow_lparen _)]
    simp [appliedIn, appliedByToken]

/-! ### Texts -/

theorem mem_applied_iff_of_parse {text : List Char} {ts : Tokens} {e : Expr}
    (hts : tokenize text = .ok ts) (he : parse text = .ok e) :
    a ∈ e.applied ↔ a ∈ appliedIn none (plain ts) := by
  obtain ⟨ts', hts', -, -, hderives⟩ := parse_eq_ok_iff.1 he
  obtain rfl := Except.ok.inj (hts.symm.trans hts')
  exact hderives.mem_applied_iff ⟨rfl, rfl⟩

/-- A token calls a word of the grammar if it is that word, misplaced. -/
theorem function_mem_appliedByToken_iff {word : String} (hword : word ∈ reservedWords)
    {last : Option Token} {t : Token} :
    .function word ∈ appliedByToken last t ↔ t = .ident word ∧ Misplaced last word := by
  cases t with
  | ident name =>
    by_cases hname : name = word
    · subst hname
      by_cases hplace : Misplaced last name
      · simp [appliedByToken, appliedByName, hplace]
      · rw [appliedByToken, appliedByName, if_pos ⟨hword, hplace⟩]
        split <;> simp [hplace]
    · simp only [appliedByToken, appliedByName, Token.ident.injEq, hname, false_and]
      split
      · split <;> simp
      · simpa using Ne.symm hname
  | op symbol => cases symbol <;> simp [appliedByToken]
  | number | str | lparen | rparen | comma => simp [appliedByToken]

/-- A token negates if it is an exclamation mark or a `not`, and this is not misplaced. -/
theorem negation_mem_appliedByToken_iff {last : Option Token} {t : Token} :
    .negation ∈ appliedByToken last t ↔
      t = .op .bang ∨ t = .ident "not" ∧ ¬Misplaced last "not" := by
  cases t with
  | ident name =>
    by_cases hname : name = "not"
    · subst hname
      by_cases hplace : Misplaced last "not" <;>
        simp [appliedByToken, appliedByName, reservedWords, hplace]
    · simp only [appliedByToken, appliedByName, Token.ident.injEq, hname, false_and]
      split <;> simp
  | op symbol => cases symbol <;> simp [appliedByToken]
  | number | str | lparen | rparen | comma => simp [appliedByToken]

/-- **Which words of the grammar an expression calls.** An expression calls a word of the grammar
exactly if its text has this word where it is misplaced: `and` or `or` with no operand before it,
or `not` behind a sign of comparison or arithmetic; the truth values are never called. It negates
something exactly if its text has an exclamation mark or a `not` that is not misplaced. -/
theorem reservedWord_applied_iff {text : List Char} {ts : Tokens} {e : Expr}
    (hts : tokenize text = .ok ts) (he : parse text = .ok e) :
    (∀ word ∈ reservedWords, .function word ∈ e.applied ↔
        ∃ before after, plain ts = before ++ .ident word :: after ∧
          Misplaced before.getLast? word) ∧
      (.negation ∈ e.applied ↔ .op .bang ∈ plain ts ∨
        ∃ before after, plain ts = before ++ .ident "not" :: after ∧
          ¬Misplaced before.getLast? "not") := by
  have hmem (a : Applied) : a ∈ e.applied ↔ ∃ before t after,
      plain ts = before ++ t :: after ∧ a ∈ appliedByToken before.getLast? t := by
    rw [mem_applied_iff_of_parse hts he, mem_appliedIn_iff]
    simp only [Option.or_none]
  constructor
  · intro word hword
    rw [hmem]
    constructor
    · rintro ⟨before, t, after, hplain, ht⟩
      obtain ⟨rfl, hplace⟩ := (function_mem_appliedByToken_iff hword).1 ht
      exact ⟨before, after, hplain, hplace⟩
    · rintro ⟨before, after, hplain, hplace⟩
      exact ⟨before, _, after, hplain, (function_mem_appliedByToken_iff hword).2 ⟨rfl, hplace⟩⟩
  · rw [hmem]
    constructor
    · rintro ⟨before, t, after, hplain, ht⟩
      rcases negation_mem_appliedByToken_iff.1 ht with rfl | ⟨rfl, hplace⟩
      · exact .inl (hplain ▸ List.mem_append_right _ List.mem_cons_self)
      · exact .inr ⟨before, after, hplain, hplace⟩
    · rintro (hbang | ⟨before, after, hplain, hplace⟩)
      · obtain ⟨before, after, hplain⟩ := List.append_of_mem hbang
        exact ⟨before, _, after, hplain, negation_mem_appliedByToken_iff.2 (.inl rfl)⟩
      · exact ⟨before, _, after, hplain, negation_mem_appliedByToken_iff.2 (.inr ⟨rfl, hplace⟩)⟩

/-- The first `not` of this text is a negation. The second one, behind a sign, and the `and` behind
another word are names of calls. -/
theorem reservedWord_applied_both_ways :
    ∃ ts e, tokenize "not 2>not(1) or and(3)".toList = .ok ts ∧
      parse "not 2>not(1) or and(3)".toList = .ok e ∧
      .negation ∈ e.applied ∧ .function "not" ∈ e.applied ∧ .function "and" ∈ e.applied := by
  have hts : tokenize "not 2>not(1) or and(3)".toList = .ok [⟨.ident "not", 0⟩,
      ⟨.number (.int 2), 4⟩, ⟨.op (.binary (.compare .gt)), 5⟩, ⟨.ident "not", 6⟩, ⟨.lparen, 9⟩,
      ⟨.number (.int 1), 10⟩, ⟨.rparen, 11⟩, ⟨.ident "or", 13⟩, ⟨.ident "and", 16⟩, ⟨.lparen, 19⟩,
      ⟨.number (.int 3), 20⟩, ⟨.rparen, 21⟩] := by decide +kernel
  have hparse : (parse "not 2>not(1) or and(3)".toList).isOk = true := by decide +kernel
  cases he : parse "not 2>not(1) or and(3)".toList with
  | error _ =>
    rw [he] at hparse
    cases hparse
  | ok e =>
    obtain ⟨hcalls, hnegates⟩ := reservedWord_applied_iff hts he
    exact ⟨_, e, hts, rfl, hnegates.2 (.inr ⟨[], _, rfl, by decide⟩),
      (hcalls "not" (by decide)).2 ⟨[.ident "not", .number (.int 2),
        .op (.binary (.compare .gt))], _, rfl, by decide⟩,
      (hcalls "and" (by decide)).2 ⟨[.ident "not", .number (.int 2), .op (.binary (.compare .gt)),
        .ident "not", .lparen, .number (.int 1), .rparen, .ident "or"], _, rfl, by decide⟩⟩

/-- The words of the grammar can be names of calls, and `not` before parentheses need not negate. -/
theorem reservedWord_called_behind_sign :
    ¬∀ (text : List Char) (e : Expr), parse text = .ok e →
      ∀ word ∈ reservedWords, .function word ∉ e.applied := by
  intro h
  have happlied : (parse "True == not(False)".toList).toOption.map applied =
      some [.function "not"] := by decide +kernel
  cases he : parse "True == not(False)".toList with
  | error _ =>
    rw [he] at happlied
    cases happlied
  | ok e =>
    rw [he] at happlied
    have happlied : e.applied = [.function "not"] := Option.some.inj happlied
    exact h _ e he "not" (by decide) (happlied ▸ List.mem_cons_self)

end TripletFacts.Expr
