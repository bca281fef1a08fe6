import Mathlib.Algebra.Order.Group.Nat
import TripletFacts.Expr.Basic
import TripletFacts.Proofs.Expr.Words

/-!
# Sizes of trees

The tree of a chain of comparisons has every operand but the first and the last one twice. So a tree
can have more nodes than its text has tokens, and chains of at least three operands that are nested
inside one another double the copies again and again. Every such chain takes two signs of
comparisons and all but one of them take a level of nesting, and this is all that bounds the
copies.

## Main definitions

* `comparisonCount`: the number of signs of comparisons.
* `doublings`: how often the operands of chains can be copied.
* `nestedText`: texts with chains inside of chains.

## Main results

* `Derives.size_le`: the size of a tree.
* `parse_nestedText`: nested chains have trees of exponential size.
* `parse_bounds_size`: what the limits of the parser say about the size of a tree.
-/

namespace TripletFacts.Expr

/-! ### Trees of chains -/

/-- The nodes of the operators of a chain and of its operands after the first one. -/
def linksSize : List Link → Nat
  | [] => 0
  | l :: links => l.expr.size + 1 + linksSize links

theorem size_leftNested (first : Expr) (links : List Link) :
    (leftNested first links).size = first.size + linksSize links := by
  induction links generalizing first with
  | nil => rfl
  | cons l links ih =>
    rw [linksSize]
    refine (ih _).trans ?_
    rw [size]
    omega

theorem size_allOf (first : Expr) (es : List Expr) :
    (allOf first es).size = first.size + (sizeList es + es.length) := by
  induction es generalizing first with
  | nil => rfl
  | cons e es ih =>
    rw [sizeList, List.length_cons]
    refine (ih _).trans ?_
    rw [size]
    omega

/-- Two comparisons of neighbours share the operand between them. -/
theorem sizeList_neighbours_le (first : Expr) (links : List Link) :
    sizeList (neighbours first links) + links.length ≤ first.size + 2 * linksSize links := by
  induction links generalizing first with
  | nil => exact Nat.zero_le _
  | cons l links ih =>
    have hl := ih l.expr
    rw [neighbours, sizeList, linksSize, size, List.length_cons]
    omega

theorem length_neighbours (first : Expr) (links : List Link) :
    (neighbours first links).length = links.length := by
  induction links generalizing first with
  | nil => rfl
  | cons l links ih => exact congrArg (· + 1) (ih l.expr)

/-- The tree of a chain of comparisons has every operand twice at most. -/
theorem size_comparisons_le (first : Expr) (links : List Link) :
    (comparisons first links).size ≤ 2 * (first.size + linksSize links) := by
  have hsize := sizeList_neighbours_le first links
  rw [← length_neighbours first links] at hsize
  unfold comparisons
  split
  · omega
  · next c cs hcs =>
    rw [hcs, sizeList, List.length_cons] at hsize
    rw [size_allOf]
    omega

/-- Only the chains of three and more comparisons have copies of operands. -/
theorem size_result_le (level : Level) (first : Expr) (links : List Link) :
    (level.result first links).size ≤ first.size + linksSize links ∨
      level = .comparison ∧ 2 ≤ links.length ∧
        (level.result first links).size ≤ 2 * (first.size + linksSize links) := by
  cases level with
  | disjunction | conjunction | sum | product => exact .inl (Nat.le_of_eq (size_leftNested ..))
  | comparison =>
    match links with
    | [] => exact .inl (Nat.le_refl _)
    | [l] => exact .inl (Nat.le_of_eq (size_leftNested first [l]))
    | l :: l' :: links => exact .inr ⟨rfl, by simp, size_comparisons_le first (l :: l' :: links)⟩

/-! ### Counting -/

/-- A sign of a comparison. -/
def isComparison : Token → Bool
  | .op (.binary (.compare _)) => true
  | _ => false

/-- The number of signs of comparisons. -/
def comparisonCount (ts : List Token) : Nat := ts.countP isComparison

theorem Level.Joins.isComparison {t : Token} {op : Operator} (h : comparison.Joins t op) :
    isComparison t = true := by
  cases h with
  | sign h =>
    simp only [operators, List.mem_cons, List.not_mem_nil, or_false] at h
    rcases h with rfl | rfl | rfl | rfl | rfl | rfl <;> rfl
  | word h => simp [operators] at h

/-- A chain of comparisons has its own signs besides those of its operands. -/
theorem comparisonCount_links {links : List Link}
    (hsign : ∀ l ∈ links, Level.comparison.Joins l.sign l.op) :
    comparisonCount (links.flatMap Link.all) =
      links.length + comparisonCount (links.flatMap fun l => l.tokens) := by
  induction links with
  | nil => rfl
  | cons l links ih =>
    have hl := (hsign l List.mem_cons_self).isComparison
    have hlinks := ih fun m hm => hsign m (List.mem_cons_of_mem l hm)
    simp only [comparisonCount, Link.all, List.flatMap_cons, List.countP_append,
      List.countP_cons_of_pos hl, List.length_cons] at hlinks ⊢
    omega

/-- How often the operands of a chain are copied before a level of nesting is entered. -/
def Nonterminal.copies : Nonterminal → Nat
  | chain .disjunction | chain .conjunction | chain .comparison | negation => 1
  | _ => 0

/-- How often the operands of chains can be copied in a phrase: once at every level of nesting, and
once for every two signs. -/
def doublings (n : Nat) (A : Nonterminal) (ts : List Token) : Nat :=
  min (n + A.copies) (comparisonCount ts / 2)

theorem doublings_mono {n m : Nat} {A B : Nonterminal} {ts us : List Token}
    (hlevel : n + A.copies ≤ m + B.copies) (hts : ts.Sublist us) :
    doublings n A ts ≤ doublings m B us := by
  have hcount : comparisonCount ts ≤ comparisonCount us := hts.countP_le
  unfold doublings
  omega

/-- The tokens of a part stand in those of the whole. -/
theorem sublist_append_flatMap {α : Type} {f : α → List Token} {parts : List α} {a : α}
    (ha : a ∈ parts) (ts : List Token) : (f a).Sublist (ts ++ parts.flatMap f) := by
  rw [List.flatMap_def]
  exact (List.sublist_flatten_of_mem (List.mem_map_of_mem ha)).trans
    (List.sublist_append_right _ _)

/-- A chain with copies has room for one more doubling than an operand in it. -/
theorem doublings_lt (n : Nat) (first : Operand) {links : List Link}
    (hsign : ∀ l ∈ links, Level.comparison.Joins l.sign l.op) (hlinks : 2 ≤ links.length)
    {ts : List Token} (hts : ts.Sublist (first.tokens ++ links.flatMap fun l => l.tokens)) :
    doublings n (.chain .sum) ts + 1 ≤
      doublings n (.chain .comparison) (first.tokens ++ links.flatMap Link.all) := by
  have hle := hts.countP_le (p := isComparison)
  have hcount := comparisonCount_links hsign
  rw [List.countP_append] at hle
  unfold comparisonCount at hcount
  simp only [doublings, comparisonCount, List.countP_append, Nonterminal.copies]
  omega

/-! ### Sizes -/

/-- The operands of a chain and the operators between them. -/
theorem size_add_linksSize_le {b : Nat} {first : Operand} {links : List Link}
    (hfirst : first.expr.size ≤ 2 ^ b * first.tokens.length)
    (hlink : ∀ l ∈ links, l.expr.size ≤ 2 ^ b * l.tokens.length) :
    first.expr.size + linksSize links ≤
      2 ^ b * (first.tokens ++ links.flatMap Link.all).length := by
  have hlinks : linksSize links ≤ 2 ^ b * (links.flatMap Link.all).length := by
    induction links with
    | nil => exact Nat.zero_le _
    | cons l links ih =>
      have hl := hlink l List.mem_cons_self
      have hone := Nat.one_le_two_pow (n := b)
      have hmore := ih fun m hm => hlink m (List.mem_cons_of_mem l hm)
      rw [linksSize, List.flatMap_cons, Link.all, List.length_append, List.length_cons,
        Nat.mul_add, Nat.mul_add, Nat.mul_one]
      omega
  rw [List.length_append, Nat.mul_add]
  exact Nat.add_le_add hfirst hlinks

theorem size_le_of_le {b b' k : Nat} {e : Expr} (h : e.size ≤ 2 ^ b * k) (hb : b ≤ b') :
    e.size ≤ 2 ^ b' * k :=
  Nat.le_trans h (Nat.mul_le_mul_right k (Nat.pow_le_pow_right Nat.two_pos hb))

/-- The tree of a chain, if its operands have trees of bounded size. -/
theorem size_result_le_two_pow {n : Nat} {level : Level} {first : Operand} {links : List Link}
    (hsign : ∀ l ∈ links, level.Joins l.sign l.op)
    (hfirst : first.expr.size ≤
      2 ^ doublings n level.operand first.tokens * first.tokens.length)
    (hlink : ∀ l ∈ links,
      l.expr.size ≤ 2 ^ doublings n level.operand l.tokens * l.tokens.length) :
    (level.result first.expr links).size ≤
      2 ^ doublings n (.chain level) (first.tokens ++ links.flatMap Link.all) *
        (first.tokens ++ links.flatMap Link.all).length := by
  rcases size_result_le level first.expr links with h | ⟨rfl, hlinks, h⟩
  · have hlevel : n + level.operand.copies ≤ n + (Nonterminal.chain level).copies := by
      cases level <;> simp [Level.operand, Nonterminal.copies]
    refine Nat.le_trans h (size_add_linksSize_le (size_le_of_le hfirst ?_) fun l hl =>
      size_le_of_le (hlink l hl) ?_)
    · exact doublings_mono hlevel (List.sublist_append_left _ _)
    · exact doublings_mono hlevel
        ((List.sublist_cons_self _ _).trans (sublist_append_flatMap (f := Link.all) hl _))
  · have hlt : ∀ {ts}, _ → doublings n (.chain .sum) ts + 1 ≤ _ := doublings_lt n first hsign hlinks
    generalize doublings n (.chain .comparison) _ = b at hlt
    have hpos : 1 ≤ b := Nat.le_of_add_left_le (hlt (List.sublist_append_left _ _))
    calc (Level.comparison.result first.expr links).size
      _ ≤ 2 * (first.expr.size + linksSize links) := h
      _ ≤ 2 * (2 ^ (b - 1) * (first.tokens ++ links.flatMap Link.all).length) :=
        Nat.mul_le_mul_left 2 (size_add_linksSize_le
          (size_le_of_le hfirst (Nat.le_sub_one_of_lt (hlt (List.sublist_append_left _ _))))
          fun l hl => size_le_of_le (hlink l hl)
            (Nat.le_sub_one_of_lt (hlt (sublist_append_flatMap (f := fun l => l.tokens) hl _))))
      _ = 2 ^ b * (first.tokens ++ links.flatMap Link.all).length := by
        rw [← Nat.mul_assoc, ← Nat.pow_succ', Nat.succ_eq_add_one, Nat.sub_add_cancel hpos]

/-- The arguments of a call after the first one, with the commas before them. -/
theorem sizeList_map_expr_le {b : Nat} {more : List Operand}
    (hmore : ∀ a ∈ more, a.expr.size ≤ 2 ^ b * a.tokens.length) :
    sizeList (more.map Operand.expr) ≤
      2 ^ b * (more.flatMap fun a => .comma :: a.tokens).length := by
  induction more with
  | nil => exact Nat.zero_le _
  | cons a more ih =>
    have ha := hmore a List.mem_cons_self
    have hrest := ih fun m hm => hmore m (List.mem_cons_of_mem a hm)
    rw [List.map_cons, sizeList, List.flatMap_cons, List.length_append, List.length_cons,
      Nat.mul_add, Nat.mul_add]
    omega

/-- A tree has a node for every token at most, and twice as many for every chain in which it can be
copied. -/
theorem Derives.size_le {n : Nat} {A : Nonterminal} {ts : List Token} {e : Expr}
    (h : Derives n A ts e) : e.size ≤ 2 ^ doublings n A ts * ts.length := by
  induction h with
  | chain hfirst hsign hlink ihfirst ihlink => exact size_result_le_two_pow hsign ihfirst ihlink
  | @unary n A t op ts e ht h ih =>
    have hts := size_le_of_le ih
      (doublings_mono (m := n + 1) (B := A) (by omega) (List.sublist_cons_self t ts))
    have hone := Nat.one_le_two_pow (n := doublings (n + 1) A (t :: ts))
    rw [size, List.length_cons, Nat.mul_add, Nat.mul_one]
    omega
  | unnegated h hnot ih => exact ih
  | unsigned h ih | base h ih => exact ih
  | @power n ts us e x hbase hexponent ihbase ihexponent =>
    generalize hall : ts ++ .op (.binary (.compute .pow)) :: us = all
    have hts : ts.Sublist all := hall ▸ List.sublist_append_left _ _
    have hus : us.Sublist all :=
      hall ▸ (List.sublist_cons_self _ _).trans (List.sublist_append_right _ _)
    have hb := size_le_of_le ihbase (doublings_mono (m := n + 1) (B := .power) (Nat.le_refl _) hts)
    have hx := size_le_of_le ihexponent
      (doublings_mono (m := n + 1) (B := .power) (by simp [Nonterminal.copies]) hus)
    have hone := Nat.one_le_two_pow (n := doublings (n + 1) .power all)
    rw [size, ← hall, List.length_append, List.length_cons, Nat.mul_add, Nat.mul_add, Nat.mul_one,
      hall]
    omega
  | number x | str s | constant h => exact Nat.mul_pos Nat.one_le_two_pow Nat.one_pos
  | @group n ts e h ih =>
    have hinner : ts.Sublist (.lparen :: (ts ++ [.rparen])) :=
      .cons _ (List.sublist_append_left _ _)
    have hts := size_le_of_le ih
      (doublings_mono (m := n + 1) (B := .primary) (Nat.le_refl _) hinner)
    refine Nat.le_trans hts (Nat.mul_le_mul_left _ ?_)
    simp
    omega
  | emptyCall h => exact Nat.mul_pos Nat.one_le_two_pow (Nat.succ_pos 2)
  | @call n name first more hname hfirst hmore ihfirst ihmore =>
    generalize hall : Token.ident name :: .lparen ::
      (first.tokens ++ more.flatMap (fun a => .comma :: a.tokens) ++ [.rparen]) = all
    have hinner : (first.tokens ++ more.flatMap (fun a => .comma :: a.tokens)).Sublist all :=
      hall ▸ .cons _ (.cons _ (List.sublist_append_left _ _))
    have hfirst := size_le_of_le ihfirst (doublings_mono (m := n + 1) (B := .primary)
      (Nat.le_refl _) ((List.sublist_append_left _ _).trans hinner))
    have hrest := sizeList_map_expr_le fun a ha => size_le_of_le (ihmore a ha)
      (doublings_mono (m := n + 1) (B := .primary) (Nat.le_refl _)
        ((List.sublist_cons_self _ _).trans
          ((sublist_append_flatMap (f := fun a => .comma :: a.tokens) ha _).trans hinner)))
    have hone := Nat.one_le_two_pow (n := doublings (n + 1) .primary all)
    rw [size, sizeList, ← hall, List.length_cons, List.length_cons, List.length_append,
      List.length_append, hall]
    simp only [Nat.mul_add]
    omega

/-! ### Chains inside of chains -/

/-- The comparison of `1` with a text and of the text with `1`, around the number `1`. -/
def nestedText : Nat → List Char
  | 0 => ['1']
  | k + 1 => '1' :: '<' :: '(' :: (nestedText k ++ [')', '<', '1'])

/-- The tokens of nested chains. -/
def nestedTokens : Nat → List Token
  | 0 => [.number (.int 1)]
  | k + 1 => .number (.int 1) :: .op (.binary (.compare .lt)) :: .lparen :: (nestedTokens k ++
      [.rparen, .op (.binary (.compare .lt)), .number (.int 1)])

/-- The tree of nested chains: the text in the middle of a chain stands in both comparisons. -/
def nestedExpr : Nat → Expr
  | 0 => .literal (.int 1)
  | k + 1 => .binary (.binary (.literal (.int 1)) (.compare .lt) (nestedExpr k)) (.combine .and)
      (.binary (nestedExpr k) (.compare .lt) (.literal (.int 1)))

theorem length_nestedTokens (k : Nat) : (nestedTokens k).length = 6 * k + 1 := by
  induction k with
  | zero => rfl
  | succ k ih =>
    simp only [nestedTokens, List.length_cons, List.length_append, List.length_nil, ih]
    omega

theorem size_nestedExpr (k : Nat) : (nestedExpr k).size + 5 = 6 * 2 ^ k := by
  induction k with
  | zero => rfl
  | succ k ih =>
    simp only [nestedExpr, size]
    omega

theorem quoteFree_nestedText (k : Nat) : quoteFree (nestedText k) = true := by
  induction k with
  | zero => decide
  | succ k ih => simpa [nestedText, ih] using by decide

/-- A token of one character in front of a character that ends every token. -/
theorem tokens?_cons_cons {c d : Char} {t : Token} (hblank : Unicode.isBlank c = false)
    (hquote : isQuote c = false) (hread : Token.read? c [] = some (t, 0)) (hd : stops d = true)
    (rest : List Char) : tokens? (c :: d :: rest) = (tokens? (d :: rest)).map (t :: ·) := by
  have happend := Token.read?_append (b := d :: rest) hd hquote []
  rw [List.nil_append, hread] at happend
  rw [tokens?_cons hblank, happend]
  rfl

theorem tokens?_nestedText (k : Nat) : tokens? (nestedText k) = some (nestedTokens k) := by
  have hone : Token.read? '1' [] = some (.number (.int 1), 0) := by decide
  have hless : Token.read? '<' [] = some (.op (.binary (.compare .lt)), 0) := by decide
  have hlast : tokens? ['1'] = some [.number (.int 1)] := by
    rw [tokens?_cons (by decide), hone, Option.bind_some, List.drop_nil, tokens?_nil]
    rfl
  induction k with
  | zero => exact hlast
  | succ k ih =>
    have hopen (rest : List Char) : tokens? ('(' :: rest) = (tokens? rest).map (.lparen :: ·) :=
      tokens?_cons (by decide) rest
    have hclose : tokens? [')', '<', '1'] =
        some [.rparen, .op (.binary (.compare .lt)), .number (.int 1)] := by
      have hless' : Token.read? '<' ['1'] = some (.op (.binary (.compare .lt)), 0) := by decide
      rw [tokens?_cons_cons (t := .rparen) (by decide) (by decide) (by decide) (by decide),
        tokens?_cons (by decide), hless', Option.bind_some, List.drop_zero, hlast]
      rfl
    rw [nestedText, tokens?_cons_cons (by decide) (by decide) hone (by decide),
      tokens?_cons_cons (by decide) (by decide) hless (by decide), hopen,
      tokens?_append (quoteFree_nestedText k) (by decide), ih, hclose]
    rfl

/-- A chain with `1` at its ends. -/
theorem derives_nestedTokens (n k : Nat) :
    Derives (n + k) (.chain .disjunction) (nestedTokens k) (nestedExpr k) := by
  have hone : ∀ n, Derives n (.chain .sum) [.number (.int 1)] (.literal (.int 1)) :=
    fun n => .sum_of_sign (.unsigned (.base (.number _)))
  induction k with
  | zero => exact .disjunction_of_comparison (.alone (hone n)) (by simp [nestedTokens])
  | succ k ih =>
    refine .disjunction_of_comparison ?_ (by simp [nestedTokens])
    have hgroup := Derives.sum_of_sign (.unsigned (.base (.group ih)))
    let first : Operand := ⟨[.number (.int 1)], .literal (.int 1)⟩
    let group : Operand := ⟨.lparen :: (nestedTokens k ++ [.rparen]), nestedExpr k⟩
    let links : List Link := [⟨group, .op (.binary (.compare .lt)), .compare .lt⟩,
      ⟨first, .op (.binary (.compare .lt)), .compare .lt⟩]
    have htokens : nestedTokens (k + 1) = first.tokens ++ links.flatMap Link.all := by
      simp [nestedTokens, links, first, group, Link.all]
    have hsign : ∀ l ∈ links, Level.comparison.Joins l.sign l.op := by
      simp only [links, List.forall_mem_cons]
      exact ⟨.sign (by decide), .sign (by decide), by simp⟩
    rw [htokens]
    exact .chain (hone _) hsign (by simpa [links] using ⟨hgroup, hone _⟩)

/-- Chains that are nested have a tree of exponential size. -/
theorem parse_nestedText {k : Nat} (hk : k ≤ maxDepth) :
    parse (nestedText k) = .ok (nestedExpr k) := by
  refine parse_eq_ok_iff_tokens?.2 ⟨nestedTokens k, tokens?_nestedText k, ?_, ?_, ?_⟩
  · rw [length_nestedTokens]
    omega
  · rw [length_nestedTokens, maxTokens]
    rw [maxDepth] at hk
    omega
  · have h := derives_nestedTokens (maxDepth - k) k
    rwa [Nat.sub_add_cancel hk] at h

/-- **How large a tree can be.** A text of `n` tokens, of which `q` are signs of comparisons, that
is read with at most `d` levels of nesting has a tree of at most `2 ^ min (d + 1) (q / 2) * n`
nodes. The limits of the parser bound `d` and `n`, and the tree by them. No bound can be much
smaller: at every level of nesting `k` there is a text of `6 * k + 1` tokens whose tree has
`6 * 2 ^ k - 5` nodes. -/
theorem parse_bounds_size :
    (∀ (text : List Char) (e : Expr), parse text = .ok e →
      ∃ ts, tokenize text = .ok ts ∧ ts.length ≤ maxTokens ∧
        Derives maxDepth (.chain .disjunction) (plain ts) e ∧
        ∀ d, Derives d (.chain .disjunction) (plain ts) e →
          e.size ≤ 2 ^ min (d + 1) (comparisonCount (plain ts) / 2) * ts.length) ∧
      ∀ k ≤ maxDepth, ∃ text ts e, tokenize text = .ok ts ∧ parse text = .ok e ∧
        Derives k (.chain .disjunction) (plain ts) e ∧ ts.length = 6 * k + 1 ∧
        e.size + 5 = 6 * 2 ^ k := by
  constructor
  · intro text e h
    obtain ⟨ts, hts, -, hlen, hd⟩ := parse_eq_ok_iff.1 h
    refine ⟨ts, hts, hlen, hd, fun d hd => ?_⟩
    have hsize := hd.size_le
    rwa [plain, List.length_map] at hsize
  · intro k hk
    obtain ⟨ts, hts, hplain⟩ := tokens?_eq_some_iff.1 (tokens?_nestedText k)
    refine ⟨nestedText k, ts, nestedExpr k, hts, parse_nestedText hk, ?_, ?_, size_nestedExpr k⟩
    · have h := derives_nestedTokens 0 k
      rwa [Nat.zero_add, ← hplain] at h
    · rw [← length_nestedTokens, ← hplain, plain, List.length_map]

/-- Five chains inside of one another have more than four nodes for every token. -/
theorem size_of_five_chains :
    ∃ ts e, tokenize "1<(1<(1<(1<(1<(1)<1)<1)<1)<1)<1".toList = .ok ts ∧
      parse "1<(1<(1<(1<(1<(1)<1)<1)<1)<1)<1".toList = .ok e ∧
      ts.length = 31 ∧ e.size = 187 ∧ ¬e.size ≤ 4 * ts.length := by
  have htext : "1<(1<(1<(1<(1<(1)<1)<1)<1)<1)<1".toList = nestedText 5 := by decide
  rw [htext]
  obtain ⟨ts, hts, hplain⟩ := tokens?_eq_some_iff.1 (tokens?_nestedText 5)
  have hlength : ts.length = 31 := by
    have hlen := congrArg List.length hplain
    rwa [plain, List.length_map] at hlen
  have hsize : (nestedExpr 5).size = 187 := by decide
  exact ⟨ts, nestedExpr 5, hts, parse_nestedText (by decide), hlength, hsize, by omega⟩

end TripletFacts.Expr
