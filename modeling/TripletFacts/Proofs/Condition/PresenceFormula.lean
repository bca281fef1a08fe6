import TripletFacts.Proofs.Condition.LowerCalls
import TripletFacts.Proofs.Condition.WrittenCalls
import TripletFacts.Proofs.Expr.Values

/-!
# Formulas of calls

A formula combines calls that ask for presence by `and`, `or`, `not` and parentheses. It is a text
in which blanks stand around the words, and it is an expression as soon as truth values stand for
its calls. The rank of a formula says which rule of the grammar it belongs to, so that a formula
that is written is read as it was meant: `or` is weaker than `and`, and `not` is stronger than both.

The text of a formula is written with a text for every call. A pass that knows what to do with a
call where no word goes on is followed through the text once, for all formulas.

## Main definitions

* `PresenceFormula`: formulas, with their ranks.
* `PresenceFormula.write`, `PresenceFormula.value`: the text and the truth value of a formula.
* `PresenceFormula.Rewrites`, `PresenceFormula.Keeps`: what a pass does with the parts of a formula,
  and what holds of a formula because its parts keep it.

## Main results

* `PresenceFormula.Rewrites.whole`: what a pass does with a formula.
* `PresenceFormula.derives`: the tokens of a formula derive its tree.
* `PresenceFormula.evaluate_write`: the value of a formula with truth values for its calls.
-/

namespace TripletFacts

open TripletFacts.Expr

/-- How strongly a connective holds its operands together. -/
def Connective.rank : Connective → Nat
  | or => 0
  | and => 1

/-- The truth value of a connective. -/
def Connective.join : Connective → Bool → Bool → Bool
  | or => (· || ·)
  | and => (· && ·)

/-- Formulas of a rank, as they are written: 3 for calls and parentheses, 2 for `not`, and the rank
of the connective for the others. The numbers are those of the blanks between the parts; behind
`not` and around a connective stands one more. -/
inductive PresenceFormula : Nat → Type
  | call (c : PresenceCall) : PresenceFormula 3
  | group {rank : Nat} (before : Nat) (f : PresenceFormula rank) (after : Nat) : PresenceFormula 3
  | not {rank : Nat} (between : Nat) (f : PresenceFormula rank) (hrank : 2 ≤ rank) :
      PresenceFormula 2
  | combine {leftRank rightRank : Nat} (op : Connective) (left : PresenceFormula leftRank)
      (before after : Nat) (right : PresenceFormula rightRank) (hleft : op.rank ≤ leftRank)
      (hright : op.rank < rightRank) : PresenceFormula op.rank

namespace PresenceFormula

/-- A formula as it is written, with the given texts for its calls. -/
def write (shown : PresenceCall → List Char) {rank : Nat} : PresenceFormula rank → List Char
  | call c => shown c
  | group before f after => '(' :: (blanks before ++ (f.write shown ++ (blanks after ++ [')'])))
  | not between f _ => "not".toList ++ ' ' :: (blanks between ++ f.write shown)
  | combine op left before after right _ _ =>
    left.write shown ++ (blanks before ++ ' ' :: (op.symbol.toList ++
      ' ' :: (blanks after ++ right.write shown)))

/-- The truth value of a formula whose calls have the given ones. -/
def value (v : PresenceCall → Bool) {rank : Nat} : PresenceFormula rank → Bool
  | call c => v c
  | group _ f _ => f.value v
  | not _ f _ => !f.value v
  | combine op left _ _ right _ _ => op.join (left.value v) (right.value v)

/-- The calls of a formula. -/
def calls {rank : Nat} : PresenceFormula rank → List PresenceCall
  | call c => [c]
  | group _ f _ | not _ f _ => f.calls
  | combine _ left _ _ right _ _ => left.calls ++ right.calls

/-- The number of tokens of a formula, with a truth value for every call. -/
def size {rank : Nat} : PresenceFormula rank → Nat
  | call _ => 1
  | group _ f _ => f.size + 2
  | not _ f _ => f.size + 1
  | combine _ left _ _ right _ _ => left.size + right.size + 1

/-- The number of parentheses and of `not` inside one another. -/
def depth {rank : Nat} : PresenceFormula rank → Nat
  | call _ => 0
  | group _ f _ | not _ f _ => f.depth + 1
  | combine _ left _ _ right _ _ => max left.depth right.depth

variable {rank : Nat} {shown shown' : PresenceCall → List Char}

theorem write_congr {f : PresenceFormula rank} (h : ∀ c ∈ f.calls, shown c = shown' c) :
    f.write shown = f.write shown' := by
  induction f with
  | call c => exact h c List.mem_cons_self
  | group _ f _ ih => rw [write, write, ih h]
  | not _ f _ ih => rw [write, write, ih h]
  | combine _ left _ _ right _ _ ihl ihr =>
    rw [write, write, ihl fun c hc => h c (List.mem_append_left _ hc),
      ihr fun c hc => h c (List.mem_append_right _ hc)]

/-! ### Passes -/

/-- What may stand behind a formula. -/
def IsBorder (t : List Char) : Prop := t = [] ∨ ∃ r, t = ' ' :: r ∨ t = ')' :: r

theorem IsBorder.head? {t : List Char} (ht : IsBorder t) {p : Char → Bool} (hblank : p ' ' = false)
    (hclose : p ')' = false) : t.head?.any p = false := by
  rcases ht with rfl | ⟨r, rfl | rfl⟩
  · rfl
  · exact hblank
  · exact hclose

theorem IsBorder.head?_ne {t : List Char} (ht : IsBorder t) : t.head? ≠ some '(' := by
  rcases ht with rfl | ⟨r, rfl | rfl⟩ <;> simp

theorem isBorder_blanks_append (n : Nat) {t : List Char} (ht : IsBorder t) :
    IsBorder (blanks n ++ t) := by
  cases n with
  | zero => exact ht
  | succ n => exact .inr ⟨blanks n ++ t, .inl rfl⟩

/-- What a pass does with the parts of a formula. `R b t t'` says that the pass turns the text `t`
behind `b` into `t'`, where `b` is written from right to left. -/
structure Rewrites (R : List Char → List Char → List Char → Prop)
    (shown shown' : PresenceCall → List Char) : Prop where
  nil : ∀ b, R b [] []
  sign : ∀ {x}, x ∈ [' ', '(', ')'] → ∀ {b t t'}, R (x :: b) t t' → R b (x :: t) (x :: t')
  word : ∀ {word : String}, word ∈ ["and", "or", "not"] → ∀ {b t t'},
    R (word.toList.reverse ++ b) (' ' :: t) (' ' :: t') →
      R b (word.toList ++ ' ' :: t) (word.toList ++ ' ' :: t')
  call : ∀ c {b t t'}, b.head?.any Unicode.isWord = false → IsBorder t →
    R ((shown c).reverse ++ b) t t' → R b (shown c ++ t) (shown' c ++ t')

namespace Rewrites

variable {R : List Char → List Char → List Char → Prop} {b t t' : List Char}

theorem blanks_append (h : Rewrites R shown shown') (n : Nat)
    (ht : R ((blanks n).reverse ++ b) t t') :
    R b (blanks n ++ t) (blanks n ++ t') := by
  induction n generalizing b with
  | zero => exact ht
  | succ n ih =>
    have hblanks : blanks (n + 1) = ' ' :: blanks n := rfl
    rw [hblanks, List.reverse_cons, List.append_assoc] at ht
    exact h.sign (by simp) (ih ht)

/-- A pass rewrites the calls of a formula and keeps all else. -/
theorem write (h : Rewrites R shown shown') (f : PresenceFormula rank)
    (hb : b.head?.any Unicode.isWord = false) (ht : IsBorder t)
    (hR : R ((f.write shown).reverse ++ b) t t') :
    R b (f.write shown ++ t) (f.write shown' ++ t') := by
  induction f generalizing b t t' with
  | call c => exact h.call c hb ht hR
  | group before f after ih =>
    simp only [PresenceFormula.write, List.cons_append, List.append_assoc, List.nil_append,
      List.reverse_append, List.reverse_cons, List.reverse_nil] at hR ⊢
    refine h.sign (by simp) (h.blanks_append before (ih ?_ ?_ ?_))
    · exact any_isWord_reverse_blanks before (by decide) b
    · exact isBorder_blanks_append after (.inr ⟨t, .inr rfl⟩)
    · exact h.blanks_append after (h.sign (by simp) (by simpa using hR))
  | not between f _ ih =>
    simp only [PresenceFormula.write, List.cons_append, List.append_assoc, List.reverse_append,
      List.reverse_cons] at hR ⊢
    refine h.word (by simp) (h.sign (by simp) (h.blanks_append between (ih ?_ ht ?_)))
    · exact any_isWord_reverse_blanks between (by decide) _
    · simpa using hR
  | combine op left before after right _ _ ihl ihr =>
    have hword : op.symbol ∈ ["and", "or", "not"] := by cases op <;> decide
    simp only [PresenceFormula.write, List.cons_append, List.append_assoc, List.reverse_append,
      List.reverse_cons] at hR ⊢
    refine ihl hb (isBorder_blanks_append before (.inr ⟨_, .inl rfl⟩)) (h.blanks_append before ?_)
    refine h.sign (by simp) (h.word hword (h.sign (by simp) (h.blanks_append after (ihr ?_ ht ?_))))
    · exact any_isWord_reverse_blanks after (by decide) _
    · simpa using hR

theorem whole (h : Rewrites R shown shown') (f : PresenceFormula rank) :
    R [] (f.write shown) (f.write shown') := by
  have hwrite := h.write f (b := []) rfl (.inl rfl) (h.nil _)
  rwa [List.append_nil, List.append_nil] at hwrite

end Rewrites

/-- A property of texts that the parts of a formula keep. `P` may say what a pass does with a text,
and it may say that a pass keeps the text. -/
structure Keeps (P : List Char → Prop) (shown : PresenceCall → List Char) : Prop where
  nil : P []
  sign : ∀ {x}, x ∈ [' ', '(', ')'] → ∀ {t}, P t → P (x :: t)
  word : ∀ {word : String}, word ∈ ["and", "or", "not"] → ∀ {t}, P (' ' :: t) →
    P (word.toList ++ ' ' :: t)
  call : ∀ c {t}, IsBorder t → P t → P (shown c ++ t)

namespace Keeps

variable {P : List Char → Prop}

theorem rewrites (h : Keeps P shown) : Rewrites (fun _ t t' => t = t' ∧ P t) shown shown where
  nil _ := ⟨rfl, h.nil⟩
  sign hx _ _ _ := fun ⟨heq, ht⟩ => ⟨congrArg _ heq, h.sign hx ht⟩
  word hword _ _ _ := fun ⟨heq, ht⟩ => ⟨congrArg _ heq, h.word hword ht⟩
  call c _ _ _ _ hborder := fun ⟨heq, ht⟩ => ⟨congrArg _ heq, h.call c hborder ht⟩

theorem whole (h : Keeps P shown) (f : PresenceFormula rank) : P (f.write shown) :=
  (h.rewrites.whole f).2

/-- What is in no part of a formula is not in the formula. -/
theorem not_mem {x : Char} (hx : x ∉ " ()andort".toList) (hcall : ∀ c, x ∉ shown c) :
    Keeps (fun t => x ∉ t) shown where
  nil := List.not_mem_nil
  sign := by
    rintro y hy t ht hmem
    rcases List.mem_cons.1 hmem with rfl | hmem
    · exact hx (List.mem_append_left _ hy)
    · exact ht hmem
  word := by
    rintro word hword t ht hmem
    have hall : ∀ word ∈ ["and", "or", "not"], word.toList ⊆ " ()andort".toList := by decide
    rcases List.mem_append.1 hmem with hmem | hmem
    · exact hx (hall word hword hmem)
    · exact ht hmem
  call c t _ ht hmem := (List.mem_append.1 hmem).elim (hcall c) ht

end Keeps

/-! ### Truth values -/

section

variable (v : PresenceCall → Bool)

/-- The tokens of a formula with truth values for its calls. -/
def tokens {rank : Nat} : PresenceFormula rank → List Token
  | call c => [.ident (String.ofList (Value.boolText (v c)))]
  | group _ f _ => .lparen :: (f.tokens ++ [.rparen])
  | not _ f _ => .ident "not" :: f.tokens
  | combine op left _ _ right _ _ => left.tokens ++ .ident op.symbol :: right.tokens

/-- The tree of a formula with truth values for its calls. -/
def expr {rank : Nat} : PresenceFormula rank → Expr
  | call c => .literal (.bool (v c))
  | group _ f _ => f.expr
  | not _ f _ => .unary .not f.expr
  | combine op left _ _ right _ _ => .binary left.expr (.combine op) right.expr

variable {v}

theorem length_tokens (f : PresenceFormula rank) : (f.tokens v).length = f.size := by
  induction f with
  | call c => rfl
  | group _ f _ ih => simp [tokens, size, ih]
  | not _ f _ ih => simp [tokens, size, ih]
  | combine _ left _ _ right _ _ ihl ihr =>
    simp only [tokens, size, List.length_append, List.length_cons, ihl, ihr]
    omega

/-- A formula has a token. -/
theorem size_pos (f : PresenceFormula rank) : 1 ≤ f.size := by
  cases f <;> simp [size]

/-- The words of formulas are names. -/
theorem spells_word {word : String} (hword : word ∈ ["and", "or", "not", "True", "False"])
    {t : List Char} {ts : List Token} (ht : IsBorder t) (h : Spells t ts) :
    Spells (word.toList ++ t) (.ident word :: ts) := by
  have hall : ∀ word ∈ ["and", "or", "not", "True", "False"],
      word.toList.head?.any (fun c => !Unicode.isBlank c && Token.startsName c) = true ∧
        word.toList.tail.all Token.continuesName = true := by decide
  obtain ⟨hhead, htail⟩ := hall word hword
  cases hcu : word.toList with
  | nil => simp [hcu] at hhead
  | cons c u =>
    simp only [hcu, List.head?_cons, Option.any_some, Bool.and_eq_true, Bool.not_eq_true',
      List.tail_cons, List.all_eq_true] at hhead htail
    have hread := Token.read?_name hhead.2 htail (ht.head? (by decide) (by decide))
    rw [← hcu, String.ofList_toList] at hread
    exact .token hhead.1 hread h

theorem spells_blanks (n : Nat) {t : List Char} {ts : List Token} (h : Spells t ts) :
    Spells (blanks n ++ t) ts := by
  induction n with
  | zero => exact h
  | succ n ih => exact .blank (by decide) ih

/-- A formula with truth values for its calls is made of its tokens. -/
theorem spells_write (f : PresenceFormula rank) {t : List Char} {ts : List Token}
    (ht : IsBorder t) (h : Spells t ts) :
    Spells (f.write (fun c => Value.boolText (v c)) ++ t) (f.tokens v ++ ts) := by
  induction f generalizing t ts with
  | call c =>
    rw [write, tokens, List.singleton_append]
    cases v c with
    | true => exact spells_word (by simp) ht h
    | false => exact spells_word (by simp) ht h
  | group before f after ih =>
    have hclose : Spells (')' :: t) (.rparen :: ts) := .token (u := []) (by decide) rfl h
    have hbody := spells_blanks before (ih (isBorder_blanks_append after (.inr ⟨t, .inr rfl⟩))
      (spells_blanks after hclose))
    have hopen := Spells.token (c := '(') (u := []) (by decide) rfl hbody
    simpa [write, tokens] using hopen
  | not between f _ ih =>
    have hbody : Spells (' ' :: (blanks between ++ (f.write _ ++ t))) _ :=
      .blank (by decide) (spells_blanks between (ih ht h))
    have hnot : Spells ("not".toList ++ _) (.ident "not" :: _) :=
      spells_word (by simp) (.inr ⟨_, .inl rfl⟩) hbody
    simpa [write, tokens] using hnot
  | combine op left before after right _ _ ihl ihr =>
    have hword : op.symbol ∈ ["and", "or", "not", "True", "False"] := by cases op <;> decide
    have hright : Spells (' ' :: (blanks after ++ (right.write _ ++ t))) _ :=
      .blank (by decide) (spells_blanks after (ihr ht h))
    have hop : Spells (' ' :: (op.symbol.toList ++ _)) _ :=
      .blank (by decide) (spells_word hword (.inr ⟨_, .inl rfl⟩) hright)
    have hleft := ihl (isBorder_blanks_append before (.inr ⟨_, .inl rfl⟩))
      (spells_blanks before hop)
    simpa [write, tokens] using hleft

/-! ### The tree -/

/-- The rule of the grammar for formulas of a rank. -/
def nonterminal : Nat → Nonterminal
  | 0 => .chain .disjunction
  | 1 => .chain .conjunction
  | 2 => .negation
  | _ => .primary

theorem rank_le (f : PresenceFormula rank) : rank ≤ 3 := by
  cases f with
  | call | group | not => omega
  | combine op => cases op <;> decide

/-- What is derived from the rule of a rank is derived from the rules of the lower ones. Only where
no negation begins there is no other way from the strongest rule. -/
theorem derives_of_le {n r : Nat} {ts : List Token} {e : Expr}
    (h : Derives n (nonterminal rank) ts e) (hrank : rank ≤ 3)
    (hnot : rank = 3 → ts.head? ≠ some (.ident "not")) (hle : r ≤ rank) :
    Derives n (nonterminal r) ts e := by
  induction rank with
  | zero => exact Nat.le_zero.1 hle ▸ h
  | succ rank ih =>
    rcases Nat.le_succ_iff.1 hle with hle | rfl
    · refine ih ?_ (by omega) (by omega) hle
      match rank, hrank with
      | 0, _ => exact .alone h
      | 1, _ => exact .alone h
      | 2, _ => exact .unnegated (.alone (.sum_of_sign (.unsigned (.base h)))) (hnot rfl)
    · exact h

theorem head?_tokens_ne (f : PresenceFormula rank) (hrank : rank = 3) :
    (f.tokens v).head? ≠ some (.ident "not") := by
  cases f with
  | call c => cases h : v c <;> simp [tokens, h] <;> decide
  | group => simp [tokens]
  | not => omega
  | combine op => cases op <;> cases hrank

/-- The tokens of a formula derive its tree. -/
theorem derives (f : PresenceFormula rank) {n : Nat} (hn : f.depth ≤ n) :
    Derives n (nonterminal rank) (f.tokens v) (f.expr v) := by
  induction f generalizing n with
  | call c => exact .constant (by cases v c <;> decide)
  | group _ f _ ih =>
    obtain ⟨n, rfl⟩ := Nat.exists_eq_succ_of_ne_zero (Nat.ne_zero_of_lt hn)
    have hbody := ih (Nat.le_of_succ_le_succ hn)
    exact .group (derives_of_le hbody f.rank_le f.head?_tokens_ne (Nat.zero_le _))
  | not _ f hrank ih =>
    obtain ⟨n, rfl⟩ := Nat.exists_eq_succ_of_ne_zero (Nat.ne_zero_of_lt hn)
    have hbody := ih (Nat.le_of_succ_le_succ hn)
    exact .unary .word (derives_of_le hbody f.rank_le f.head?_tokens_ne hrank)
  | combine op left _ _ right hleft hright ihl ihr =>
    rw [depth, Nat.max_le] at hn
    have hl := derives_of_le (ihl hn.1) left.rank_le left.head?_tokens_ne hleft
    have hr := derives_of_le (ihr hn.2) right.rank_le right.head?_tokens_ne hright
    cases op with
    | or => exact hl.append_link (by decide) (l := ⟨⟨_, _⟩, _, _⟩) (.word (by decide)) hr
    | and => exact hl.append_link (by decide) (l := ⟨⟨_, _⟩, _, _⟩) (.word (by decide)) hr

/-- The tree of a formula has its truth value. -/
theorem eval_expr (f : PresenceFormula rank) : (f.expr v).eval = .ok (.bool (f.value v)) := by
  induction f with
  | call c => rfl
  | group _ f _ ih => exact ih
  | not _ f _ ih => exact eval_unary_eq_ok_iff.2 ⟨_, ih, rfl⟩
  | combine op left _ _ right _ _ ihl ihr =>
    have hjoin : op.join (left.value v) (right.value v) =
        if left.value v = (op == .or) then left.value v else right.value v := by
      cases op <;> cases left.value v <;> rfl
    refine eval_combine_eq_ok_iff.2 ⟨_, ihl, ?_⟩
    rw [value, hjoin, Value.isTruthy]
    split_ifs
    · rfl
    · exact ⟨_, ihr, rfl⟩

end

/-- The value of a formula in which truth values stand for the calls. -/
theorem evaluate_write (f : PresenceFormula rank) (v : PresenceCall → Bool)
    (hsize : f.size ≤ maxTokens) (hdepth : f.depth ≤ maxDepth) :
    evaluate (f.write fun c => Value.boolText (v c)) = .ok (.bool (f.value v)) := by
  have htokens := (f.spells_write (v := v) (.inl rfl) .nil).tokens?
  rw [List.append_nil, List.append_nil] at htokens
  have hderives := derives_of_le (f.derives (v := v) hdepth) f.rank_le f.head?_tokens_ne
    (Nat.zero_le _)
  refine evaluate_eq_ok_iff.2 ⟨_, parse_eq_ok_iff_tokens?.2 ⟨_, htokens, ?_, ?_, hderives⟩,
    f.eval_expr⟩
  · exact f.length_tokens ▸ f.size_pos
  · exact f.length_tokens ▸ hsize

end PresenceFormula

end TripletFacts
