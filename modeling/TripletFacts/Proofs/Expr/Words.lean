import Mathlib.Tactic.SplitIfs
import TripletFacts.Proofs.Expr.Reading
import TripletFacts.Proofs.Number.Characters
import TripletFacts.Proofs.Outcome
import TripletFacts.Proofs.Unicode.Classes

/-!
# Tokens without positions

Where a token stands in a text does not matter for what it is, and a text can be cut before a
character that goes on with no token: its tokens are those of the two parts. So the tokens of a text
are those of its segments, one segment after the other.

## Main definitions

* `tokens?`: the tokens of a text without their positions.
* `stops`: characters that go on with no token.

## Main results

* `tokens?_cons`: the first token of a text, and the tokens after it.
* `tokens?_append`: the tokens of code and of what follows it.
* `tokens?_eq_segments`: the tokens of a text, segment by segment.
* `Expr.parse_eq_ok_iff_tokens?`: what is parsed depends only on the tokens.
-/

namespace TripletFacts

open TripletFacts.Expr

/-! ### Positions -/

/-- The token at the beginning of a text, and the number of characters after the first one that
belong to it. -/
def Token.read? (c : Char) (cs : List Char) : Option (Token × Nat) := (Token.read 0 c cs).toOption

/-- The tokens of a text without their positions. -/
def tokens? (text : List Char) : Option (List Token) := (tokenize text).toOption.map plain

namespace Token

theorem toOption_map {ε α β : Type} (f : α → β) (x : Except ε α) :
    (x.map f).toOption = x.toOption.map f := by
  cases x <;> rfl

theorem toOption_readString (p : Nat) (quote : Char) (cs : List Char) :
    (readString p quote cs).toOption = (readString 0 quote cs).toOption := by
  fun_induction readString p quote cs with
  | case1 | case2 => rfl
  | case3 c cs ih => simp only [readString, toOption_map, ih]
  | case4 cs => simp [readString]
  | case5 c cs hc hc' hq ih => simp [readString, *, toOption_map]

theorem toOption_readNumber (p : Nat) (text : List Char) :
    (readNumber p text).toOption = (readNumber 0 text).toOption := by
  unfold readNumber
  split
  · rfl
  · split
    · rfl
    · dsimp only
      split <;> rfl

theorem toOption_readSymbol (p : Nat) (c : Char) (upcoming : Option Char) :
    (readSymbol p c upcoming).toOption = (readSymbol 0 c upcoming).toOption := by
  unfold readSymbol
  split <;> rfl

/-- A token does not depend on its position. -/
theorem toOption_read (p : Nat) (c : Char) (cs : List Char) :
    (read p c cs).toOption = read? c cs := by
  unfold read? read
  split_ifs
  · rfl
  · rfl
  · rfl
  · rw [toOption_map, toOption_map, toOption_readString]
  · rw [toOption_map, toOption_map, toOption_readNumber]
  · rfl
  · rw [toOption_map, toOption_map, toOption_readSymbol]

theorem read_eq_ok_of_read? {c : Char} {cs : List Char} {t : Token} {n : Nat} (p : Nat)
    (h : read? c cs = some (t, n)) : read p c cs = .ok (t, n) :=
  toOption_eq_some_iff.1 ((toOption_read p c cs).trans h)

end Token

/-- The first token of a text that does not begin with a blank, and the tokens after it, wherever
the text stands. -/
theorem map_plain_tokensFrom_cons (p : Nat) {c : Char} (h : Unicode.isBlank c = false)
    (cs : List Char) :
    (tokensFrom p (c :: cs)).toOption.map plain = (Token.read? c cs).bind fun r =>
      ((tokensFrom (p + 1 + r.2) (cs.drop r.2)).toOption.map plain).map (r.1 :: ·) := by
  rw [tokensFrom, if_neg (by simp [h]), ← Token.toOption_read p]
  cases Token.read p c cs with
  | error e => rfl
  | ok x =>
    obtain ⟨t, n⟩ := x
    dsimp only [Except.toOption, Option.bind_some]
    cases tokensFrom (p + 1 + n) (cs.drop n) <;> rfl

/-- What is left of a text after one more character is shorter. -/
theorem length_drop_lt_cons {α : Type} (n : Nat) (c : α) (cs : List α) :
    (cs.drop n).length < (c :: cs).length := by
  rw [List.length_drop, List.length_cons]
  omega

/-- The tokens of a text do not depend on where it stands. -/
theorem map_plain_tokensFrom (p q : Nat) (text : List Char) :
    (tokensFrom p text).toOption.map plain = (tokensFrom q text).toOption.map plain := by
  induction hn : text.length using Nat.strongRecOn generalizing text p q with
  | ind n ih =>
    subst hn
    cases text with
    | nil => rw [tokensFrom, tokensFrom]
    | cons c cs =>
      cases h : Unicode.isBlank c with
      | true =>
        rw [tokensFrom, tokensFrom, if_pos h, if_pos h]
        exact ih cs.length (by simp) _ _ cs rfl
      | false =>
        rw [map_plain_tokensFrom_cons p h, map_plain_tokensFrom_cons q h]
        congr 1
        funext r
        rw [ih (cs.drop r.2).length (length_drop_lt_cons _ c cs) (p + 1 + r.2) (q + 1 + r.2) _ rfl]

@[simp] theorem tokens?_nil : tokens? [] = some [] := by
  simp [tokens?, tokenize, tokensFrom, Except.toOption]

theorem tokens?_blank {c : Char} (h : Unicode.isBlank c = true) (cs : List Char) :
    tokens? (c :: cs) = tokens? cs := by
  rw [tokens?, tokenize, tokensFrom, if_pos h]
  exact map_plain_tokensFrom _ _ _

/-- The first token of a text that does not begin with a blank, and the tokens after it. -/
theorem tokens?_cons {c : Char} (h : Unicode.isBlank c = false) (cs : List Char) :
    tokens? (c :: cs) =
      (Token.read? c cs).bind fun r => (tokens? (cs.drop r.2)).map (r.1 :: ·) := by
  rw [tokens?, tokenize, map_plain_tokensFrom_cons 0 h]
  congr 1
  funext r
  rw [map_plain_tokensFrom _ 0]
  rfl

theorem tokens?_eq_some_iff {text : List Char} {us : List Token} :
    tokens? text = some us ↔ ∃ ts, tokenize text = .ok ts ∧ plain ts = us := by
  rw [tokens?]
  cases tokenize text <;> simp [Except.toOption]

/-- What is parsed depends only on the tokens. -/
theorem Expr.parse_eq_ok_iff_tokens? {text : List Char} {e : Expr} :
    parse text = .ok e ↔ ∃ ts, tokens? text = some ts ∧ 1 ≤ ts.length ∧ ts.length ≤ maxTokens ∧
      Derives maxDepth (.chain .disjunction) ts e := by
  simp only [parse_eq_ok_iff, Denotes, tokens?_eq_some_iff]
  constructor
  · rintro ⟨ts, hts, hpos, hlen, h⟩
    exact ⟨plain ts, ⟨ts, hts, rfl⟩, by simpa using hpos, by simpa using hlen, h⟩
  · rintro ⟨_, ⟨ts, hts, rfl⟩, hpos, hlen, h⟩
    exact ⟨ts, hts, by simpa using hpos, by simpa using hlen, h⟩

/-! ### Cutting code -/

/-- Whether a character goes on with no token that begins before it. -/
def stops (c : Char) : Bool :=
  !Token.continuesName c && !isDigit c && !(['.', '+', '-', '*', '=', '&', '|'].contains c)

theorem stops_of_isBlank {c : Char} : Unicode.isBlank c = true → stops c = true :=
  Unicode.of_inRanges (P := fun c => stops c = true) (by decide +kernel)

theorem length_takeWhile_le {α : Type} (p : α → Bool) (l : List α) :
    (l.takeWhile p).length ≤ l.length :=
  (List.takeWhile_sublist p).length_le

theorem take_length_takeWhile (p : Char → Bool) (cs : List Char) :
    cs.take (cs.takeWhile p).length = cs.takeWhile p :=
  (List.prefix_iff_eq_take.1 (List.takeWhile_prefix p)).symm

theorem drop_length_takeWhile (p : Char → Bool) (cs : List Char) :
    cs.drop (cs.takeWhile p).length = cs.dropWhile p := by
  have h := List.take_append_drop (cs.takeWhile p).length cs
  rw [take_length_takeWhile] at h
  exact List.append_cancel_left (h.trans List.takeWhile_append_dropWhile.symm)

/-! ### Numerals -/

namespace Token

/-- The number of characters of the sign of an exponent. -/
def signWidth : List Char → Nat
  | [] => 0
  | s :: _ => if s = '+' ∨ s = '-' then 1 else 0

theorem signWidth_le (cs : List Char) : signWidth cs ≤ cs.length := by
  cases cs with
  | nil => exact Nat.le_refl _
  | cons s cs =>
    simp only [signWidth, List.length_cons]
    split_ifs <;> omega

theorem exponentWidth_cons (e : Char) (cs : List Char) :
    exponentWidth (e :: cs) =
      if e = 'e' ∨ e = 'E' then
        match ((cs.drop (signWidth cs)).takeWhile isDigit).length with
        | 0 => 0
        | digits => 1 + signWidth cs + digits
      else 0 := by
  cases cs <;> rfl

theorem fractionWidth_le (cs : List Char) : fractionWidth cs ≤ cs.length := by
  unfold fractionWidth
  split
  · rename_i cs
    have := length_takeWhile_le isDigit cs
    simp only [List.length_cons]
    omega
  · exact Nat.zero_le _

theorem exponentWidth_le (cs : List Char) : exponentWidth cs ≤ cs.length := by
  cases cs with
  | nil => exact Nat.le_refl _
  | cons e cs =>
    have hdigits := length_takeWhile_le isDigit (cs.drop (signWidth cs))
    have hsign := signWidth_le cs
    rw [List.length_drop] at hdigits
    rw [exponentWidth_cons, List.length_cons]
    split_ifs
    · generalize ((cs.drop (signWidth cs)).takeWhile isDigit).length = digits at hdigits
      cases digits with
      | zero => exact Nat.zero_le _
      | succ digits =>
        change 1 + signWidth cs + (digits + 1) ≤ cs.length + 1
        omega
    · exact Nat.zero_le _

theorem numberWidth_le (cs : List Char) : numberWidth cs ≤ cs.length := by
  have hwhole := length_takeWhile_le isDigit cs
  have hfraction := fractionWidth_le (cs.drop (cs.takeWhile isDigit).length)
  have hexponent := exponentWidth_le (cs.drop ((cs.takeWhile isDigit).length +
    fractionWidth (cs.drop (cs.takeWhile isDigit).length)))
  simp only [List.length_drop] at hfraction hexponent
  unfold numberWidth
  dsimp only
  omega

section

variable {b : List Char} (hb : b.head?.all stops = true)

include hb

/-- What a character that stops has no property of, the first character after code has not. -/
theorem all_head?_of_stops {p : Char → Bool} (hp : ∀ c, stops c = true → p c = false) :
    b.head?.all (fun c => !p c) = true := by
  cases b with
  | nil => rfl
  | cons c b =>
    simp only [List.head?_cons, Option.all_some] at hb ⊢
    simp [hp c hb]

theorem takeWhile_isDigit_append (a : List Char) :
    (a ++ b).takeWhile isDigit = a.takeWhile isDigit :=
  takeWhile_append_of_stops (all_head?_of_stops hb fun c hc => by simp_all [stops]) a

theorem fractionWidth_append (a : List Char) : fractionWidth (a ++ b) = fractionWidth a := by
  cases a with
  | nil =>
    cases b with
    | nil => rfl
    | cons c b =>
      have hc : c ≠ '.' := by
        rintro rfl
        simp [stops] at hb
      simp [fractionWidth, hc]
  | cons c a =>
    by_cases hc : c = '.'
    · subst hc
      simp only [List.cons_append, fractionWidth, takeWhile_isDigit_append hb]
    · simp [fractionWidth, hc]

theorem signWidth_append (a : List Char) : signWidth (a ++ b) = signWidth a := by
  cases a with
  | nil =>
    cases b with
    | nil => rfl
    | cons c b =>
      have hplus : c ≠ '+' := by
        rintro rfl
        simp [stops] at hb
      have hminus : c ≠ '-' := by
        rintro rfl
        simp [stops] at hb
      simp [signWidth, hplus, hminus]
  | cons c a => rfl

theorem exponentWidth_append (a : List Char) : exponentWidth (a ++ b) = exponentWidth a := by
  cases a with
  | nil =>
    cases b with
    | nil => rfl
    | cons c b =>
      have hsmall : c ≠ 'e' := by
        rintro rfl
        simp [show stops 'e' = false by decide] at hb
      have hcapital : c ≠ 'E' := by
        rintro rfl
        simp [show stops 'E' = false by decide] at hb
      rw [List.nil_append, exponentWidth_cons, if_neg (by simp [hsmall, hcapital])]
      rfl
  | cons e a =>
    rw [List.cons_append, exponentWidth_cons, exponentWidth_cons, signWidth_append hb,
      List.drop_append_of_le_length (signWidth_le a), takeWhile_isDigit_append hb]

theorem numberWidth_append (a : List Char) : numberWidth (a ++ b) = numberWidth a := by
  have hwhole := length_takeWhile_le isDigit a
  have hfraction := fractionWidth_le (a.drop (a.takeWhile isDigit).length)
  rw [List.length_drop] at hfraction
  unfold numberWidth
  dsimp only
  rw [takeWhile_isDigit_append hb, List.drop_append_of_le_length hwhole, fractionWidth_append hb,
    List.drop_append_of_le_length (by omega), exponentWidth_append hb]

/-- What a symbol is does not depend on code after it that begins with a character that stops. -/
theorem readSymbol_append (c : Char) (a : List Char) :
    (readSymbol 0 c (a ++ b).head?).toOption = (readSymbol 0 c a.head?).toOption := by
  cases a with
  | cons x a => rfl
  | nil =>
    cases b with
    | nil => rfl
    | cons d b =>
      have hd : d ≠ '*' ∧ d ≠ '=' ∧ d ≠ '&' ∧ d ≠ '|' := by
        refine ⟨?_, ?_, ?_, ?_⟩ <;> rintro rfl <;> simp [stops] at hb
      simp only [List.nil_append, List.head?_cons, List.head?_nil]
      unfold readSymbol
      split <;> simp_all

/-- The first token of code does not go on in what follows the code. -/
theorem read?_append {c : Char} (hc : isQuote c = false) (cs : List Char) :
    read? c (cs ++ b) = read? c cs := by
  have hdigit : (cs ++ b).head?.any isDigit = cs.head?.any isDigit := by
    cases cs with
    | cons x cs => rfl
    | nil =>
      cases b with
      | nil => rfl
      | cons d b => simp_all [stops]
  have hname : (cs ++ b).takeWhile continuesName = cs.takeWhile continuesName :=
    takeWhile_append_of_stops (all_head?_of_stops hb fun d hd => by simp_all [stops]) cs
  have hnumber := numberWidth_append hb (c :: cs)
  rw [List.cons_append] at hnumber
  unfold read? read
  rw [hdigit, hname, hnumber]
  split_ifs
  · rfl
  · rfl
  · rfl
  · simp_all [isQuote]
  · dsimp only
    rw [← List.cons_append, List.take_append_of_le_length (numberWidth_le _)]
  · rfl
  · rw [toOption_map, toOption_map, readSymbol_append hb]

end

/-- The ways in which a token begins with `c` and takes `n` characters of `cs`. -/
inductive Begins (c : Char) (cs : List Char) : Token → Nat → Prop
  | lparen (h : c = '(') : Begins c cs .lparen 0
  | rparen (h : c = ')') : Begins c cs .rparen 0
  | comma (h : c = ',') : Begins c cs .comma 0
  | str {s : List Char} {n : Nat} (hc : isQuote c = true) (h : readString 0 c cs = .ok (s, n)) :
      Begins c cs (.str (String.ofList s)) n
  | number {x : Number} (hc : isDigit c = true ∨ c = '.' ∧ cs.head?.any isDigit = true)
      (h : readNumber 0 ((c :: cs).take (numberWidth (c :: cs))) = .ok x) :
      Begins c cs (.number x) (numberWidth (c :: cs) - 1)
  | ident (hc : startsName c = true) :
      Begins c cs (.ident (String.ofList (c :: cs.takeWhile continuesName)))
        (cs.takeWhile continuesName).length
  | op {s : Symbol} {n : Nat} (h : readSymbol 0 c cs.head? = .ok (s, n)) : Begins c cs (.op s) n

/-- A token that is read begins in one of these ways. -/
theorem begins_of_read?_eq_some {c : Char} {cs : List Char} {t : Token} {n : Nat}
    (h : read? c cs = some (t, n)) : Begins c cs t n := by
  have hread := read_eq_ok_of_read? 0 h
  unfold read at hread
  split_ifs at hread with hl hr hcomma hquote hdigit hname
  · cases hread
    exact .lparen hl
  · cases hread
    exact .rparen hr
  · cases hread
    exact .comma hcomma
  · obtain ⟨x, hs, heq⟩ := map_eq_ok_iff.1 hread
    cases heq
    exact .str (by simpa [isQuote] using hquote) hs
  · obtain ⟨x, hx, heq⟩ := map_eq_ok_iff.1 hread
    cases heq
    exact .number (by simpa using hdigit) hx
  · cases hread
    exact .ident hname
  · obtain ⟨x, hs, heq⟩ := map_eq_ok_iff.1 hread
    cases heq
    exact .op hs

theorem read?_of_number {c : Char} {cs : List Char} {x : Number}
    (hc : isDigit c = true ∨ c = '.' ∧ cs.head?.any isDigit = true)
    (hx : readNumber 0 ((c :: cs).take (numberWidth (c :: cs))) = .ok x) :
    read? c cs = some (.number x, numberWidth (c :: cs) - 1) := by
  have hother : c ∉ ['(', ')', ',', '\'', '"'] := fun hmem => by
    simp only [List.mem_cons, List.not_mem_nil, or_false] at hmem
    rcases hmem with rfl | rfl | rfl | rfl | rfl <;> simp [isDigit] at hc
  simp only [List.mem_cons, List.not_mem_nil, or_false, not_or] at hother
  have hnumeral : (isDigit c || (c == '.' && cs.head?.any isDigit)) = true := by
    simpa only [Bool.or_eq_true, Bool.and_eq_true, beq_iff_eq] using hc
  rw [read?, read, if_neg hother.1, if_neg hother.2.1, if_neg hother.2.2.1,
    if_neg (not_or.2 hother.2.2.2), if_pos hnumeral]
  dsimp only
  rw [hx]
  rfl

theorem read?_of_ident {c : Char} {cs : List Char} (hc : startsName c = true) :
    read? c cs = some (.ident (String.ofList (c :: cs.takeWhile continuesName)),
      (cs.takeWhile continuesName).length) := by
  have hsigns : ['(', ')', ',', '\'', '"', '.'].any startsName = false := by decide
  have hne : ∀ x ∈ ['(', ')', ',', '\'', '"', '.'], c ≠ x := by
    rintro x hx rfl
    exact List.any_eq_false.1 hsigns c hx hc
  have hdigit : isDigit c = false := by
    cases h : isDigit c with
    | false => rfl
    | true =>
      rw [startsName_of_isDigit h] at hc
      cases hc
  simp only [List.mem_cons, List.not_mem_nil, or_false, forall_eq_or_imp, forall_eq] at hne
  obtain ⟨hl, hr, hcomma, hquote, hdouble, hpoint⟩ := hne
  unfold read? read
  rw [if_neg hl, if_neg hr, if_neg hcomma, if_neg (not_or.2 ⟨hquote, hdouble⟩),
    if_neg (by simp [hdigit, hpoint]), if_pos hc]
  rfl

theorem read?_of_symbol {c : Char} {cs : List Char} {s : Symbol} {n : Nat}
    (h : readSymbol 0 c cs.head? = .ok (s, n)) : read? c cs = some (.op s, n) := by
  have hmem : c ∈ ['*', '=', '!', '<', '>', '&', '|', '+', '-', '/', '%'] := by
    unfold readSymbol at h
    split at h <;> simp_all
  have hother : ['(', ')', ',', '\'', '"', '.'].all
      (fun x => !(['*', '=', '!', '<', '>', '&', '|', '+', '-', '/', '%'].contains x)) = true := by
    decide
  have hclass : ['*', '=', '!', '<', '>', '&', '|', '+', '-', '/', '%'].all
      (fun x => !isDigit x && !startsName x) = true := by decide
  have hne : ∀ x ∈ ['(', ')', ',', '\'', '"', '.'], c ≠ x := by
    rintro x hx rfl
    simpa [hmem] using List.all_eq_true.1 hother c hx
  have hc := List.all_eq_true.1 hclass c hmem
  simp only [Bool.and_eq_true, Bool.not_eq_true'] at hc
  simp only [List.mem_cons, List.not_mem_nil, or_false, forall_eq_or_imp, forall_eq] at hne
  obtain ⟨hl, hr, hcomma, hquote, hdouble, hpoint⟩ := hne
  rw [read?, read, if_neg hl, if_neg hr, if_neg hcomma, if_neg (not_or.2 ⟨hquote, hdouble⟩),
    if_neg (by simp [hc.1, hpoint]), if_neg (by simp [hc.2]), h]
  rfl

/-- A symbol has at most two characters. -/
theorem le_length_toList_of_readSymbol {p : Nat} {c : Char} {upcoming : Option Char} {s : Symbol}
    {n : Nat} (h : readSymbol p c upcoming = .ok (s, n)) : n ≤ upcoming.toList.length := by
  unfold readSymbol at h
  split at h <;> simp only [Except.ok.injEq, Prod.mk.injEq, reduceCtorEq] at h <;>
    simp [← h.2]

theorem le_length_of_readString {p : Nat} {quote : Char} {cs s : List Char} {n : Nat}
    (h : readString p quote cs = .ok (s, n)) : n ≤ cs.length := by
  fun_induction readString p quote cs generalizing s n with
  | case1 | case2 => cases h
  | case3 c cs ih | case5 c cs hc hc' hq ih =>
    obtain ⟨x, hs, heq⟩ := map_eq_ok_iff.1 h
    have hlength := ih hs
    cases heq
    simp only [List.length_cons]
    omega
  | case4 cs =>
    cases h
    simp

/-- A token does not reach past the end of the text. -/
theorem le_of_read?_eq_some {c : Char} {cs : List Char} {t : Token} {n : Nat}
    (h : read? c cs = some (t, n)) : n ≤ cs.length := by
  cases begins_of_read?_eq_some h with
  | lparen | rparen | comma => exact Nat.zero_le _
  | str hc h => exact le_length_of_readString h
  | number hc h =>
    have := numberWidth_le (c :: cs)
    rw [List.length_cons] at this
    omega
  | ident hc => exact length_takeWhile_le _ _
  | op h =>
    have := le_length_toList_of_readSymbol h
    cases cs <;> simp at this ⊢ <;> omega

end Token

/-! ### Code and what follows it -/

/-- The tokens of code and then those of what follows, which begins with a character that stops. -/
theorem tokens?_append {a b : List Char} (ha : quoteFree a = true)
    (hb : b.head?.all stops = true) :
    tokens? (a ++ b) = (tokens? a).bind fun ts => (tokens? b).map (ts ++ ·) := by
  induction hn : a.length using Nat.strongRecOn generalizing a with
  | ind n ih =>
    subst hn
    cases a with
    | nil => simp
    | cons c cs =>
      rw [quoteFree_cons] at ha
      cases h : Unicode.isBlank c with
      | true =>
        rw [List.cons_append, tokens?_blank h, tokens?_blank h]
        exact ih cs.length (by simp) ha.2 rfl
      | false =>
        rw [List.cons_append, tokens?_cons h, tokens?_cons h, Token.read?_append hb ha.1]
        cases hr : Token.read? c cs with
        | none => rfl
        | some r =>
          obtain ⟨t, n⟩ := r
          have hle := Token.le_of_read?_eq_some hr
          have hdrop := quoteFree_of_subset (List.drop_subset n cs) ha.2
          simp only [Option.bind_some]
          rw [List.drop_append_of_le_length hle,
            ih (cs.drop n).length (length_drop_lt_cons _ c cs) hdrop rfl]
          cases tokens? (cs.drop n) <;> cases tokens? b <;> rfl

/-! ### Literals -/

/-- A character is not `d` if `d` can stand neither at the end nor before anything else. -/
theorem ne_of_not_nil_of_not_cons {c d : Char} {cs : List Char} (hnil : c = d → cs = [] → False)
    (hcons : ∀ x xs, c = d → cs = x :: xs → False) : c ≠ d := by
  rintro rfl
  cases cs with
  | nil => exact hnil rfl rfl
  | cons x xs => exact hcons x xs rfl rfl

/-- A text in quotes that can be read is a literal, and what follows the literal does not matter. -/
theorem splitLiteral_of_readString {p : Nat} {quote : Char} {cs s : List Char} {n : Nat}
    (h : Token.readString p quote cs = .ok (s, n)) :
    splitLiteral quote false cs = (cs.take n, cs.drop n) ∧
      ∀ rest, Token.readString p quote (cs.take n ++ rest) = .ok (s, n) := by
  fun_induction Token.readString p quote cs generalizing s n with
  | case1 | case2 => cases h
  | case3 c cs ih =>
    obtain ⟨x, hs, heq⟩ := map_eq_ok_iff.1 h
    obtain ⟨hsplit, hread⟩ := ih hs
    cases heq
    refine ⟨by simp [splitLiteral, hsplit], fun rest => ?_⟩
    simp [Token.readString, hread, Except.map]
  | case4 cs hc hc' =>
    cases h
    have hquote := ne_of_not_nil_of_not_cons hc hc'
    simp [splitLiteral, hquote, Token.readString]
  | case5 c cs hc hc' hq ih =>
    have hslash := ne_of_not_nil_of_not_cons hc hc'
    obtain ⟨x, hs, heq⟩ := map_eq_ok_iff.1 h
    obtain ⟨hsplit, hread⟩ := ih hs
    cases heq
    refine ⟨by simp [splitLiteral, hslash, hq, hsplit], fun rest => ?_⟩
    simp [Token.readString, hslash, hq, hread, Except.map]

/-- A text in quotes that cannot be read does not end. -/
theorem splitLiteral_of_readString_eq_none {p : Nat} {quote : Char} {cs : List Char}
    (h : (Token.readString p quote cs).toOption = none) :
    splitLiteral quote false cs = (cs, []) := by
  fun_induction Token.readString p quote cs with
  | case1 => rfl
  | case2 => rfl
  | case3 c cs ih =>
    rw [Token.toOption_map, Option.map_eq_none_iff] at h
    simp [splitLiteral, ih h]
  | case4 cs => cases h
  | case5 c cs hc hc' hq ih =>
    have hslash := ne_of_not_nil_of_not_cons hc hc'
    rw [Token.toOption_map, Option.map_eq_none_iff] at h
    simp [splitLiteral, hslash, hq, ih h]

/-- A quote begins the token of a literal. -/
theorem Token.read?_quote {c : Char} (hc : isQuote c = true) (cs : List Char) :
    read? c cs = (readString 0 c cs).toOption.map fun r => (.str (String.ofList r.1), r.2) := by
  have hquote : c = '\'' ∨ c = '"' := by simpa [isQuote] using hc
  rw [← toOption_map]
  unfold read? read
  rcases hquote with rfl | rfl <;> rfl

theorem isBlank_eq_false_of_isQuote {c : Char} (hc : isQuote c = true) :
    Unicode.isBlank c = false := by
  have hquote : c = '\'' ∨ c = '"' := by simpa [isQuote] using hc
  rcases hquote with rfl | rfl <;> decide

/-- The token of a literal, and what follows the literal. -/
theorem tokens?_literal {c : Char} (hc : isQuote c = true) (cs : List Char) :
    tokens? (c :: cs) = (tokens? (c :: (splitLiteral c false cs).1)).bind fun ts =>
      (tokens? (splitLiteral c false cs).2).map (ts ++ ·) := by
  have hblank := isBlank_eq_false_of_isQuote hc
  rw [tokens?_cons hblank, tokens?_cons hblank, Token.read?_quote hc, Token.read?_quote hc]
  cases hs : Token.readString 0 c cs with
  | error e =>
    rw [splitLiteral_of_readString_eq_none (by rw [hs]; rfl), hs]
    rfl
  | ok x =>
    obtain ⟨s, n⟩ := x
    obtain ⟨hsplit, hread⟩ := splitLiteral_of_readString hs
    have hread := hread []
    rw [List.append_nil] at hread
    have hdrop : (cs.take n).drop n = [] := List.drop_eq_nil_of_le (List.length_take_le n cs)
    rw [hsplit, hread]
    simp [Except.toOption, hdrop]

theorem stops_of_isQuote {c : Char} (hc : isQuote c = true) : stops c = true := by
  have hquote : c = '\'' ∨ c = '"' := by simpa [isQuote] using hc
  rcases hquote with rfl | rfl <;> decide

/-- After code stands a quote, or nothing. -/
theorem all_head?_dropWhile_not_isQuote {p : Char → Bool} (hp : ∀ c, isQuote c = true → p c = true)
    (cs : List Char) : (cs.dropWhile (!isQuote ·)).head?.all p = true := by
  cases h : cs.dropWhile (!isQuote ·) with
  | nil => rfl
  | cons c rest =>
    have hc := List.head?_dropWhile_not (!isQuote ·) cs
    rw [h] at hc
    exact hp c (by simpa using hc)

/-- The tokens of code, and of what follows the code. -/
theorem tokens?_code {c : Char} (hc : ¬isQuote c = true) (cs : List Char) :
    tokens? (c :: cs) = (tokens? (c :: cs.takeWhile (!isQuote ·))).bind fun ts =>
      (tokens? (cs.dropWhile (!isQuote ·))).map (ts ++ ·) := by
  have happend := tokens?_append (quoteFree_cons_takeWhile hc cs)
    (all_head?_dropWhile_not_isQuote (fun _ => stops_of_isQuote) cs)
  rwa [List.cons_append, List.takeWhile_append_dropWhile] at happend

/-- The tokens of a text are those of its segments, one segment after the other. -/
theorem tokens?_eq_segments (text : List Char) :
    tokens? text = ((segments text).mapM fun s => tokens? s.text).map List.flatten := by
  fun_induction segments text with
  | case1 => simp
  | case2 c cs hc ih =>
    rw [tokens?_literal hc, ih, List.mapM_cons]
    dsimp only
    cases tokens? (c :: (splitLiteral c false cs).1) with
    | none => rfl
    | some ts => cases (segments (splitLiteral c false cs).2).mapM fun s => tokens? s.text <;> rfl
  | case3 c cs hc ih =>
    rw [tokens?_code hc, ih, List.mapM_cons]
    dsimp only
    cases tokens? (c :: cs.takeWhile (!isQuote ·)) with
    | none => rfl
    | some ts => cases (segments (cs.dropWhile (!isQuote ·))).mapM fun s => tokens? s.text <;> rfl

/-- The token of a text in single quotes is the text. -/
theorem tokens?_literal_str (s : String) : tokens? (Value.str s).literal = some [.str s] := by
  rw [Value.literal, tokens?_cons (by decide), Token.read?_quote (by decide),
    Token.readString_escape]
  have hdrop : (Value.escape s.toList ++ ['\'']).drop ((Value.escape s.toList).length + 1) = [] :=
    List.drop_eq_nil_of_le (by simp)
  simp [Except.toOption, hdrop]

end TripletFacts
