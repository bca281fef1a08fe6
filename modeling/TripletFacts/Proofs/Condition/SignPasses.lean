import TripletFacts.Condition.Normalize
import TripletFacts.Proofs.Expr.Scan
import TripletFacts.Proofs.Expr.Spelling
import TripletFacts.Proofs.Unicode.Classes

/-!
# Signs in code that has tokens

Code that has tokens has no `^` and no lone `=`, and if no comparison sign stands after another one,
it has no `<>`: the passes that replace these signs leave it as it is. Its parentheses are those of
its tokens.

## Main definitions

* `isSignChar`, `isCodeChar`: the characters of signs, and of code that has tokens.

## Main results

* `Spells.isCodeChar`: code that has tokens has no other characters.
* `openAfter_of_spells`: the depth of parentheses after code is that after its tokens.
* `replaceFrom_unequal_of_spells`, `doubleEquals_of_spells`: passes that change nothing.
-/

namespace TripletFacts

/-! ### Characters -/

/-- The characters that only signs are spelled with. -/
def isSignChar (c : Char) : Bool :=
  ['(', ')', ',', '*', '=', '!', '<', '>', '&', '|', '/', '%'].contains c

/-- The characters of code that has tokens. -/
def isCodeChar (c : Char) : Bool :=
  Unicode.isBlank c || Token.continuesName c || isDigit c || ['.', '+', '-'].contains c ||
    isSignChar c

/-- The characters that only signs are spelled with are in no name. -/
theorem continuesName_of_isSignChar {c : Char} (hc : isSignChar c = true) :
    Token.continuesName c = false := by
  have hsigns : ['(', ')', ',', '*', '=', '!', '<', '>', '&', '|', '/', '%'].any
      Token.continuesName = false := by decide
  exact Bool.eq_false_iff.2 (List.any_eq_false.1 hsigns c (List.contains_iff_mem.1 hc))

/-- What is spelled with the characters of signs is a sign. -/
theorem Token.Spelled.mem_signs {u : List Char} {t : Token} (h : t.Spelled u) {c : Char}
    (hmem : c ∈ u) (hc : isSignChar c = true) : (u, t) ∈ signs := by
  have hname := continuesName_of_isSignChar hc
  cases h with
  | sign h => exact h
  | number hchars =>
    have hsigns : ['(', ')', ',', '*', '=', '!', '<', '>', '&', '|', '/', '%'].any
        (fun c => isDigit c || ['.', 'e', 'E', '+', '-'].contains c) = false := by decide
    have hother := List.any_eq_false.1 hsigns c (List.contains_iff_mem.1 hc)
    rw [Bool.or_eq_true, List.contains_iff_mem] at hother
    exact absurd (hchars c hmem) hother
  | ident hstart hgo =>
    rcases List.mem_cons.1 hmem with rfl | hmem
    · rw [continuesName_of_startsName hstart] at hname
      cases hname
    · rw [hgo c hmem] at hname
      cases hname

/-- The characters of a token of code. -/
theorem Token.Spelled.isCodeChar {u : List Char} {t : Token} (h : t.Spelled u) :
    ∀ c ∈ u, isCodeChar c = true := by
  cases h with
  | sign hmem =>
    have hsigns : ∀ p ∈ signs, p.1.all TripletFacts.isCodeChar = true := by decide
    exact List.all_eq_true.1 (hsigns _ hmem)
  | number hchars =>
    intro c hc
    rcases hchars c hc with h | h
    · simp [TripletFacts.isCodeChar, h]
    · simp only [List.mem_cons, List.not_mem_nil, or_false] at h
      rcases h with rfl | rfl | rfl | rfl | rfl <;> decide
  | ident hstart hgo =>
    intro c hc
    have hname : Token.continuesName c = true := by
      rcases List.mem_cons.1 hc with rfl | hc
      · exact continuesName_of_startsName hstart
      · exact hgo c hc
    simp [TripletFacts.isCodeChar, hname]

section

variable {a : List Char} {ts : List Token}

/-- Code that has tokens has the characters of tokens and blanks only. -/
theorem Spells.isCodeChar (h : Spells a ts) (hq : quoteFree a = true) :
    ∀ c ∈ a, isCodeChar c = true := by
  induction h with
  | nil => simp
  | @blank c cs ts hc h ih =>
    rw [quoteFree_cons] at hq
    intro x hx
    rcases List.mem_cons.1 hx with rfl | hx
    · simp [TripletFacts.isCodeChar, hc]
    · exact ih hq.2 x hx
  | @token c u rest t ts hc ht h ih =>
    rw [quoteFree_cons, quoteFree_append] at hq
    intro x hx
    rw [← List.cons_append, List.mem_append] at hx
    rcases hx with hx | hx
    · exact (Token.spelled_of_read? hq.1 ht).isCodeChar x hx
    · exact ih hq.2.2 x hx

theorem Spells.not_mem (h : Spells a ts) (hq : quoteFree a = true) {c : Char}
    (hc : TripletFacts.isCodeChar c = false) : c ∉ a := by
  intro hmem
  rw [h.isCodeChar hq c hmem] at hc
  cases hc

/-! ### Parentheses -/

theorem openAfter_cons_of_ne {c : Char} (hl : c ≠ '(') (hr : c ≠ ')') (depth : Nat)
    (cs : List Char) : openAfter depth (c :: cs) = openAfter depth cs := by
  cases depth <;> simp [openAfter, hl, hr]

theorem openAfter_append_of_not_mem {u : List Char} (hl : '(' ∉ u) (hr : ')' ∉ u) (depth : Nat)
    (rest : List Char) : openAfter depth (u ++ rest) = openAfter depth rest := by
  induction u with
  | nil => rfl
  | cons c u ih =>
    simp only [List.mem_cons, not_or] at hl hr
    rw [List.cons_append, openAfter_cons_of_ne (Ne.symm hl.1) (Ne.symm hr.1)]
    exact ih hl.2 hr.2

theorem openAfter_append (depth : Nat) (t u : List Char) :
    openAfter depth (t ++ u) = (openAfter depth t).bind (openAfter · u) := by
  induction t generalizing depth with
  | nil => rfl
  | cons c t ih =>
    cases depth <;>
    · simp only [List.cons_append, openAfter]
      split_ifs <;> first | exact ih _ | rfl

theorem Scan.depth_of_next {s s' : Scan} {t : Token} (h : s.next t = some s') (hl : t ≠ .lparen)
    (hr : t ≠ .rparen) : s'.depth = s.depth := by
  unfold Scan.next at h
  split at h
  · exact absurd rfl hl
  · exact absurd rfl hr
  · split_ifs at h
    cases h
    rfl
  · cases h
    rfl

/-- Only a parenthesis is spelled with parentheses. -/
theorem Token.Spelled.not_mem_parentheses {u : List Char} {t : Token} (h : t.Spelled u)
    (hl : t ≠ .lparen) (hr : t ≠ .rparen) : '(' ∉ u ∧ ')' ∉ u := by
  have hsigns : ∀ p ∈ signs, '(' ∈ p.1 ∨ ')' ∈ p.1 → p.2 = .lparen ∨ p.2 = .rparen := by decide
  constructor
  · intro hmem
    rcases hsigns _ (h.mem_signs hmem (by decide)) (.inl hmem) with h | h
    · exact hl h
    · exact hr h
  · intro hmem
    rcases hsigns _ (h.mem_signs hmem (by decide)) (.inr hmem) with h | h
    · exact hl h
    · exact hr h

/-- The depth of parentheses after a token of code. -/
theorem openAfter_append_of_spelled {u : List Char} {t : Token} (h : t.Spelled u) {s s' : Scan}
    (hs : s.next t = some s') (rest : List Char) :
    openAfter s.depth (u ++ rest) = openAfter s'.depth rest := by
  by_cases hl : t = .lparen
  · subst hl
    have hsigns : ∀ p ∈ signs, p.2 = .lparen → p.1 = ['('] := by decide
    cases h with
    | sign hmem =>
      obtain rfl : u = ['('] := hsigns _ hmem rfl
      rw [← Option.some.inj hs]
      rfl
  · by_cases hr : t = .rparen
    · subst hr
      have hsigns : ∀ p ∈ signs, p.2 = .rparen → p.1 = [')'] := by decide
      obtain ⟨depth, compared⟩ := s
      cases h with
      | sign hmem =>
        obtain rfl : u = [')'] := hsigns _ hmem rfl
        cases depth with
        | zero => cases hs
        | succ depth =>
          rw [← Option.some.inj hs]
          rfl
    · obtain ⟨hleft, hright⟩ := h.not_mem_parentheses hl hr
      rw [openAfter_append_of_not_mem hleft hright, Scan.depth_of_next hs hl hr]

/-- The depth of parentheses after code is the depth after its tokens. -/
theorem openAfter_of_spells (h : Spells a ts) (hq : quoteFree a = true) {s s' : Scan}
    (hs : s.run ts = some s') (rest : List Char) :
    openAfter s.depth (a ++ rest) = openAfter s'.depth rest := by
  induction h generalizing s with
  | nil =>
    rw [← Option.some.inj hs]
    rfl
  | @blank c cs ts hc h ih =>
    rw [quoteFree_cons] at hq
    have hl : c ≠ '(' := by
      rintro rfl
      exact absurd hc (by decide)
    have hr : c ≠ ')' := by
      rintro rfl
      exact absurd hc (by decide)
    rw [List.cons_append, openAfter_cons_of_ne hl hr]
    exact ih hq.2 hs
  | @token c u rest' t ts hc ht h ih =>
    rw [quoteFree_cons, quoteFree_append] at hq
    rw [Scan.run_cons, Option.bind_eq_some_iff] at hs
    obtain ⟨s₁, hnext, hrun⟩ := hs
    rw [← List.cons_append, List.append_assoc,
      openAfter_append_of_spelled (Token.spelled_of_read? hq.1 ht) hnext]
    exact ih hq.2.2 hrun

/-! ### Passes that change nothing -/

theorem replaceFrom_append_of_not_mem {o : Char} (old new : List Char) {u : List Char} (h : o ∉ u)
    (rest : List Char) :
    replaceFrom (o :: old) new 0 (u ++ rest) = u ++ replaceFrom (o :: old) new 0 rest := by
  induction u with
  | nil => rfl
  | cons c u ih =>
    simp only [List.mem_cons, not_or] at h
    rw [List.cons_append, replaceFrom, if_neg (by simp [h.1]), ih h.2, List.cons_append]

theorem replaceFrom_of_not_mem {o : Char} (old new : List Char) {t : List Char} (h : o ∉ t) :
    replaceFrom (o :: old) new 0 t = t := by
  have happend := replaceFrom_append_of_not_mem old new h []
  simpa only [replaceFrom, List.append_nil] using happend

theorem doubleEquals_append_of_not_mem {u : List Char} (h : '=' ∉ u) (previous : Option Char)
    (rest : List Char) : ∃ previous',
      doubleEquals previous (u ++ rest) = u ++ doubleEquals previous' rest := by
  induction u generalizing previous with
  | nil => exact ⟨previous, rfl⟩
  | cons c u ih =>
    simp only [List.mem_cons, not_or] at h
    obtain ⟨previous', happend⟩ := ih h.2 (some c)
    refine ⟨previous', ?_⟩
    rw [List.cons_append, doubleEquals, if_neg (fun hc => h.1 hc.1.symm), happend,
      List.cons_append]

theorem doubleEquals_of_not_mem {t : List Char} (h : '=' ∉ t) (previous : Option Char) :
    doubleEquals previous t = t := by
  obtain ⟨previous', happend⟩ := doubleEquals_append_of_not_mem h previous []
  simpa only [doubleEquals, List.append_nil] using happend

theorem doubleEquals_pair {o : Char} (ho : o ∈ ['=', '!', '<', '>']) (previous : Option Char)
    (rest : List Char) :
    doubleEquals previous (o :: '=' :: rest) = o :: '=' :: doubleEquals (some '=') rest := by
  have hprevious : some o ∈ [some '=', some '!', some '<', some '>'] := by simpa using ho
  rw [doubleEquals, if_neg (fun h => h.2.2 rfl), doubleEquals, if_neg (fun h => h.2.1 hprevious)]

/-- The automaton does not go through two comparison signs after one another. -/
theorem Scan.run_comparisons {s s' : Scan} {op op' : Comparison} {us : List Token}
    (h : s.next (.op (.binary (.compare op))) = some s') :
    s'.run (.op (.binary (.compare op')) :: us) = none := by
  rw [Scan.next] at h
  split_ifs at h
  cases h
  rfl

/-- Code that begins with `>` begins with a comparison sign. -/
theorem exists_comparison_of_spells {r : List Char} (h : Spells ('>' :: r) ts) :
    ∃ op us, ts = .op (.binary (.compare op)) :: us := by
  generalize ha : '>' :: r = a at h
  cases h with
  | nil => cases ha
  | blank hc =>
    cases ha
    exact absurd hc (by decide)
  | @token c u rest t ts hc ht h =>
    cases ha
    have hmem := (Token.spelled_of_read? (by decide) ht).mem_signs (c := '>') (by simp) (by decide)
    have hsigns : ∀ p ∈ signs, p.1.head? = some '>' →
        p.2 = .op (.binary (.compare .gt)) ∨ p.2 = .op (.binary (.compare .ge)) := by decide
    rcases hsigns _ hmem rfl with h | h
    · exact ⟨.gt, ts, congrArg (· :: ts) h⟩
    · exact ⟨.ge, ts, congrArg (· :: ts) h⟩

/-- Where comparison signs do not meet, no `<>` is written. -/
theorem replaceFrom_unequal_of_spells (h : Spells a ts) (hq : quoteFree a = true) {s s' : Scan}
    (hs : s.run ts = some s') (new : List Char) : replaceFrom ['<', '>'] new 0 a = a := by
  induction h generalizing s with
  | nil => rfl
  | @blank c cs ts hc h ih =>
    rw [quoteFree_cons] at hq
    have hne : '<' ≠ c := by
      rintro rfl
      exact absurd hc (by decide)
    rw [replaceFrom, if_neg (by simp [hne]), ih hq.2 hs]
  | @token c u rest t ts hc ht h ih =>
    rw [quoteFree_cons, quoteFree_append] at hq
    rw [Scan.run_cons, Option.bind_eq_some_iff] at hs
    obtain ⟨s₁, hnext, hrun⟩ := hs
    have hspelled := Token.spelled_of_read? hq.1 ht
    rw [← List.cons_append]
    generalize c :: u = chars at hspelled
    by_cases hmem : '<' ∈ chars
    · have hsigns : ∀ p ∈ signs, '<' ∈ p.1 → p.1 = ['<', '='] ∨
          p.1 = ['<'] ∧ p.2 = .op (.binary (.compare .lt)) := by decide
      rcases hsigns _ (hspelled.mem_signs hmem (by decide)) hmem with hle | ⟨hlt, hop⟩
      · dsimp only at hle
        rw [hle, List.cons_append, List.cons_append, List.nil_append, replaceFrom,
          if_neg (by simp), replaceFrom, if_neg (by simp), ih hq.2.2 hrun]
      · dsimp only at hlt hop
        have hgt : rest.head? ≠ some '>' := by
          intro hhead
          obtain ⟨r, rfl⟩ := List.head?_eq_some_iff.1 hhead
          obtain ⟨op, us, rfl⟩ := exists_comparison_of_spells h
          rw [hop] at hnext
          rw [Scan.run_comparisons hnext] at hrun
          cases hrun
        rw [hlt, List.cons_append, List.nil_append, replaceFrom, if_neg ?_, ih hq.2.2 hrun]
        cases rest with
        | nil => simp
        | cons d rest =>
          intro hprefix
          obtain rfl : '>' = d := by simpa [List.isPrefixOf] using hprefix
          exact hgt rfl
    · rw [replaceFrom_append_of_not_mem _ _ hmem, ih hq.2.2 hrun]

/-- In code that has tokens `=` is a part of another sign. -/
theorem doubleEquals_of_spells (h : Spells a ts) (hq : quoteFree a = true)
    (previous : Option Char) : doubleEquals previous a = a := by
  induction h generalizing previous with
  | nil => rfl
  | @blank c cs ts hc h ih =>
    rw [quoteFree_cons] at hq
    have hne : c ≠ '=' := by
      rintro rfl
      exact absurd hc (by decide)
    rw [doubleEquals, if_neg (fun h => hne h.1), ih hq.2]
  | @token c u rest t ts hc ht h ih =>
    rw [quoteFree_cons, quoteFree_append] at hq
    have hspelled := Token.spelled_of_read? hq.1 ht
    rw [← List.cons_append]
    generalize c :: u = chars at hspelled
    by_cases hmem : '=' ∈ chars
    · have hsigns : ∀ p ∈ signs, '=' ∈ p.1 →
          p.1 ∈ ['=', '!', '<', '>'].map ([·, '=']) := by decide
      obtain ⟨o, ho, hpair⟩ :=
        List.mem_map.1 (hsigns _ (hspelled.mem_signs hmem (by decide)) hmem)
      dsimp only at hpair
      rw [← hpair, List.cons_append, List.cons_append, List.nil_append, doubleEquals_pair ho,
        ih hq.2.2]
    · obtain ⟨previous', happend⟩ := doubleEquals_append_of_not_mem hmem previous rest
      rw [happend, ih hq.2.2]

end

end TripletFacts
