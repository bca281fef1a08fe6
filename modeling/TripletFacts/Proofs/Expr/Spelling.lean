import TripletFacts.Proofs.Expr.Words

/-!
# How tokens are spelled

A text that has tokens is made of blanks and of the characters of its tokens, one token after the
other. In code, where no quotes stand, a token is spelled in one of three ways: as a sign, as a
numeral or as a name.

## Main definitions

* `Spells`: the text of some tokens, token by token.
* `signs`: the signs and what they stand for.
* `Token.Spelled`: the characters of a token of code.
* `Exponent`: the exponent of a numeral in front of what follows the numeral.

## Main results

* `spells_of_tokens?`: a text that has tokens is made of them.
* `Token.spelled_of_read?`: the characters of a token of code.
* `exists_exponent`: the characters of a numeral.
-/

namespace TripletFacts

/-! ### Texts token by token -/

/-- A text is made of blanks and of the characters of some tokens. -/
inductive Spells : List Char → List Token → Prop
  | nil : Spells [] []
  | blank {c : Char} {cs : List Char} {ts : List Token} (hc : Unicode.isBlank c = true)
      (h : Spells cs ts) : Spells (c :: cs) ts
  | token {c : Char} {u rest : List Char} {t : Token} {ts : List Token}
      (hc : Unicode.isBlank c = false) (ht : Token.read? c (u ++ rest) = some (t, u.length))
      (h : Spells rest ts) : Spells (c :: (u ++ rest)) (t :: ts)

/-- A text that has tokens is made of them. -/
theorem spells_of_tokens? {text : List Char} {ts : List Token} (h : tokens? text = some ts) :
    Spells text ts := by
  induction hn : text.length using Nat.strongRecOn generalizing text ts with
  | ind n ih =>
    subst hn
    cases text with
    | nil =>
      rw [tokens?_nil, Option.some.injEq] at h
      exact h ▸ .nil
    | cons c cs =>
      cases hc : Unicode.isBlank c with
      | true => exact .blank hc (ih cs.length (by simp) (tokens?_blank hc cs ▸ h) rfl)
      | false =>
        rw [tokens?_cons hc, Option.bind_eq_some_iff] at h
        obtain ⟨⟨t, n⟩, hread, hrest⟩ := h
        obtain ⟨us, hus, rfl⟩ := Option.map_eq_some_iff.1 hrest
        have hle := Token.le_of_read?_eq_some hread
        have hspells := ih (cs.drop n).length (length_drop_lt_cons _ c cs) hus rfl
        have htoken : Spells (c :: (cs.take n ++ cs.drop n)) (t :: us) := by
          refine .token hc ?_ hspells
          rwa [List.take_append_drop, List.length_take, Nat.min_eq_left hle]
        rwa [List.take_append_drop] at htoken

/-- The tokens that a text is made of are the tokens of the text. -/
theorem tokens?_token {c : Char} {u rest : List Char} {t : Token}
    (hc : Unicode.isBlank c = false) (ht : Token.read? c (u ++ rest) = some (t, u.length)) :
    tokens? (c :: (u ++ rest)) = (tokens? rest).map (t :: ·) := by
  rw [tokens?_cons hc, ht, Option.bind_some, List.drop_left]

theorem Spells.tokens? {text : List Char} {ts : List Token} (h : Spells text ts) :
    tokens? text = some ts := by
  induction h with
  | nil => exact tokens?_nil
  | blank hc h ih => rw [tokens?_blank hc, ih]
  | token hc ht h ih => rw [tokens?_token hc ht, ih, Option.map_some]

/-! ### Signs and names -/

/-- The signs and what they stand for. -/
def signs : List (List Char × Token) :=
  [(['('], .lparen), ([')'], .rparen), ([','], .comma),
   (['*', '*'], .op (.binary (.compute .pow))), (['=', '='], .op (.binary (.compare .eq))),
   (['!', '='], .op (.binary (.compare .ne))), (['<', '='], .op (.binary (.compare .le))),
   (['>', '='], .op (.binary (.compare .ge))), (['&', '&'], .op (.binary (.combine .and))),
   (['|', '|'], .op (.binary (.combine .or))), (['+'], .op (.binary (.compute .add))),
   (['-'], .op (.binary (.compute .sub))), (['*'], .op (.binary (.compute .mul))),
   (['/'], .op (.binary (.compute .div))), (['%'], .op (.binary (.compute .mod))),
   (['<'], .op (.binary (.compare .lt))), (['>'], .op (.binary (.compare .gt))),
   (['!'], .op .bang)]

namespace Token

/-- The characters of a token of code. -/
inductive Spelled : List Char → Token → Prop
  | sign {u : List Char} {t : Token} (h : (u, t) ∈ signs) : Spelled u t
  | number {u : List Char} {x : Number}
      (h : ∀ c ∈ u, isDigit c = true ∨ c ∈ ['.', 'e', 'E', '+', '-']) : Spelled u (.number x)
  | ident {c : Char} {u : List Char} (hc : startsName c = true)
      (hu : ∀ x ∈ u, continuesName x = true) :
      Spelled (c :: u) (.ident (String.ofList (c :: u)))

theorem mem_signs_of_readSymbol {p : Nat} {c : Char} {u rest : List Char} {s : Symbol}
    (h : readSymbol p c (u ++ rest).head? = .ok (s, u.length)) : (c :: u, .op s) ∈ signs := by
  unfold readSymbol at h
  split at h
  case h_1 | h_2 | h_3 | h_4 | h_5 | h_6 | h_7 =>
    rename_i hhead
    simp only [Except.ok.injEq, Prod.mk.injEq] at h
    obtain ⟨rfl, hlen⟩ := h
    obtain ⟨d, rfl⟩ := List.length_eq_one_iff.1 hlen.symm
    simp only [List.cons_append, List.head?_cons, Option.some.injEq] at hhead
    subst hhead
    decide
  case h_8 | h_9 | h_10 | h_11 | h_12 | h_13 | h_14 | h_15 =>
    simp only [Except.ok.injEq, Prod.mk.injEq] at h
    obtain ⟨rfl, hlen⟩ := h
    obtain rfl := List.eq_nil_of_length_eq_zero hlen.symm
    decide
  all_goals cases h

end Token

/-! ### Numerals -/

/-- The exponent of a numeral in front of what follows the numeral; a numeral may have none. -/
inductive Exponent : List Char → List Char → Prop
  | none (rest : List Char) : Exponent [] rest
  | some {e : Char} {sign digits rest : List Char} (he : e = 'e' ∨ e = 'E')
      (hsign : sign = [] ∨ sign = ['+'] ∨ sign = ['-']) (hne : digits ≠ [])
      (hdigits : ∀ d ∈ digits, isDigit d = true)
      (hrest : rest.head?.any isDigit = false) : Exponent (e :: (sign ++ digits)) rest

/-- The sign of an exponent. -/
theorem take_signWidth (cs : List Char) : cs.take (Token.signWidth cs) = [] ∨
    cs.take (Token.signWidth cs) = ['+'] ∨ cs.take (Token.signWidth cs) = ['-'] := by
  cases cs with
  | nil => exact .inl rfl
  | cons s cs =>
    rw [Token.signWidth]
    split_ifs with hs
    · rcases hs with rfl | rfl <;> simp
    · exact .inl rfl

theorem exponent_exponentWidth (cs : List Char) :
    Exponent (cs.take (Token.exponentWidth cs)) (cs.drop (Token.exponentWidth cs)) := by
  cases cs with
  | nil => exact .none []
  | cons e cs =>
    rw [Token.exponentWidth_cons]
    split_ifs with he
    · have hsplit := List.takeWhile_append_dropWhile (p := isDigit)
        (l := cs.drop (Token.signWidth cs))
      generalize hdigits : (cs.drop (Token.signWidth cs)).takeWhile isDigit = digits at hsplit
      generalize hrest : (cs.drop (Token.signWidth cs)).dropWhile isDigit = rest at hsplit
      cases digits with
      | nil => exact .none _
      | cons d digits =>
        have htake : (e :: cs).take (1 + Token.signWidth cs + (digits.length + 1)) =
            e :: (cs.take (Token.signWidth cs) ++ d :: digits) := by
          rw [show 1 + Token.signWidth cs + (digits.length + 1) =
            (Token.signWidth cs + (digits.length + 1)) + 1 by omega, List.take_succ_cons,
            List.take_add, ← hsplit, ← List.length_cons, List.take_left]
        have hdrop : (e :: cs).drop (1 + Token.signWidth cs + (digits.length + 1)) = rest := by
          rw [show 1 + Token.signWidth cs + (digits.length + 1) =
            (Token.signWidth cs + (digits.length + 1)) + 1 by omega, List.drop_succ_cons,
            ← List.drop_drop, ← hsplit, ← List.length_cons, List.drop_left]
        simp only [List.length_cons]
        rw [htake, hdrop]
        refine .some he (take_signWidth cs) (by simp) (fun x hx => ?_)
          (hrest ▸ any_head?_dropWhile _)
        rw [← hdigits] at hx
        exact List.all_eq_true.1 List.all_takeWhile x hx
    · exact .none _

/-- The characters of a fraction. -/
theorem mem_take_fractionWidth {cs : List Char} {c : Char}
    (h : c ∈ cs.take (Token.fractionWidth cs)) : isDigit c = true ∨ c = '.' := by
  unfold Token.fractionWidth at h
  split at h
  · rename_i cs
    rw [Nat.add_comm, List.take_succ_cons, List.mem_cons, take_length_takeWhile] at h
    exact h.symm.imp_left fun h => List.all_eq_true.1 List.all_takeWhile c h
  · simp at h

/-- The characters of the numeral at the beginning of a text: digits and a point, and then the
exponent. -/
theorem exists_exponent (cs : List Char) :
    ∃ a x, cs.take (Token.numberWidth cs) = a ++ x ∧ (∀ c ∈ a, isDigit c = true ∨ c = '.') ∧
      Exponent x (cs.drop (Token.numberWidth cs)) := by
  unfold Token.numberWidth
  dsimp only
  generalize hwhole : (cs.takeWhile isDigit).length = whole
  generalize hfraction : Token.fractionWidth (cs.drop whole) = fraction
  refine ⟨cs.take (whole + fraction), _, List.take_add, fun c hc => ?_, ?_⟩
  · rw [List.take_add, List.mem_append] at hc
    rcases hc with hc | hc
    · rw [← hwhole, take_length_takeWhile] at hc
      exact .inl (List.all_eq_true.1 List.all_takeWhile c hc)
    · exact mem_take_fractionWidth (hfraction ▸ hc)
  · have hexponent := exponent_exponentWidth (cs.drop (whole + fraction))
    rwa [List.drop_drop] at hexponent

theorem Exponent.mem {x rest : List Char} (h : Exponent x rest) {c : Char} (hc : c ∈ x) :
    isDigit c = true ∨ c ∈ ['e', 'E', '+', '-'] := by
  cases h with
  | none => simp at hc
  | some he hsign hne hdigits hrest =>
    rw [List.mem_cons, List.mem_append] at hc
    rcases hc with rfl | hc | hc
    · rcases he with rfl | rfl <;> simp
    · rcases hsign with rfl | rfl | rfl <;> simp_all
    · exact .inl (hdigits c hc)

/-- The number of characters of a numeral that begins with a digit or a point. -/
theorem one_le_numberWidth {c : Char} (hc : isDigit c = true ∨ c = '.') (cs : List Char) :
    1 ≤ Token.numberWidth (c :: cs) := by
  unfold Token.numberWidth
  dsimp only
  by_cases hdigit : isDigit c = true
  · rw [List.takeWhile_cons_of_pos hdigit, List.length_cons]
    omega
  · obtain rfl := hc.resolve_left hdigit
    rw [List.takeWhile_cons_of_neg hdigit, List.length_nil, List.drop_zero, Token.fractionWidth]
    omega

/-! ### Tokens of code -/

namespace Token

/-- A numeral is made of digits and a point, and then of the exponent. -/
theorem numeral_of_read? {c : Char} {u rest : List Char} {x : Number}
    (h : read? c (u ++ rest) = some (.number x, u.length)) :
    (isDigit c = true ∨ c = '.') ∧ ∃ a e, c :: u = a ++ e ∧
      (∀ d ∈ a, isDigit d = true ∨ d = '.') ∧ Exponent e rest := by
  generalize hn : u.length = n at h
  cases begins_of_read?_eq_some h with
  | number hc hx =>
    have hc := hc.imp_right And.left
    have hpos := one_le_numberWidth hc (u ++ rest)
    obtain ⟨a, e, hae, ha, he⟩ := exists_exponent (c :: (u ++ rest))
    rw [show numberWidth (c :: (u ++ rest)) = u.length + 1 by omega, List.take_succ_cons,
      List.take_left] at hae
    rw [show numberWidth (c :: (u ++ rest)) = u.length + 1 by omega, List.drop_succ_cons,
      List.drop_left] at he
    exact ⟨hc, a, e, hae, ha, he⟩

/-- A name goes up to the first character that does not go on with it. -/
theorem name_of_read? {c : Char} {u rest : List Char} {name : String}
    (h : read? c (u ++ rest) = some (.ident name, u.length)) :
    name = String.ofList (c :: u) ∧ startsName c = true ∧ (∀ x ∈ u, continuesName x = true) ∧
      rest.head?.any continuesName = false := by
  generalize hn : u.length = n at h
  cases begins_of_read?_eq_some h with
  | ident hc =>
    have htake : (u ++ rest).takeWhile continuesName = u := by
      rw [← take_length_takeWhile, ← hn, List.take_left]
    have hdrop : (u ++ rest).dropWhile continuesName = rest := by
      have happend := List.takeWhile_append_dropWhile (p := continuesName) (l := u ++ rest)
      rw [htake] at happend
      exact List.append_cancel_left happend
    refine ⟨by rw [htake], hc, fun x hx => ?_, hdrop ▸ any_head?_dropWhile _⟩
    exact List.all_eq_true.1 List.all_takeWhile x (htake ▸ hx)

/-- The characters of a token that is read where no quote stands. -/
theorem spelled_of_read? {c : Char} {u rest : List Char} {t : Token} (hc : isQuote c = false)
    (h : read? c (u ++ rest) = some (t, u.length)) : Spelled (c :: u) t := by
  have hread := h
  generalize hn : u.length = n at h
  cases begins_of_read?_eq_some h with
  | lparen hc | rparen hc | comma hc =>
    obtain rfl := List.eq_nil_of_length_eq_zero hn
    subst hc
    exact .sign (by decide)
  | str hq => simp [hc] at hq
  | number =>
    obtain ⟨-, a, e, hae, ha, he⟩ := numeral_of_read? hread
    refine .number fun d hd => ?_
    rw [hae, List.mem_append] at hd
    rcases hd with hd | hd
    · exact (ha d hd).imp_right fun h => by simp [h]
    · exact (he.mem hd).imp_right fun h => by simp_all
  | ident =>
    obtain ⟨hname, hstart, hgo, -⟩ := name_of_read? hread
    rw [hname]
    exact .ident hstart hgo
  | op hs => exact .sign (mem_signs_of_readSymbol (hn ▸ hs))

end Token

end TripletFacts
