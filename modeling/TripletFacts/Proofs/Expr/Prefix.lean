import TripletFacts.Proofs.Expr.Words

/-!
# Tokens at the beginning of a text

A token is read as far as it goes. If it ends within the beginning of a text, the rest of the text
has no part in it: it is the token of that beginning.

## Main results

* `Token.numberWidth_append_of_le`: a numeral that ends within the beginning of a text.
* `Token.read?_append_of_le`: a token that ends within the beginning of a text.
-/

namespace TripletFacts

theorem takeWhile_append_of_le {p : Char → Bool} {a r : List Char}
    (h : ((a ++ r).takeWhile p).length ≤ a.length) : (a ++ r).takeWhile p = a.takeWhile p := by
  induction a with
  | nil => exact List.eq_nil_of_length_eq_zero (Nat.le_zero.1 h)
  | cons c a ih =>
    by_cases hc : p c = true
    · rw [List.cons_append, List.takeWhile_cons_of_pos hc] at h ⊢
      rw [List.takeWhile_cons_of_pos hc, ih (Nat.le_of_succ_le_succ h)]
    · rw [List.cons_append, List.takeWhile_cons_of_neg hc, List.takeWhile_cons_of_neg hc]

namespace Token

/-! ### Numerals -/

theorem fractionWidth_append_of_le {a r : List Char} (h : fractionWidth (a ++ r) ≤ a.length) :
    fractionWidth (a ++ r) = fractionWidth a := by
  cases a with
  | nil => exact Nat.le_zero.1 h
  | cons c a =>
    by_cases hc : c = '.'
    · subst hc
      rw [List.cons_append, fractionWidth] at h ⊢
      rw [fractionWidth, takeWhile_append_of_le (by rw [List.length_cons] at h; omega)]
    · simp [fractionWidth, hc]

theorem signWidth_append_of_ne_nil {a : List Char} (h : a ≠ []) (r : List Char) :
    signWidth (a ++ r) = signWidth a := by
  obtain ⟨c, a, rfl⟩ := List.exists_cons_of_ne_nil h
  rfl

theorem exponentWidth_append_of_le {a r : List Char} (h : exponentWidth (a ++ r) ≤ a.length) :
    exponentWidth (a ++ r) = exponentWidth a := by
  cases a with
  | nil => exact Nat.le_zero.1 h
  | cons e a =>
    rw [List.cons_append, exponentWidth_cons] at h ⊢
    rw [exponentWidth_cons]
    by_cases he : e = 'e' ∨ e = 'E'
    · rw [if_pos he] at h ⊢
      rw [if_pos he]
      by_cases hnil : a = []
      · subst hnil
        generalize ((([] ++ r).drop (signWidth ([] ++ r))).takeWhile isDigit).length = digits at h ⊢
        cases digits with
        | zero => rfl
        | succ digits =>
          change 1 + signWidth ([] ++ r) + (digits + 1) ≤ 1 at h
          omega
      · have hle := signWidth_le a
        rw [signWidth_append_of_ne_nil hnil, List.drop_append_of_le_length hle] at h ⊢
        have hdigits : ((a.drop (signWidth a) ++ r).takeWhile isDigit).length ≤
            (a.drop (signWidth a)).length := by
          rw [List.length_drop]
          generalize ((a.drop (signWidth a) ++ r).takeWhile isDigit).length = digits at h ⊢
          cases digits with
          | zero => exact Nat.zero_le _
          | succ digits =>
            change 1 + signWidth a + (digits + 1) ≤ a.length + 1 at h
            omega
        rw [takeWhile_append_of_le hdigits]
    · rw [if_neg he, if_neg he]

theorem numberWidth_append_of_le {a r : List Char} (h : numberWidth (a ++ r) ≤ a.length) :
    numberWidth (a ++ r) = numberWidth a := by
  unfold numberWidth at h ⊢
  dsimp only at h ⊢
  have hwhole : (a ++ r).takeWhile isDigit = a.takeWhile isDigit :=
    takeWhile_append_of_le (by omega)
  have hle := length_takeWhile_le isDigit a
  rw [hwhole, List.drop_append_of_le_length hle] at h ⊢
  generalize (a.takeWhile isDigit).length = whole at h hle ⊢
  have hfraction : fractionWidth (a.drop whole ++ r) = fractionWidth (a.drop whole) :=
    fractionWidth_append_of_le (by rw [List.length_drop]; omega)
  have hle' := fractionWidth_le (a.drop whole)
  rw [List.length_drop] at hle'
  rw [hfraction] at h ⊢
  generalize fractionWidth (a.drop whole) = fraction at h hle' ⊢
  rw [List.drop_append_of_le_length (by omega)] at h ⊢
  rw [exponentWidth_append_of_le (by rw [List.length_drop]; omega)]

/-! ### Tokens -/

/-- A numeral that begins with a point has a digit as well. -/
theorem one_lt_numberWidth_point {cs : List Char} (h : cs.head?.any isDigit = true) :
    1 < numberWidth ('.' :: cs) := by
  cases cs with
  | nil => cases h
  | cons d cs =>
    have hd : isDigit d = true := h
    unfold numberWidth
    dsimp only
    rw [List.takeWhile_cons_of_neg (by decide), List.length_nil, List.drop_zero, fractionWidth,
      List.takeWhile_cons_of_pos hd, List.length_cons]
    omega

/-- A symbol of one character is the same symbol at the end of a text. -/
theorem readSymbol_none_of_zero {c : Char} {upcoming : Option Char} {s : Symbol} {n : Nat}
    (h : readSymbol 0 c upcoming = .ok (s, n)) (hn : n = 0) : readSymbol 0 c none = .ok (s, n) := by
  subst hn
  unfold readSymbol at h ⊢
  split at h <;> simp_all

/-- A token that ends within the beginning of a text is the token of that beginning. -/
theorem read?_append_of_le {c : Char} {cs r : List Char} {t : Token} {n : Nat}
    (h : read? c (cs ++ r) = some (t, n)) (hle : n ≤ cs.length) : read? c cs = some (t, n) := by
  cases begins_of_read?_eq_some h with
  | lparen hc | rparen hc | comma hc =>
    subst hc
    rfl
  | str hc hs =>
    obtain ⟨-, hread⟩ := splitLiteral_of_readString hs
    have hread := hread (cs.drop n)
    rw [List.take_append_of_le_length hle, List.take_append_drop] at hread
    rw [read?_quote hc, hread]
    rfl
  | @number x hc hx =>
    have hwidth : numberWidth (c :: (cs ++ r)) = numberWidth (c :: cs) := by
      rw [← List.cons_append]
      exact numberWidth_append_of_le (by rw [List.cons_append, List.length_cons]; omega)
    have htake : (c :: (cs ++ r)).take (numberWidth (c :: cs)) =
        (c :: cs).take (numberWidth (c :: cs)) := by
      rw [← List.cons_append, List.take_append_of_le_length (numberWidth_le _)]
    have hc' : isDigit c = true ∨ c = '.' ∧ cs.head?.any isDigit = true := by
      refine hc.imp_right fun ⟨hpoint, hdigit⟩ => ⟨hpoint, ?_⟩
      cases cs with
      | cons d cs => exact hdigit
      | nil =>
        subst hpoint
        have hlt := one_lt_numberWidth_point hdigit
        rw [List.length_nil] at hle
        omega
    rw [hwidth, htake] at hx
    rw [hwidth]
    exact read?_of_number hc' hx
  | ident hc =>
    rw [takeWhile_append_of_le hle]
    exact read?_of_ident hc
  | op hs =>
    refine read?_of_symbol ?_
    cases cs with
    | cons d cs => exact hs
    | nil => exact readSymbol_none_of_zero hs (Nat.le_zero.1 hle)

end Token

end TripletFacts
