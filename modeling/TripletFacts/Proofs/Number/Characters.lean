import TripletFacts.Condition.Segment

/-!
# Characters of numerals

The texts of numbers have digits, a point, signs and the letter of the exponent only, apart from the
words for the floats that are not finite.

## Main definitions

* `isNumeralChar`: the characters of decimal numerals.
* `literalWords`: the words for truth values and for the floats that are not finite.
* `quoteFree`: whether a text has no quotes.

## Main results

* `Layout.write_of_isFinite`, `Layout.all_writeMagnitude`: the texts of finite floats.
* `readInt64?_literalText`: the text of a float is no integer.
* `Value.literal_cases`, `Value.all_literal`: the characters of literals that are no texts.
* `Value.quoteFree_operandText`: operands that are no texts have no quotes.
-/

namespace TripletFacts

/-! ### Longest beginnings -/

theorem takeWhile_append_of_head? {p : Char → Bool} {u rest : List Char}
    (hu : ∀ x ∈ u, p x = true) (hrest : rest.head?.any p = false) :
    (u ++ rest).takeWhile p = u := by
  rw [List.takeWhile_append_of_pos hu]
  cases rest with
  | nil => simp
  | cons d rest => simp_all

theorem dropWhile_append_of_head? {p : Char → Bool} {u rest : List Char}
    (hu : ∀ x ∈ u, p x = true) (hrest : rest.head?.any p = false) :
    (u ++ rest).dropWhile p = rest := by
  rw [List.dropWhile_append_of_pos hu]
  cases rest with
  | nil => rfl
  | cons d rest => simp_all

/-- A longest beginning does not reach into what follows if the test fails there at once. -/
theorem takeWhile_append_of_stops {p : Char → Bool} {b : List Char}
    (hb : b.head?.all (fun c => !p c) = true) (a : List Char) :
    (a ++ b).takeWhile p = a.takeWhile p := by
  induction a with
  | nil =>
    cases b with
    | nil => rfl
    | cons c b => simpa [List.takeWhile_cons] using hb
  | cons x a ih => simp [List.takeWhile_cons, ih]

/-- Behind a longest beginning the test fails. -/
theorem any_head?_dropWhile {p : Char → Bool} (cs : List Char) :
    (cs.dropWhile p).head?.any p = false := by
  cases h : cs.dropWhile p with
  | nil => rfl
  | cons c rest =>
    have hc := List.head?_dropWhile_not p cs
    rw [h] at hc
    simpa using hc

/-! ### Numerals -/

/-- The characters of decimal numerals. -/
def isNumeralChar (c : Char) : Bool := isDigit c || ['.', 'e', '+', '-'].contains c

theorem isNumeralChar_of_isDigit {c : Char} (h : isDigit c = true) : isNumeralChar c = true := by
  simp [isNumeralChar, h]

/-- The digits of a positive number do not begin with zero. -/
theorem head?_toDigits_ne {n : Nat} (h : 0 < n) : (Nat.toDigits 10 n).head? ≠ some '0' := by
  induction n using Nat.strongRecOn with
  | ind n ih =>
    by_cases hn : n < 10
    · have hdigit : ∀ m < 10, 0 < m → Nat.digitChar m ≠ '0' := by decide
      rw [Nat.toDigits_of_lt_base hn, List.head?_cons]
      exact fun heq => hdigit n hn h (Option.some.inj heq)
    · have hrest := ih (n / 10) (by omega) (by omega)
      obtain ⟨d, ds, hd⟩ := List.exists_cons_of_ne_nil (Nat.toDigits_ne_nil (n := n / 10) (b := 10))
      rw [Nat.toDigits_of_base_le (by decide) (by omega), hd]
      rwa [hd] at hrest

theorem all_isNumeralChar_toDigits (n : Nat) :
    (Nat.toDigits 10 n).all isNumeralChar = true := by
  rw [List.all_eq_true]
  exact fun c hc => isNumeralChar_of_isDigit (List.all_eq_true.1 (all_isDigit_toDigits n) c hc)

namespace Layout

variable (L : Layout)

/-- Digits around a point are digits, zeros and the point. -/
theorem all_around {p : Char → Bool} (hzero : p '0' = true) (hpoint : p '.' = true)
    {digits : List Char} (h : digits.all p = true) (point : Int) :
    (L.around digits point).all p = true := by
  have hzeros : ∀ n, (zeros n).all p = true := fun n =>
    List.all_eq_true.2 fun c hc => List.eq_of_mem_replicate hc ▸ hzero
  have htake := List.all_eq_true.2 fun c hc =>
    List.all_eq_true.1 h c (List.mem_of_mem_take (i := point.toNat) hc)
  have hdrop := List.all_eq_true.2 fun c hc =>
    List.all_eq_true.1 h c (List.mem_of_mem_drop (i := point.toNat) hc)
  unfold around
  split
  · simp [hzero, hpoint, hzeros, h]
  · split
    · split <;> simp [hzero, hpoint, hzeros, h]
    · simp only [List.all_append, List.all_cons, htake, hdrop, hpoint, Bool.and_self]

theorem all_exponent (x : Int) : (L.exponent x).all isNumeralChar = true := by
  unfold exponent
  split
  · simp only [List.all_cons, all_isNumeralChar_toDigits]
    decide
  · simp only [List.all_append, all_isNumeralChar_toDigits]
    split <;> decide

theorem all_scientific {digits : List Char} (h : digits.all isNumeralChar = true) (x : Int) :
    (L.scientific digits x).all isNumeralChar = true := by
  unfold scientific
  split
  · rfl
  · rw [List.all_cons, Bool.and_eq_true] at h
    simp only [List.all_cons, L.all_exponent, h.1]
    decide
  · rw [List.all_cons, Bool.and_eq_true] at h
    simp only [List.all_cons, List.all_append, L.all_exponent, h.1, h.2]
    decide

/-- The text of the magnitude of a float is a decimal numeral. -/
theorem all_writeMagnitude (x : Float) : (L.writeMagnitude x).all isNumeralChar = true := by
  unfold writeMagnitude
  split
  · split <;> decide
  · unfold writeDecimal
    dsimp only
    split
    · exact L.all_around (by decide) (by decide) (all_isNumeralChar_toDigits _) _
    · exact L.all_scientific (all_isNumeralChar_toDigits _) _

/-- The text of a finite float is its sign and its magnitude. -/
theorem write_of_isFinite {x : Float} (h : x.isFinite = true) : L.write x =
    (if Binary64.isNegative x then ['-'] else []) ++ L.writeMagnitude x := by
  have hkinds : x.isNaN = false ∧ x.isInf = false := by
    unfold Float.isFinite Float.Model.isFinite at h
    unfold Float.isNaN Float.isInf Float.Model.isNaN Float.Model.isInf
    cases hx : x.toModel.unpack with
    | zero | finite => exact ⟨rfl, rfl⟩
    | notANumber | infinity => rw [hx] at h; cases h
  rw [write, hkinds.1, hkinds.2, if_neg Bool.false_ne_true, if_neg Bool.false_ne_true]

end Layout

theorem all_integerText (i : Int64) : (integerText i).all isNumeralChar = true := by
  rw [integerText, List.all_append, all_isNumeralChar_toDigits]
  split <;> decide

/-! ### Numerals that are no integers -/

/-- A text with a character that is no digit behind its sign is no integer. -/
theorem readInt64?_eq_none {cs : List Char} {c : Char} (hc : c ∈ cs) (hdigit : isDigit c = false)
    (hsign : c ∉ ['+', '-']) : readInt64? cs = none := by
  have hmem : c ∈ (splitSign cs).2 := by
    unfold splitSign
    split
    · simp_all
    · simp_all
    · exact hc
  have hnumeral : isIntegerNumeral cs = false := by
    rw [isIntegerNumeral, Bool.and_eq_false_iff]
    refine .inr (List.all_eq_false.2 ⟨c, hmem, ?_⟩)
    rw [hdigit]
    exact Bool.false_ne_true
  rw [readInt64?, hnumeral, if_neg Bool.false_ne_true]

namespace Layout

/-- A magnitude as a literal has a point or an exponent. -/
theorem exists_mem_writeMagnitude (x : Float) :
    ∃ c ∈ Layout.literal.writeMagnitude x, c = '.' ∨ c = 'e' := by
  unfold writeMagnitude
  split
  · exact ⟨'.', by decide, .inl rfl⟩
  · unfold writeDecimal
    dsimp only
    split
    · refine ⟨'.', ?_, .inl rfl⟩
      unfold around
      split
      · simp
      · split
        · simp [Layout.literal]
        · simp
    · refine ⟨'e', ?_, .inr rfl⟩
      unfold scientific
      split
      · rename_i hnil
        exact absurd hnil (Nat.toDigits_ne_nil)
      · simp
      · simp

theorem readInt64?_writeMagnitude (x : Float) :
    readInt64? (Layout.literal.writeMagnitude x) = none := by
  obtain ⟨c, hc, rfl | rfl⟩ := exists_mem_writeMagnitude x
  · exact readInt64?_eq_none hc (by decide) (by decide)
  · exact readInt64?_eq_none hc (by decide) (by decide)

end Layout

/-- The text of a float is no integer. -/
theorem readInt64?_literalText {x : Float} (h : x.isFinite = true) :
    readInt64? (literalText x) = none := by
  obtain ⟨c, hc, hkind⟩ := Layout.exists_mem_writeMagnitude x
  have hmem : c ∈ literalText x := by
    rw [literalText, Layout.write_of_isFinite _ h]
    exact List.mem_append_right _ hc
  rcases hkind with rfl | rfl
  · exact readInt64?_eq_none hmem (by decide) (by decide)
  · exact readInt64?_eq_none hmem (by decide) (by decide)

/-! ### Literals that are no texts -/

/-- The words for truth values and for the floats that are not finite. -/
def literalWords : List (List Char) :=
  ["True".toList, "False".toList, "NaN".toList, "inf".toList, "-inf".toList]

namespace Value

/-- A literal that is no text is one of these words, or a numeral, perhaps with a sign. -/
theorem literal_cases (v : Value) (hstr : ∀ s, v ≠ .str s) :
    v.literal ∈ literalWords ∨ v.literal.all isNumeralChar = true := by
  cases v with
  | bool b => cases b <;> exact .inl (by decide)
  | int i => exact .inr (all_integerText i)
  | float x =>
    rw [Value.literal, literalText, Layout.write]
    split
    · exact .inl (by decide)
    · split
      · split
        · exact .inl (by decide)
        · refine .inr ?_
          rw [List.all_append, Layout.literal.all_writeMagnitude]
          rfl
      · split
        · exact .inl (by decide)
        · exact .inr (Layout.literal.all_writeMagnitude x)
  | str s => exact absurd rfl (hstr s)

/-- What holds of the characters of these words and of numerals holds of every character of a
literal that is no text. -/
theorem all_literal (v : Value) (hstr : ∀ s, v ≠ .str s) {p : Char → Bool}
    (hwords : literalWords.all (·.all p) = true)
    (hnumeral : ∀ c, isNumeralChar c = true → p c = true) : v.literal.all p = true := by
  rcases v.literal_cases hstr with hword | hall
  · exact List.all_eq_true.1 hwords _ hword
  · exact List.all_eq_true.2 fun c hc => hnumeral c (List.all_eq_true.1 hall c hc)

/-- A negative number stands in parentheses. -/
theorem operandText_eq (v : Value) :
    v.operandText = v.literal ∨ v.operandText = '(' :: (v.literal ++ [')']) := by
  unfold operandText
  split
  · rename_i digits _ _ hdigits
    exact .inr (by rw [hdigits]; rfl)
  · exact .inl rfl

end Value

/-! ### Quotes -/

/-- Whether a text has no quotes, so that it can stand in code. -/
def quoteFree (cs : List Char) : Bool := cs.all fun c => !isQuote c

@[simp] theorem quoteFree_nil : quoteFree [] = true := rfl

@[simp] theorem quoteFree_cons {c : Char} {cs : List Char} :
    quoteFree (c :: cs) = true ↔ isQuote c = false ∧ quoteFree cs = true := by
  simp [quoteFree]

@[simp] theorem quoteFree_append {cs ds : List Char} :
    quoteFree (cs ++ ds) = true ↔ quoteFree cs = true ∧ quoteFree ds = true := by
  simp [quoteFree, List.all_append]

theorem quoteFree_of_subset {cs ds : List Char} (h : ds ⊆ cs) (hcs : quoteFree cs = true) :
    quoteFree ds = true :=
  List.all_eq_true.2 fun c hc => List.all_eq_true.1 hcs c (h hc)

/-- What stands in front of the first quote has no quotes. -/
theorem quoteFree_cons_takeWhile {c : Char} (hc : ¬isQuote c = true) (cs : List Char) :
    quoteFree (c :: cs.takeWhile (!isQuote ·)) = true :=
  quoteFree_cons.2 ⟨Bool.eq_false_iff.2 hc, List.all_takeWhile⟩

theorem isQuote_eq_false_of_isNumeralChar {c : Char} (hc : isNumeralChar c = true) :
    isQuote c = false := by
  cases hquote : isQuote c with
  | false => rfl
  | true =>
    have hkind : c = '\'' ∨ c = '"' := by simpa [isQuote] using hquote
    rcases hkind with rfl | rfl <;> exact absurd hc (by decide)

theorem quoteFree_of_not_mem {cs : List Char} (hsingle : '\'' ∉ cs) (hdouble : '"' ∉ cs) :
    quoteFree cs = true := by
  refine List.all_eq_true.2 fun c hc => ?_
  have hne : c ≠ '\'' ∧ c ≠ '"' := ⟨fun h => hsingle (h ▸ hc), fun h => hdouble (h ▸ hc)⟩
  simp [isQuote, hne.1, hne.2]

theorem quoteFree_of_all_isNumeralChar {cs : List Char} (h : cs.all isNumeralChar = true) :
    quoteFree cs = true := by
  refine List.all_eq_true.2 fun c hc => ?_
  rw [isQuote_eq_false_of_isNumeralChar (List.all_eq_true.1 h c hc)]
  rfl

theorem quoteFree_boolText (b : Bool) : quoteFree (Value.boolText b) = true := by
  cases b <;> decide

/-- An operand that is no text can stand in code. -/
theorem Value.quoteFree_operandText {v : Value} (h : ∀ s, v ≠ .str s) :
    quoteFree v.operandText = true := by
  have hnumeral : ∀ c, isNumeralChar c = true → (!isQuote c) = true := fun c hc => by
    rw [isQuote_eq_false_of_isNumeralChar hc]
    rfl
  have hliteral : quoteFree v.literal = true := v.all_literal h (by decide) hnumeral
  rcases v.operandText_eq with hv | hv
  · rwa [hv]
  · simp [hv, hliteral, isQuote]

end TripletFacts
