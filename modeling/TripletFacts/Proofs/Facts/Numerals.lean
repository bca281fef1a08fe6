import TripletFacts.Proofs.Expr.Finite
import TripletFacts.Proofs.Expr.Spelling
import TripletFacts.Proofs.Facts.ReadBack

/-!
# Numerals in expressions and in facts

Numbers are read in two ways. In an expression the characters of a numeral are counted one part
after the other, as far as they go, and the number is read from them. In a fact the text of a value
is a number if all its characters may stand in a numeral and a number can be read from them. On
texts without a sign both ways read the same numbers: a decimal numeral is counted to its end, and
what is counted has no other characters. Only a float that is not finite is a value, but no token.

## Main definitions

* `IsNumberToken`: texts that are one token, a number.

## Main results

* `isNumberToken_iff`: such texts by the number that is read from all their characters.
* `readNumber_eq_ok_iff`: a number of expressions is a finite number of facts.
* `isNumberToken_iff_readValue`: both ways read the same numbers.
-/

namespace TripletFacts

open Settings

variable {text : List Char} {n : Number}

/-- A text that is one token, a number, from its beginning to its end. -/
structure IsNumberToken (text : List Char) (n : Number) : Prop where
  /-- There is no other token. -/
  tokens : tokenize text = .ok [⟨.number n, 0⟩]
  /-- All characters belong to the token. -/
  spans : ∃ c cs, text = c :: cs ∧ Token.read 0 c cs = .ok (.number n, cs.length)

/-! ### Texts without a sign -/

/-- A text that does not begin with a sign. -/
def IsUnsigned (text : List Char) : Prop := text.head? ≠ some '+' ∧ text.head? ≠ some '-'

theorem IsUnsigned.splitSign_eq (h : IsUnsigned text) : splitSign text = (false, text) := by
  unfold splitSign
  split
  · exact absurd rfl h.2
  · exact absurd rfl h.1
  · rfl

/-- Without a sign an integer numeral is a list of digits. -/
theorem IsUnsigned.all_isDigit (h : IsUnsigned text) {i : Int64} (hi : readInt64? text = some i) :
    text ≠ [] ∧ text.all isDigit = true := by
  have hnumeral : isIntegerNumeral text = true := by
    unfold readInt64? at hi
    split at hi
    · assumption
    · cases hi
  rw [isIntegerNumeral, h.splitSign_eq] at hnumeral
  simpa using hnumeral

/-- The characters of numerals are in none of the words for floats that are not finite. -/
theorem asciiLower_ne_of_isFloatChar {c : Char} (h : isFloatChar c = true) :
    asciiLower c ≠ 'n' := by
  simp only [isFloatChar, Bool.or_eq_true, decide_eq_true_eq] at h
  rcases h with h | h
  · exact asciiLower_ne_of_isDigit h
  · simp only [List.mem_cons, List.not_mem_nil, or_false] at h
    rcases h with rfl | rfl | rfl | rfl | rfl <;> decide

theorem IsUnsigned.readFloat?_eq (h : IsUnsigned text) (hall : text.all isFloatChar = true) :
    readFloat? text = (Decimal.read? text).map (Decimal.toFloat false) :=
  readFloat?_of_forall_ne h.splitSign_eq fun c hc =>
    asciiLower_ne_of_isFloatChar (List.all_eq_true.1 hall c hc)

/-- The numbers of expressions are the finite numbers of facts. -/
theorem readNumber_eq_ok_iff (h : IsUnsigned text) (hall : text.all isFloatChar = true) :
    Token.readNumber 0 text = .ok n ↔ readNumber? text = some n ∧ n.toFloat.isFinite = true := by
  cases hi : readInt64? text with
  | some i =>
    simp only [Token.readNumber, readNumber?, hi, Except.ok.injEq, Option.some.injEq]
    refine (and_iff_left_of_imp ?_).symm
    rintro rfl
    exact Binary64.isFinite_ofInt _
  | none =>
    simp only [Token.readNumber, readNumber?, hi, hall, if_true, h.readFloat?_eq hall]
    cases Decimal.read? text with
    | none => simp
    | some d =>
      simp only [Option.map_some, Option.some.injEq]
      cases hfinite : (d.toFloat false).isFinite with
      | true =>
        simp only [if_true, Except.ok.injEq]
        refine (and_iff_left_of_imp ?_).symm
        rintro rfl
        exact hfinite
      | false =>
        simp only [Bool.false_eq_true, if_false, reduceCtorEq, false_iff, not_and]
        rintro rfl
        simp [Number.toFloat, hfinite]

/-- What an expression reads as a number is a decimal numeral. -/
theorem IsUnsigned.exists_decimal (h : IsUnsigned text) (hn : Token.readNumber 0 text = .ok n) :
    ∃ d, Decimal.read? text = some d := by
  unfold Token.readNumber at hn
  split at hn
  · next i hi =>
    obtain ⟨hne, hdigits⟩ := h.all_isDigit hi
    have hread := @Decimal.read?_whole text [] 0 hdigits hne rfl nofun rfl
    rw [List.append_nil] at hread
    exact ⟨_, hread⟩
  · split at hn
    · cases hn
    · next d hd => exact ⟨d, hd⟩

/-! ### Tokens -/

namespace IsNumberToken

theorem read? (h : IsNumberToken text n) :
    ∃ c cs, text = c :: cs ∧ Token.read? c cs = some (.number n, cs.length) := by
  obtain ⟨-, c, cs, rfl, hread⟩ := h
  exact ⟨c, cs, rfl, toOption_eq_some_iff.2 hread⟩

/-- What is counted as a numeral has no other characters. -/
theorem all_isFloatChar (h : IsNumberToken text n) : text.all isFloatChar = true := by
  obtain ⟨c, cs, rfl, hread⟩ := h.read?
  obtain ⟨-, a, e, hae, ha, he⟩ := @Token.numeral_of_read? c cs [] n (by rwa [List.append_nil])
  rw [hae, List.all_append, Bool.and_eq_true, List.all_eq_true, List.all_eq_true]
  constructor
  · intro x hx
    rcases ha x hx with hdigit | rfl
    · rw [isFloatChar, hdigit, Bool.true_or]
    · rfl
  · intro x hx
    rcases he.mem hx with hdigit | hmark
    · rw [isFloatChar, hdigit, Bool.true_or]
    · rw [isFloatChar, decide_eq_true (List.mem_cons_of_mem '.' hmark), Bool.or_true]

theorem readNumber (h : IsNumberToken text n) : Token.readNumber 0 text = .ok n := by
  obtain ⟨c, cs, rfl, hread⟩ := h.read?
  generalize hlength : cs.length = width at hread
  cases Token.begins_of_read?_eq_some hread with
  | number hc hx =>
    have hpos := one_le_numberWidth (hc.imp_right And.left) cs
    rwa [List.take_of_length_le (by rw [List.length_cons]; omega)] at hx

/-- A decimal numeral is counted to its end. -/
theorem of_readNumber {d : Decimal} (hd : Decimal.read? text = some d)
    (hn : Token.readNumber 0 text = .ok n) : IsNumberToken text n := by
  obtain ⟨c, cs, rfl, hbegins⟩ := Token.begins_of_read? hd
  have hread := Token.read_eq_ok_of_read? 0 (Token.read?_numeral hd hn)
  have hblank : Unicode.isBlank c = false := by
    rcases hbegins with hdigit | ⟨rfl, -⟩
    · exact isBlank_of_isDigit hdigit
    · decide
  refine ⟨?_, c, cs, rfl, hread⟩
  rw [tokenize, tokensFrom, if_neg (by simp [hblank]), hread]
  dsimp only
  rw [List.drop_length, tokensFrom]
  rfl

end IsNumberToken

/-- A text that is one token, a number, is one from which this number is read. -/
theorem isNumberToken_iff (h : IsUnsigned text) :
    IsNumberToken text n ↔ readNumber? text = some n ∧ n.toFloat.isFinite = true := by
  constructor
  · intro htoken
    exact (readNumber_eq_ok_iff h htoken.all_isFloatChar).1 htoken.readNumber
  · intro hn
    have hread := (readNumber_eq_ok_iff h (all_isFloatChar_of_readNumber? hn.1)).2 hn
    obtain ⟨d, hd⟩ := h.exists_decimal hread
    exact .of_readNumber hd hread

/-! ### Values -/

theorem Number.toValue_injective {n m : Number} (h : n.toValue = m.toValue) : n = m := by
  cases n <;> cases m <;> cases h <;> rfl

/-- The text of a value states a number exactly if it is read as a number. -/
theorem readPlain_eq_number_iff :
    standard.readPlain text = .ok (.literal n.toValue) ↔ readNumber? text = some n := by
  refine ⟨fun h => ?_, readPlain_of_readNumber?⟩
  unfold readPlain at h
  split at h
  · cases n <;> cases h
  · split at h
    · cases n <;> cases h
    · split at h
      · cases n <;> cases h
      · split at h
        · next m hm =>
          rw [Except.ok.injEq, FactValue.literal.injEq] at h
          rw [hm, Number.toValue_injective h]
        · split at h <;> cases h

/-- Without the mark of a request the text of a value is read as a whole. -/
theorem readValue_eq_number_iff (hbid : ¬standard.bidMark.toList <+: text) :
    standard.readValue text = .ok (some (.literal n.toValue), false) ↔
      readNumber? text = some n := by
  have hstrip : standard.stripBid? text = none := by
    have hprefix : standard.bidMark.toList.isPrefixOf text = false :=
      Bool.eq_false_iff.2 fun h => hbid (List.isPrefixOf_iff_prefix.1 h)
    rw [stripBid?, hprefix, Bool.and_false, if_neg Bool.false_ne_true]
  rw [readValue, hstrip]
  cases text with
  | nil =>
    have hnone : readNumber? [] = none := rfl
    simp [hnone]
  | cons c cs =>
    dsimp only
    rw [List.isEmpty_cons, if_neg Bool.false_ne_true, map_eq_ok_iff, ← readPlain_eq_number_iff]
    simp

/-- **Two readers of numbers.** A text without a sign and without the mark of a request is one
token, a number, exactly if it is the text of a finite number, and both are the same number. -/
theorem isNumberToken_iff_readValue (hplus : text.head? ≠ some '+') (hminus : text.head? ≠ some '-')
    (hbid : ¬standard.bidMark.toList <+: text) (n : Number) :
    IsNumberToken text n ↔
      standard.readValue text = .ok (some (.literal n.toValue), false) ∧
        n.toFloat.isFinite = true := by
  rw [isNumberToken_iff ⟨hplus, hminus⟩, readValue_eq_number_iff hbid]

/-- The first integer beyond 64 bits is a float on both ways. -/
theorem isNumberToken_iff_readValue_past_integers :
    let text := "9223372036854775808".toList
    let n := Number.float 9223372036854775808
    text.head? ≠ some '+' ∧ text.head? ≠ some '-' ∧ ¬standard.bidMark.toList <+: text ∧
      standard.readValue text = .ok (some (.literal n.toValue), false) ∧
      n.toFloat.isFinite = true ∧ IsNumberToken text n := by
  intro text n
  have hplus : text.head? ≠ some '+' := by decide
  have hminus : text.head? ≠ some '-' := by decide
  have hbid : ¬standard.bidMark.toList <+: text := by decide
  have hvalue : standard.readValue text = .ok (some (.literal n.toValue), false) :=
    (readValue_eq_number_iff hbid).2 (by decide +kernel)
  have hfinite : n.toFloat.isFinite = true := by decide +kernel
  exact ⟨hplus, hminus, hbid, hvalue, hfinite,
    (isNumberToken_iff_readValue hplus hminus hbid n).2 ⟨hvalue, hfinite⟩⟩

end TripletFacts
