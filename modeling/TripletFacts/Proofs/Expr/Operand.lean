import TripletFacts.Expr.Eval
import TripletFacts.Proofs.Expr.Words
import TripletFacts.Proofs.Number.ReadBack
import TripletFacts.Proofs.Unicode.Classes

/-!
# Values as operands

A value that is put into expression text is written as an operand. A text stands in quotes, a number
is a numeral, and a negative number is a numeral behind a minus sign, in parentheses. Such text is
read as one operand, and its value is the value that was written: the sign is applied to a numeral
that was read before, and this gives the number again. The one exception is the least integer,
since its numeral without the sign is beyond the integers and is read as a float.

## Main definitions

* `StandsFor`: texts that are operands with a value.

## Main results

* `Token.numberWidth_of_read?`: a numeral is a token of its own.
* `standsFor_numeral`, `standsFor_minus`: what numerals stand for.
* `Value.evaluate_operandText_iff`: which values are read back.
-/

namespace TripletFacts

open TripletFacts.Expr Binary64

/-! ### Numerals are tokens -/

namespace Token

theorem snd_splitSign (cs : List Char) : (splitSign cs).2 = cs.drop (signWidth cs) := by
  unfold splitSign
  split
  · rfl
  · rfl
  · rename_i hminus hplus
    cases cs with
    | nil => rfl
    | cons c cs =>
      have hc : ¬(c = '+' ∨ c = '-') := by
        rintro (rfl | rfl)
        · exact hplus cs rfl
        · exact hminus cs rfl
      rw [signWidth, if_neg hc, List.drop_zero]

theorem exponentWidth_of_readExponent? {cs : List Char} {e : Int}
    (h : Decimal.readExponent? cs = some e) : exponentWidth cs = cs.length := by
  cases cs with
  | nil => rfl
  | cons c cs =>
    rw [Decimal.readExponent?] at h
    split at h
    · rename_i hc
      rw [isIntegerNumeral, snd_splitSign] at hc
      simp only [Bool.and_eq_true, Bool.or_eq_true, beq_iff_eq, Bool.not_eq_true',
        List.isEmpty_eq_false_iff] at hc
      obtain ⟨hmark, hne, hdigits⟩ := hc
      have hpos := List.length_pos_iff.2 hne
      have hlength := signWidth_le cs
      rw [exponentWidth_cons, if_pos hmark,
        List.takeWhile_eq_self_iff.2 (List.all_eq_true.1 hdigits)]
      rw [List.length_drop] at hpos ⊢
      obtain ⟨n, hn⟩ := Nat.exists_eq_add_one_of_ne_zero (Nat.ne_of_gt hpos)
      rw [hn, List.length_cons]
      change 1 + signWidth cs + (n + 1) = cs.length + 1
      omega
    · cases h

theorem snd_splitFraction (cs : List Char) :
    (Decimal.splitFraction cs).2 = cs.drop (fractionWidth cs) := by
  cases cs with
  | nil => rfl
  | cons c cs =>
    by_cases hc : c = '.'
    · subst hc
      rw [Decimal.splitFraction, fractionWidth, Nat.add_comm, List.drop_succ_cons,
        drop_length_takeWhile]
    · simp [Decimal.splitFraction, fractionWidth, hc]

/-- A decimal numeral is read as a whole. -/
theorem numberWidth_of_read? {cs : List Char} {d : Decimal} (h : Decimal.read? cs = some d) :
    numberWidth cs = cs.length := by
  have hwhole := length_takeWhile_le isDigit cs
  unfold Decimal.read? at h
  dsimp only at h
  split at h
  · cases h
  · obtain ⟨e, he, -⟩ := Option.map_eq_some_iff.1 h
    rw [snd_splitFraction, ← drop_length_takeWhile, List.drop_drop] at he
    have hexponent := exponentWidth_of_readExponent? he
    have hfraction := fractionWidth_le (cs.drop (cs.takeWhile isDigit).length)
    rw [List.length_drop] at hfraction hexponent
    unfold numberWidth
    dsimp only
    omega

/-- A decimal numeral begins with a digit, or with a point before a digit. -/
theorem begins_of_read? {cs : List Char} {d : Decimal} (h : Decimal.read? cs = some d) :
    ∃ c rest, cs = c :: rest ∧
      (isDigit c = true ∨ c = '.' ∧ rest.head?.any isDigit = true) := by
  cases cs with
  | nil => cases h
  | cons c rest =>
    refine ⟨c, rest, rfl, ?_⟩
    by_cases hdigit : isDigit c = true
    · exact .inl hdigit
    refine .inr ?_
    rw [Decimal.read?, List.takeWhile_cons_of_neg hdigit, List.dropWhile_cons_of_neg hdigit] at h
    by_cases hpoint : c = '.'
    · subst hpoint
      refine ⟨rfl, ?_⟩
      cases rest with
      | nil => cases h
      | cons x rest =>
        by_cases hx : isDigit x = true
        · exact hx
        · rw [Decimal.splitFraction, List.takeWhile_cons_of_neg hx] at h
          cases h
    · simp [Decimal.splitFraction, hpoint] at h

/-- A numeral is a token of its own. -/
theorem read?_numeral {c : Char} {cs : List Char} {d : Decimal} {n : Number}
    (h : Decimal.read? (c :: cs) = some d) (hn : readNumber 0 (c :: cs) = .ok n) :
    read? c cs = some (.number n, cs.length) := by
  obtain ⟨_, _, heq, hbegins⟩ := begins_of_read? h
  obtain ⟨rfl, rfl⟩ := List.cons_eq_cons.1 heq
  have hwidth := numberWidth_of_read? h
  have hread := read?_of_number hbegins (x := n) (by rwa [hwidth, List.take_length])
  rwa [hwidth, List.length_cons, Nat.add_sub_cancel] at hread

end Token

theorem tokens?_numeral {cs : List Char} {d : Decimal} {n : Number}
    (h : Decimal.read? cs = some d) (hn : Token.readNumber 0 cs = .ok n) :
    tokens? cs = some [.number n] := by
  obtain ⟨c, rest, rfl, hbegins⟩ := Token.begins_of_read? h
  have hblank : Unicode.isBlank c = false := by
    rcases hbegins with hc | ⟨rfl, -⟩
    · exact isBlank_of_isDigit hc
    · decide
  rw [tokens?_cons hblank, Token.read?_numeral h hn]
  simp

/-- A numeral behind a minus sign, in parentheses. -/
theorem tokens?_minus {cs : List Char} {d : Decimal} {n : Number} (hcs : quoteFree cs = true)
    (h : Decimal.read? cs = some d) (hn : Token.readNumber 0 cs = .ok n) :
    tokens? ('(' :: '-' :: (cs ++ [')'])) =
      some [.lparen, .op (.binary (.compute .sub)), .number n, .rparen] := by
  have hlparen : Token.read? '(' ('-' :: (cs ++ [')'])) = some (.lparen, 0) := rfl
  have hminus : Token.read? '-' (cs ++ [')']) = some (.op (.binary (.compute .sub)), 0) := by
    have hsymbol (upcoming : Option Char) :
        Token.readSymbol 0 '-' upcoming = .ok (.binary (.compute .sub), 0) := by
      unfold Token.readSymbol
      split <;> simp_all
    rw [Token.read?, Token.read, if_neg (by decide), if_neg (by decide), if_neg (by decide),
      if_neg (by decide), if_neg (by simp [isDigit]), if_neg (by decide), hsymbol]
    rfl
  have hrparen : tokens? [')'] = some [.rparen] := by
    have hread : Token.read? ')' [] = some (.rparen, 0) := rfl
    rw [tokens?_cons (by decide), hread, Option.bind_some, List.drop_zero, tokens?_nil,
      Option.map_some]
  rw [tokens?_cons (by decide), hlparen, Option.bind_some, List.drop_zero,
    tokens?_cons (by decide), hminus, Option.bind_some, List.drop_zero,
    tokens?_append hcs (by decide), tokens?_numeral h hn, hrparen]
  rfl

/-! ### Values of operands -/

/-- The value of a text whose tokens derive an expression. -/
theorem evaluate_of_tokens? {text : List Char} {ts : List Token} {e : Expr}
    (h : tokens? text = some ts) (hpos : 1 ≤ ts.length) (hlength : ts.length ≤ maxTokens)
    (he : Derives maxDepth (.chain .comparison) ts e) (hnot : ts.head? ≠ some (.ident "not")) :
    evaluate text = e.eval := by
  rw [evaluate, parse_eq_ok_iff_tokens?.2
    ⟨ts, h, hpos, hlength, Derives.disjunction_of_comparison he hnot⟩]

/-- A text stands for a value if its tokens derive an operand with this value, wherever two levels
can be nested: parentheses and a sign. -/
def StandsFor (text : List Char) (v : Value) : Prop :=
  ∃ ts e, tokens? text = some ts ∧ 1 ≤ ts.length ∧ ts.length ≤ 4 ∧
    ts.head? ≠ some (.ident "not") ∧ (∀ n, Derives (n + 2) .primary ts e) ∧ e.eval = .ok v

/-- What stands for a value has this value on its own. -/
theorem StandsFor.evaluate {text : List Char} {v : Value} (h : StandsFor text v) :
    evaluate text = .ok v := by
  obtain ⟨ts, e, hts, hpos, hlength, hnot, he, hv⟩ := h
  rw [evaluate_of_tokens? hts hpos (Nat.le_trans hlength (by decide))
    (.alone (.sum_of_sign (.unsigned (.base (he 126))))) hnot, hv]

/-- A literal of one token stands for its value. -/
theorem standsFor_of_tokens? {text : List Char} {t : Token} {v : Value}
    (h : tokens? text = some [t]) (he : ∀ n, Derives n .primary [t] (.literal v))
    (hnot : t ≠ .ident "not") : StandsFor text v :=
  ⟨[t], _, h, Nat.le_refl 1, by simp, by simpa using hnot, fun n => he (n + 2), by rw [eval]⟩

/-- A numeral stands for its number. -/
theorem standsFor_numeral {cs : List Char} {d : Decimal} {n : Number}
    (h : Decimal.read? cs = some d) (hn : Token.readNumber 0 cs = .ok n) :
    StandsFor cs n.toValue :=
  standsFor_of_tokens? (tokens?_numeral h hn) (fun _ => .number n) nofun

/-- A numeral behind a minus sign, in parentheses, stands for the negative of its number. -/
theorem standsFor_minus {cs : List Char} {d : Decimal} {n : Number} {v : Value}
    (hcs : quoteFree cs = true) (h : Decimal.read? cs = some d)
    (hn : Token.readNumber 0 cs = .ok n) (hv : UnaryOperator.negate.apply n.toValue = .ok v) :
    StandsFor ('(' :: '-' :: (cs ++ [')'])) v := by
  refine ⟨_, .unary .negate (.literal n.toValue), tokens?_minus hcs h hn, by simp, by simp, by simp,
    fun k => ?_, by simpa only [eval] using hv⟩
  have hsign : Derives (k + 1) .sign [.op (.binary (.compute .sub)), .number n]
      (.unary .negate (.literal n.toValue)) :=
    .unary .minus (.unsigned (.base (.number n)))
  exact .group (.disjunction_of_comparison (.alone (.sum_of_sign hsign)) (by simp))

/-! ### Values that are written -/

namespace Value

theorem operandText_of_head? {v : Value} (h : v.literal.head? ≠ some '-') :
    v.operandText = v.literal := by
  unfold operandText
  split
  · rename_i hliteral
    rw [hliteral] at h
    exact absurd rfl h
  · rfl

theorem operandText_minus {v : Value} {n : Number} {digits : List Char} (hn : v.number? = some n)
    (h : v.literal = '-' :: digits) : v.operandText = '(' :: '-' :: (digits ++ [')']) := by
  simp only [operandText, hn, h]

theorem head?_ne_minus_of_read? {cs : List Char} {d : Decimal} (h : Decimal.read? cs = some d) :
    cs.head? ≠ some '-' := by
  obtain ⟨c, rest, rfl, hbegins⟩ := Token.begins_of_read? h
  rintro hc
  obtain rfl : c = '-' := Option.some.inj hc
  simp [isDigit] at hbegins

theorem standsFor_operandText_bool (b : Bool) : StandsFor (Value.bool b).operandText (.bool b) := by
  cases b with
  | true =>
    have hread : Token.read? 'T' ['r', 'u', 'e'] = some (.ident "True", 3) := by decide +kernel
    have htokens : tokens? (Value.bool true).operandText = some [.ident "True"] := by
      change tokens? ['T', 'r', 'u', 'e'] = _
      rw [tokens?_cons (by decide), hread]
      simp
    exact standsFor_of_tokens? htokens (fun _ => .constant (by decide)) (by decide)
  | false =>
    have hread : Token.read? 'F' ['a', 'l', 's', 'e'] = some (.ident "False", 4) := by
      decide +kernel
    have htokens : tokens? (Value.bool false).operandText = some [.ident "False"] := by
      change tokens? ['F', 'a', 'l', 's', 'e'] = _
      rw [tokens?_cons (by decide), hread]
      simp
    exact standsFor_of_tokens? htokens (fun _ => .constant (by decide)) (by decide)

theorem standsFor_operandText_str (s : String) : StandsFor (Value.str s).operandText (.str s) :=
  standsFor_of_tokens? (tokens?_literal_str s) (fun _ => .str s) nofun

/-- Digits alone are a numeral. -/
theorem read?_toDigits (n : Nat) : Decimal.read? (Nat.toDigits 10 n) = some ⟨n, 0⟩ := by
  have hread := @Decimal.read?_whole _ [] 0 (all_isDigit_toDigits n) Nat.toDigits_ne_nil rfl
    (by simp) rfl
  rwa [List.append_nil, digitsValue_toDigits] at hread

theorem quoteFree_toDigits (n : Nat) : quoteFree (Nat.toDigits 10 n) = true :=
  quoteFree_of_all_isNumeralChar (all_isNumeralChar_toDigits n)

/-- Digits alone are an integer if it has 64 bits. -/
theorem readNumber_toDigits {n : Nat} {i : Int64} (h : i.toInt = n) :
    Token.readNumber 0 (Nat.toDigits 10 n) = .ok (.int i) := by
  rw [Token.readNumber, readInt64?_toDigits h]

/-- Every integer but the least one is an integer without its sign too. -/
theorem exists_toInt_eq_natAbs {i : Int64} (h : i ≠ Int64.minValue) :
    ∃ j : Int64, j.toInt = i.toInt.natAbs := by
  have hlow := i.le_toInt
  have hhigh := i.toInt_lt
  have hmin : i.toInt ≠ Int64.minValue.toInt := fun heq => h (Int64.toInt_inj.1 heq)
  rw [Int64.toInt_minValue] at hmin
  exact ⟨Int64.ofInt i.toInt.natAbs, Int64.toInt_ofInt_of_le (by omega) (by omega)⟩

/-- An integer whose digits have 64 bits without its sign is read back. -/
theorem standsFor_operandText_int {i : Int64} (h : i ≠ Int64.minValue) :
    StandsFor (Value.int i).operandText (.int i) := by
  by_cases hneg : i < 0
  · have hi : i.toInt < 0 := Int64.lt_iff_toInt_lt.1 hneg
    have hliteral : (Value.int i).literal = '-' :: Nat.toDigits 10 i.toInt.natAbs :=
      integerText_of_neg hneg
    obtain ⟨j, hj⟩ := exists_toInt_eq_natAbs h
    have hnegate : int64? (-j.toInt) = some i := by
      rw [hj, Int.ofNat_natAbs_of_nonpos (by omega), Int.neg_neg, int64?_toInt]
    rw [operandText_minus rfl hliteral]
    refine standsFor_minus (quoteFree_toDigits _) (read?_toDigits _) (readNumber_toDigits hj) ?_
    simp only [Number.toValue, UnaryOperator.apply, operand?, hnegate]
  · have hi : 0 ≤ i.toInt := Int64.le_iff_toInt_le.1 (Int64.not_lt.1 hneg)
    have hliteral : (Value.int i).literal = Nat.toDigits 10 i.toInt.natAbs :=
      integerText_of_not_neg hneg
    have hread := read?_toDigits i.toInt.natAbs
    rw [operandText_of_head? (hliteral ▸ head?_ne_minus_of_read? hread), hliteral]
    exact standsFor_numeral hread (readNumber_toDigits (i := i) (by omega))

/-- The digits of the least integer have no 64 bits, and are read as a float. -/
theorem readNumber_toDigits_minValue :
    Token.readNumber 0 (Nat.toDigits 10 Int64.minValue.toInt.natAbs) =
      .ok (.float (Binary64.ofRatio false 9223372036854775808 1)) := by
  decide +kernel

/-- The digits of every integer are read as a number. -/
theorem exists_readNumber_natAbs (i : Int64) :
    ∃ n, Token.readNumber 0 (Nat.toDigits 10 i.toInt.natAbs) = .ok n := by
  by_cases h : i = Int64.minValue
  · exact ⟨_, h ▸ readNumber_toDigits_minValue⟩
  · obtain ⟨j, hj⟩ := exists_toInt_eq_natAbs h
    exact ⟨_, readNumber_toDigits hj⟩

/-- The least integer is read back as a float. -/
theorem standsFor_operandText_minValue : StandsFor (Value.int Int64.minValue).operandText
    (.float (Binary64.ofInt Int64.minValue.toInt)) := by
  have hliteral : (Value.int Int64.minValue).literal =
      '-' :: Nat.toDigits 10 Int64.minValue.toInt.natAbs := by
    decide +kernel
  have hnegate : -Binary64.ofRatio false 9223372036854775808 1 =
      Binary64.ofInt Int64.minValue.toInt := by
    decide +kernel
  rw [operandText_minus rfl hliteral, ← hnegate]
  exact standsFor_minus (quoteFree_toDigits _) (read?_toDigits _) readNumber_toDigits_minValue rfl

/-- The numeral of a finite float, without its sign, is read as a float. -/
theorem exists_readNumber_writeMagnitude {x : Float} (h : x.isFinite = true) :
    ∃ d, Decimal.read? (Layout.literal.writeMagnitude x) = some d ∧
      Token.readNumber 0 (Layout.literal.writeMagnitude x) =
        .ok (.float (ofMagnitudeBits false (magnitudeBits x))) := by
  obtain ⟨d, hread, hfloat⟩ := Layout.literal.exists_read?_writeMagnitude h
  have hbits := ofMagnitudeBits_magnitudeBits x
  have hfinite : (ofMagnitudeBits false (magnitudeBits x)).isFinite = true := by
    rw [isFinite_ofMagnitudeBits (magnitudeBits_lt x), ← isFinite_ofMagnitudeBits
      (magnitudeBits_lt x) (isNegative x), hbits, h]
  refine ⟨d, hread, ?_⟩
  simp only [Token.readNumber, Layout.readInt64?_writeMagnitude, hread, hfloat, hfinite, if_true]

/-- A finite float is read back, with its sign. -/
theorem standsFor_operandText_float {x : Float} (h : x.isFinite = true) :
    StandsFor (Value.float x).operandText (.float x) := by
  obtain ⟨d, hread, hnumber⟩ := exists_readNumber_writeMagnitude h
  have hbits := ofMagnitudeBits_magnitudeBits x
  have hliteral : (Value.float x).literal =
      (if isNegative x then ['-'] else []) ++ Layout.literal.writeMagnitude x :=
    Layout.literal.write_of_isFinite h
  cases hsign : isNegative x with
  | true =>
    rw [hsign, if_pos rfl, List.singleton_append] at hliteral
    rw [hsign, show true = !false from rfl, ← neg_ofMagnitudeBits (magnitudeBits_lt x)] at hbits
    rw [operandText_minus rfl hliteral]
    refine standsFor_minus (quoteFree_of_all_isNumeralChar (Layout.literal.all_writeMagnitude x))
      hread hnumber ?_
    simp only [Number.toValue, UnaryOperator.apply, operand?, hbits]
  | false =>
    rw [hsign, if_neg Bool.false_ne_true, List.nil_append] at hliteral
    rw [hsign] at hbits
    rw [hbits] at hnumber
    rw [operandText_of_head? (hliteral ▸ head?_ne_minus_of_read? hread), hliteral]
    exact standsFor_numeral hread hnumber

/-- Every value but the least integer is read back from the operand that is written for it,
floats that are not finite apart. -/
theorem evaluate_operandText_iff {v : Value} (hfinite : ∀ x, v = .float x → x.isFinite = true) :
    evaluate v.operandText = .ok v ↔ v ≠ .int Int64.minValue := by
  constructor
  · rintro h rfl
    rw [standsFor_operandText_minValue.evaluate] at h
    cases h
  · intro h
    cases v with
    | bool b => exact (standsFor_operandText_bool b).evaluate
    | int i => exact (standsFor_operandText_int fun hi => h (hi ▸ rfl)).evaluate
    | float x => exact (standsFor_operandText_float (hfinite x rfl)).evaluate
    | str s => exact (standsFor_operandText_str s).evaluate

theorem evaluate_operandText_minus_half :
    (-0.5 : Float).isFinite = true ∧ (Value.float (-0.5)).operandText = "(-0.5)".toList ∧
      evaluate (Value.float (-0.5)).operandText = .ok (.float (-0.5)) := by
  have hfinite : (-0.5 : Float).isFinite = true := by decide +kernel
  refine ⟨hfinite, by decide +kernel, (evaluate_operandText_iff fun x hx => ?_).2 (by simp)⟩
  obtain rfl : -0.5 = x := Value.float.inj hx
  exact hfinite

/-- The least integer is written as `(-9223372036854775808)` and comes back as a float. -/
theorem evaluate_operandText_least :
    (Value.int Int64.minValue).operandText = "(-9223372036854775808)".toList ∧
      evaluate (Value.int Int64.minValue).operandText = .ok (.float (-9223372036854775808.0)) ∧
      evaluate (Value.int Int64.minValue).operandText ≠ .ok (.int Int64.minValue) := by
  have hvalue : Binary64.ofInt Int64.minValue.toInt = -9223372036854775808.0 := by decide +kernel
  have heval := standsFor_operandText_minValue.evaluate
  rw [hvalue] at heval
  refine ⟨by decide +kernel, heval, ?_⟩
  rw [heval]
  simp

end Value

end TripletFacts
