import TripletFacts.Proofs.Number.Characters
import TripletFacts.Proofs.Number.Shortest

/-!
# Texts of floats are read back

Every layout writes the digits of the shortest decimal of a float, with zeros before or behind them
where the point lies outside of the digits. Reading such a text gives the decimal again, up to zeros
behind the digits, and so the float.

## Main results

* `Decimal.read?_writeDecimal`: the text of a decimal denotes it.
* `readFloat?_write`: the text of a finite float is read as that float.
-/

namespace TripletFacts

open Binary64

/-! ### Digits -/

theorem digitsValue_append (cs ds : List Char) :
    digitsValue (cs ++ ds) = digitsValue cs * Nat.pow 10 ds.length + digitsValue ds := by
  have happend : Nat.ofDigitChars 10 (cs ++ ds) 0 =
      Nat.ofDigitChars 10 ds (Nat.ofDigitChars 10 cs 0) := Nat.ofDigitChars_append 0
  rw [@Nat.ofDigitChars_eq_ofDigitChars_zero ds, Nat.mul_comm] at happend
  exact happend

theorem digitsValue_zeros (n : Nat) : digitsValue (Layout.zeros n) = 0 := by
  have hzeros : Nat.ofDigitChars 10 (List.replicate n '0') 0 = 10 ^ n * 0 :=
    Nat.ofDigitChars_replicate_zero
  rw [Nat.mul_zero] at hzeros
  exact hzeros

theorem all_isDigit_zeros (n : Nat) : (Layout.zeros n).all isDigit = true := by
  simp [Layout.zeros, List.all_replicate, isDigit]

namespace Decimal

variable {whole fraction rest : List Char} {e : Int}

/-- A numeral with a whole part, a fraction and an exponent. -/
theorem read?_fraction (hwhole : whole.all isDigit = true) (hne : whole ≠ [])
    (hfraction : fraction.all isDigit = true) (hend : rest.head?.any isDigit = false)
    (hrest : readExponent? rest = some e) :
    read? (whole ++ '.' :: (fraction ++ rest)) =
      some ⟨digitsValue (whole ++ fraction), e - fraction.length⟩ := by
  have hpoint : ('.' :: (fraction ++ rest)).head?.any isDigit = false := rfl
  have hsplit : splitFraction ('.' :: (fraction ++ rest)) = (fraction, rest) := by
    rw [splitFraction, takeWhile_append_of_head? (List.all_eq_true.1 hfraction) hend,
      dropWhile_append_of_head? (List.all_eq_true.1 hfraction) hend]
  rw [read?, takeWhile_append_of_head? (List.all_eq_true.1 hwhole) hpoint,
    dropWhile_append_of_head? (List.all_eq_true.1 hwhole) hpoint, hsplit]
  simp [hne, hrest]

/-- A numeral with a whole part and an exponent. -/
theorem read?_whole (hwhole : whole.all isDigit = true) (hne : whole ≠ [])
    (hend : rest.head?.any isDigit = false) (hpoint : rest.head? ≠ some '.')
    (hrest : readExponent? rest = some e) :
    read? (whole ++ rest) = some ⟨digitsValue whole, e⟩ := by
  have hsplit : splitFraction rest = ([], rest) := by
    unfold splitFraction
    split
    · exact absurd rfl hpoint
    · rfl
  rw [read?, takeWhile_append_of_head? (List.all_eq_true.1 hwhole) hend,
    dropWhile_append_of_head? (List.all_eq_true.1 hwhole) hend, hsplit]
  simp [hne, hrest]

end Decimal

namespace Layout

variable (L : Layout)

theorem readExponent?_exponent (x : Int) :
    Decimal.readExponent? ('e' :: L.exponent x) = some x := by
  have hread (negative : Bool) (cs : List Char)
      (hsplit : splitSign cs = (negative, Nat.toDigits 10 x.natAbs)) :
      Decimal.readExponent? ('e' :: cs) = some (signed negative x.natAbs) := by
    simp [Decimal.readExponent?, isIntegerNumeral, hsplit, all_isDigit_toDigits,
      Nat.toDigits_ne_nil, digitsValue_toDigits]
  unfold exponent
  split
  · rw [hread true _ rfl, signed, if_pos rfl]
    congr 1
    omega
  · rw [hread false, signed, if_neg Bool.false_ne_true]
    · congr 1
      omega
    · split
      · rfl
      · exact splitSign_toDigits _

variable {digits : List Char} (h : digits.all isDigit = true) (hne : digits ≠ [])

include h hne

theorem read?_scientific (x : Int) : Decimal.read? (L.scientific digits x) =
    some ⟨digitsValue digits, x + 1 - digits.length⟩ := by
  have hexponent := L.readExponent?_exponent x
  match digits with
  | [] => exact absurd rfl hne
  | [d] =>
    rw [scientific]
    refine (Decimal.read?_whole h hne rfl (by simp) hexponent).trans ?_
    simp
  | d :: c :: ds =>
    rw [List.all_cons, Bool.and_eq_true] at h
    rw [scientific]
    · refine
        (@Decimal.read?_fraction [d] _ _ _ (by simp [h.1]) (by simp) h.2 rfl hexponent).trans ?_
      simp
    · simp

omit hne in
/-- Zeros before the digits do not count. -/
theorem read?_pointBefore (n : Nat) : Decimal.read? ('0' :: '.' :: (zeros n ++ digits)) =
    some ⟨digitsValue digits, -(n + digits.length : Nat)⟩ := by
  have hfraction : (zeros n ++ digits).all isDigit = true := by
    rw [List.all_append, all_isDigit_zeros, h, Bool.true_and]
  have hread := @Decimal.read?_fraction ['0'] _ [] 0 rfl (by simp) hfraction rfl rfl
  rw [List.append_nil, digitsValue_append, digitsValue_append, digitsValue_zeros] at hread
  refine hread.trans ?_
  simp [zeros, digitsValue]

/-- Zeros behind the digits count, also that behind the point. -/
theorem read?_pointBehind (n : Nat) : ∃ k : Nat,
    Decimal.read? (digits ++ zeros n ++ (if L.pointZero then ['.', '0'] else [])) =
      some ⟨digitsValue digits * Nat.pow 10 k, n - k⟩ := by
  have hwhole : (digits ++ zeros n).all isDigit = true := by
    rw [List.all_append, all_isDigit_zeros, h, Bool.true_and]
  have hwholeNe : digits ++ zeros n ≠ [] := by simp [hne]
  split
  · refine ⟨n + 1, ?_⟩
    have hread := @Decimal.read?_fraction _ ['0'] [] 0 hwhole hwholeNe rfl rfl rfl
    rw [digitsValue_append, digitsValue_append, digitsValue_zeros] at hread
    refine hread.trans ?_
    simp [zeros, digitsValue, Nat.mul_assoc]
    omega
  · refine ⟨n, ?_⟩
    have hread := @Decimal.read?_whole _ [] 0 hwhole hwholeNe rfl (by simp) rfl
    rw [digitsValue_append, digitsValue_zeros] at hread
    refine hread.trans ?_
    simp [zeros]

theorem read?_pointBetween {n : Nat} (hpos : 0 < n) :
    Decimal.read? (digits.take n ++ '.' :: digits.drop n) =
      some ⟨digitsValue digits, -(digits.length - n : Nat)⟩ := by
  rw [← List.take_append_drop n digits, List.all_append, Bool.and_eq_true] at h
  have htakeNe : digits.take n ≠ [] := by
    rw [Ne, List.take_eq_nil_iff]
    simp [hne]
    omega
  have hread := @Decimal.read?_fraction _ _ [] 0 h.1 htakeNe h.2 rfl rfl
  rw [List.append_nil, List.take_append_drop] at hread
  refine hread.trans ?_
  simp

/-- Digits around a point denote their number, up to zeros behind them. -/
theorem read?_around (point : Int) : ∃ k : Nat, Decimal.read? (L.around digits point) =
      some ⟨digitsValue digits * Nat.pow 10 k, point - digits.length - k⟩ := by
  unfold around
  split
  · refine ⟨0, ?_⟩
    rw [read?_pointBefore h]
    simp
    omega
  · split
    · obtain ⟨k, hk⟩ := L.read?_pointBehind h hne (point.toNat - digits.length)
      refine ⟨k, ?_⟩
      rw [hk]
      simp
      omega
    · refine ⟨0, ?_⟩
      rw [read?_pointBetween h hne (by omega)]
      simp
      omega

omit h hne

/-- The text of a decimal denotes it, up to zeros behind the digits. -/
theorem read?_writeDecimal (d : Decimal) : ∃ k : Nat, Decimal.read? (L.writeDecimal d) =
      some ⟨d.digits * Nat.pow 10 k, d.exponent - k⟩ := by
  have hdigits := all_isDigit_toDigits d.digits
  have hne : Nat.toDigits 10 d.digits ≠ [] := Nat.toDigits_ne_nil
  unfold writeDecimal
  dsimp only
  split
  · obtain ⟨k, hk⟩ := L.read?_around hdigits hne
      ((Nat.toDigits 10 d.digits).length + d.exponent)
    refine ⟨k, ?_⟩
    rw [hk, digitsValue_toDigits, Int.add_comm, Int.add_sub_cancel]
  · refine ⟨0, ?_⟩
    rw [L.read?_scientific hdigits hne, digitsValue_toDigits]
    simp

/-! ### Floats -/

/-- The text of a finite float without its sign denotes the bits of the float. -/
theorem exists_read?_writeMagnitude {x : Float} (h : x.isFinite = true) :
    ∃ d : Decimal, Decimal.read? (L.writeMagnitude x) = some d ∧
      ∀ negative, d.toFloat negative = ofMagnitudeBits negative (magnitudeBits x) := by
  rw [writeMagnitude]
  cases hzero : x == 0 with
  | true =>
    rw [if_pos rfl, beq_zero_iff.1 hzero]
    split
    · exact ⟨⟨0, -1⟩, rfl, fun _ => rfl⟩
    · exact ⟨⟨0, 0⟩, rfl, fun _ => rfl⟩
  | false =>
    obtain ⟨k, hk⟩ := L.read?_writeDecimal (Decimal.shortest L.tie x)
    rw [if_neg Bool.false_ne_true]
    exact ⟨_, hk, Decimal.toFloat_shortest h hzero L.tie k⟩

end Layout

/-- A numeral that has no sign is split off none. -/
theorem splitSign_of_read? {cs : List Char} {d : Decimal} (h : Decimal.read? cs = some d) :
    splitSign cs = (false, cs) := by
  unfold splitSign
  split
  · cases h
  · cases h
  · rfl

/-! ### Words for floats that are not finite -/

theorem asciiLower_ne_of_isDigit {c : Char} (h : isDigit c = true) : asciiLower c ≠ 'n' := by
  have hcapital : ¬('A' ≤ c ∧ c ≤ 'Z') := fun hcapital =>
    absurd (Char.le_trans hcapital.1 (of_decide_eq_true h).2) (by decide)
  rw [asciiLower, if_neg hcapital]
  rintro rfl
  exact absurd h (by decide)

theorem asciiLower_ne_of_isNumeralChar {c : Char} (h : isNumeralChar c = true) :
    asciiLower c ≠ 'n' := by
  rw [isNumeralChar, Bool.or_eq_true] at h
  rcases h with hdigit | hmark
  · exact asciiLower_ne_of_isDigit hdigit
  · have : c = '.' ∨ c = 'e' ∨ c = '+' ∨ c = '-' := by simpa using hmark
    rcases this with rfl | rfl | rfl | rfl <;> decide

/-- Every word for a float that is not finite has an `n`, and a text without it is none of them. -/
theorem readFloat?_of_forall_ne {cs : List Char} {negative : Bool} {body : List Char}
    (hsplit : splitSign cs = (negative, body)) (h : ∀ c ∈ body, asciiLower c ≠ 'n') :
    readFloat? cs = (Decimal.read? body).map (Decimal.toFloat negative) := by
  have hword {w : List Char} (hw : 'n' ∈ w) : body.map asciiLower ≠ w := by
    rintro rfl
    obtain ⟨c, hc, hn⟩ := List.mem_map.1 hw
    exact h c hc hn
  rw [readFloat?, hsplit]
  dsimp only
  rw [if_neg (not_or.2 ⟨hword (by decide), hword (by decide)⟩), if_neg (hword (by decide))]

/-! ### Texts of floats -/

/-- Every text of a finite float is read as that float. -/
theorem readFloat?_write (L : Layout) {x : Float} (h : x.isFinite = true) :
    readFloat? (L.write x) = some x := by
  obtain ⟨d, hread, hfloat⟩ := L.exists_read?_writeMagnitude h
  have hsplit : splitSign (L.write x) = (isNegative x, L.writeMagnitude x) := by
    rw [L.write_of_isFinite h]
    cases isNegative x with
    | true => rfl
    | false => exact splitSign_of_read? hread
  have hnumeral : ∀ c ∈ L.writeMagnitude x, asciiLower c ≠ 'n' := fun c hc =>
    asciiLower_ne_of_isNumeralChar (List.all_eq_true.1 (L.all_writeMagnitude x) c hc)
  rw [readFloat?_of_forall_ne hsplit hnumeral, hread, Option.map_some, hfloat,
    ofMagnitudeBits_magnitudeBits]

end TripletFacts
