import TripletFacts.Proofs.Condition.Borders
import TripletFacts.Proofs.Expr.Operand

/-!
# Values beside other text

The operand of a value is put into a text where a reference stands. A text in quotes and a number in
parentheses end by themselves. A word or a numeral does not: it goes on with a letter, a digit or a
point beside it, and it completes the exponent of a numeral that ends with a sign. Where it does
not, no token reaches into it and none reaches out of it.

## Main definitions

* `IsOperandText`: the kinds of operands.
* `touches`: whether an operand goes on with what stands beside it.
* `TokenizesApart`: a text in three parts has the tokens of the parts.

## Main results

* `Value.isOperandText`: the operand of every value is of one of these kinds.
* `isBorder_before`, `isBorder_behind`: the borders of an operand that touches nothing.
* `tokenizesApart_of_not_touches`: an operand that touches nothing has its own tokens.
-/

namespace TripletFacts

/-! ### Kinds of operands -/

/-- A text in quotes, a text in parentheses, a word, or a numeral without a sign. -/
inductive IsOperandText : List Char → Prop
  | quoted (u : List Char) : IsOperandText ('\'' :: (u ++ ['\'']))
  | grouped (u : List Char) : IsOperandText ('(' :: (u ++ [')']))
  | word {w : List Char} (hw : w ∈ ["True".toList, "False".toList, "NaN".toList, "inf".toList]) :
      IsOperandText w
  | numeral {w : List Char} {d : Decimal} (hw : Decimal.read? w = some d) : IsOperandText w

namespace Value

theorem isOperandText_int (i : Int64) : IsOperandText (int i).operandText := by
  by_cases hneg : i < 0
  · have hliteral : (int i).literal = '-' :: Nat.toDigits 10 i.toInt.natAbs :=
      integerText_of_neg hneg
    rw [operandText_minus rfl hliteral]
    exact .grouped ('-' :: _)
  · have hliteral : (int i).literal = Nat.toDigits 10 i.toInt.natAbs :=
      integerText_of_not_neg hneg
    have hread := read?_toDigits i.toInt.natAbs
    rw [operandText_of_head? (hliteral ▸ head?_ne_minus_of_read? hread), hliteral]
    exact .numeral hread

theorem isOperandText_float (x : Float) : IsOperandText (float x).operandText := by
  by_cases hnan : x.isNaN = true
  · have hliteral : (float x).literal = "NaN".toList := by
      rw [literal, literalText, Layout.write, if_pos hnan]
      rfl
    rw [operandText_of_head? (hliteral ▸ by decide), hliteral]
    exact .word (by decide)
  obtain ⟨w, hliteral, hw, hminus⟩ : ∃ w, (float x).literal =
      (if Binary64.isNegative x then ['-'] else []) ++ w ∧ IsOperandText w ∧
        w.head? ≠ some '-' := by
    by_cases hfinite : x.isFinite = true
    · obtain ⟨d, hread, -⟩ := Layout.literal.exists_read?_writeMagnitude hfinite
      exact ⟨_, Layout.literal.write_of_isFinite hfinite, .numeral hread,
        head?_ne_minus_of_read? hread⟩
    · have hinf : x.isInf = true := by
        unfold Float.isFinite Float.Model.isFinite at hfinite
        unfold Float.isNaN Float.Model.isNaN at hnan
        unfold Float.isInf Float.Model.isInf
        cases hx : x.toModel.unpack with
        | zero | finite =>
          rw [hx] at hfinite
          exact absurd rfl hfinite
        | notANumber =>
          rw [hx] at hnan
          exact absurd rfl hnan
        | infinity => rfl
      refine ⟨"inf".toList, ?_, .word (by decide), by decide⟩
      rw [literal, literalText, Layout.write, if_neg hnan, if_pos (c := x.isInf = true) hinf]
      rfl
  cases hsign : Binary64.isNegative x with
  | true =>
    rw [hsign, if_pos rfl, List.singleton_append] at hliteral
    rw [operandText_minus rfl hliteral]
    exact .grouped ('-' :: w)
  | false =>
    rw [hsign, if_neg Bool.false_ne_true, List.nil_append] at hliteral
    rw [operandText_of_head? (hliteral ▸ hminus), hliteral]
    exact hw

theorem isOperandText : (v : Value) → IsOperandText v.operandText
  | bool b => .word (by cases b <;> decide)
  | str _ => .quoted _
  | int i => isOperandText_int i
  | float x => isOperandText_float x

end Value

/-- The last character of a numeral. -/
theorem exists_concat_of_read? {w : List Char} {d : Decimal} (h : Decimal.read? w = some d) :
    ∃ u c, w = u ++ [c] ∧ (isDigit c = true ∨ c = '.') := by
  obtain ⟨a, e, hsplit, ha, he⟩ := exists_exponent w
  rw [Token.numberWidth_of_read? h, List.take_length] at hsplit
  obtain ⟨c, rest, rfl, -⟩ := Token.begins_of_read? h
  obtain ⟨u, z, hlast⟩ : ∃ u z, c :: rest = u ++ [z] :=
    ⟨_, _, (List.dropLast_concat_getLast (List.cons_ne_nil c rest)).symm⟩
  refine ⟨u, z, hlast, ?_⟩
  cases he with
  | none => exact ha z (by rw [List.append_nil] at hsplit; simp [← hsplit, hlast])
  | @some e sign digits _ _ _ hne hdigits =>
    obtain ⟨ds, z', rfl⟩ : ∃ ds z', digits = ds ++ [z'] :=
      ⟨_, _, (List.dropLast_concat_getLast hne).symm⟩
    have hend : u ++ [z] = (a ++ e :: (sign ++ ds)) ++ [z'] := by
      rw [← hlast, hsplit]
      simp
    obtain rfl : z = z' := List.singleton_inj.1 (List.append_inj' hend rfl).2
    exact .inl (hdigits z (by simp))

/-! ### Ends of operands -/

theorem eq_of_endsInMantissa_concat {x : List Char} {c : Char}
    (h : endsInMantissa (x ++ [c]) = true) : c = 'e' ∨ c = 'E' := by
  obtain ⟨y, d, e, heq, he, -⟩ := exists_of_endsInMantissa h
  have hend : x ++ [c] = (y ++ [d]) ++ [e] := by simpa using heq
  obtain rfl : c = e := List.singleton_inj.1 (List.append_inj' hend rfl).2
  exact he

/-- A sign of two characters has no characters of words, quotes or parentheses. -/
theorem not_mem_signs {c d : Char} {t : Token}
    (h : ∃ x ∈ [c, d], goesOn x = true ∨ x ∈ ['(', ')', '\'']) : ([c, d], t) ∉ signs := by
  intro hmem
  have hall : ∀ s ∈ signs, s.1.length = 2 →
      (s.1.all fun x => !goesOn x && !(['(', ')', '\''].contains x)) = true := by decide
  obtain ⟨x, hx, hkind⟩ := h
  have hnot := List.all_eq_true.1 (hall _ hmem rfl) x hx
  simp only [Bool.and_eq_true, Bool.not_eq_true'] at hnot
  rcases hkind with hgo | hparen
  · rw [hgo] at hnot
    cases hnot.1
  · rw [List.contains_iff_mem.2 hparen] at hnot
    cases hnot.2

namespace IsOperandText

variable {l : List Char}

/-- The first character of an operand. -/
theorem exists_cons (h : IsOperandText l) :
    ∃ c u, l = c :: u ∧ (goesOn c = true ∨ c ∈ ['(', '\'']) := by
  cases h with
  | quoted u | grouped u => exact ⟨_, _, rfl, .inr (by simp)⟩
  | word hw =>
    have hall : ∀ w ∈ ["True".toList, "False".toList, "NaN".toList, "inf".toList],
        w.head?.any goesOn = true := by decide
    cases l with
    | nil => cases hall _ hw
    | cons c u => exact ⟨c, u, rfl, .inl (hall _ hw)⟩
  | numeral hw =>
    obtain ⟨c, u, rfl, hc⟩ := Token.begins_of_read? hw
    exact ⟨c, u, rfl, .inl (goesOn_of_mantissa (hc.imp_right And.left))⟩

/-- The last character of an operand: where it goes on, the first one does too. -/
theorem exists_concat (h : IsOperandText l) : ∃ u c, l = u ++ [c] ∧
    (goesOn c = true ∧ l.head?.any goesOn = true ∨ c ∈ [')', '\'']) ∧
    ∀ x, endsInMantissa (x ++ l) = false := by
  have hother {u : List Char} {c : Char} (hc : c ≠ 'e' ∧ c ≠ 'E') (x : List Char) :
      endsInMantissa (x ++ (u ++ [c])) = false := by
    cases hmantissa : endsInMantissa (x ++ (u ++ [c])) with
    | false => rfl
    | true =>
      rw [← List.append_assoc] at hmantissa
      exact ((eq_of_endsInMantissa_concat hmantissa).elim hc.1 hc.2).elim
  cases h with
  | quoted u => exact ⟨'\'' :: u, '\'', rfl, .inr (by simp), hother (u := '\'' :: u) (by decide)⟩
  | grouped u => exact ⟨'(' :: u, ')', rfl, .inr (by simp), hother (u := '(' :: u) (by decide)⟩
  | word hw =>
    have hpair {u : List Char} {d c : Char} (hd : isDigit d = false ∧ d ≠ '.') (x : List Char) :
        endsInMantissa (x ++ (u ++ [d, c])) = false := by
      rw [← List.append_assoc, endsInMantissa_append_pair]
      simp [hd]
    simp only [List.mem_cons, List.not_mem_nil, or_false] at hw
    rcases hw with rfl | rfl | rfl | rfl
    · exact ⟨"Tru".toList, 'e', rfl, .inl (by decide), hpair (u := "Tr".toList) (by decide)⟩
    · exact ⟨"Fals".toList, 'e', rfl, .inl (by decide), hpair (u := "Fal".toList) (by decide)⟩
    · exact ⟨"Na".toList, 'N', rfl, .inl (by decide), hother (u := "Na".toList) (by decide)⟩
    · exact ⟨"in".toList, 'f', rfl, .inl (by decide), hother (u := "in".toList) (by decide)⟩
  | numeral hw =>
    obtain ⟨u, c, hlast, hc⟩ := exists_concat_of_read? hw
    obtain ⟨d, w, hfirst, hd⟩ := Token.begins_of_read? hw
    have hgo : l.head?.any goesOn = true := by
      rw [hfirst]
      exact goesOn_of_mantissa (hd.imp_right And.left)
    refine ⟨u, c, hlast, .inl ⟨goesOn_of_mantissa hc, hgo⟩, hlast ▸ hother ?_⟩
    constructor <;> rintro rfl <;> simp [isDigit] at hc

end IsOperandText

/-! ### What an operand touches -/

/-- Whether an operand goes on with what stands beside it. -/
def touches (x l y : List Char) : Bool :=
  l.head?.any goesOn && (x.getLast?.any goesOn || endsInExponent x || y.head?.any goesOn)

section

variable {x l y : List Char}

/-- Only an operand whose first character goes on touches something. -/
theorem touches_eq_false_iff : touches x l y = false ↔ (l.head?.any goesOn = true →
    x.getLast?.any goesOn = false ∧ endsInExponent x = false ∧ y.head?.any goesOn = false) := by
  cases hgo : l.head?.any goesOn <;> simp [touches, hgo, and_assoc]

theorem isBorder_before (hx : IsComplete x) (hl : IsOperandText l) (h : touches x l y = false) :
    IsBorder x (l ++ y) := by
  obtain ⟨d, u, rfl, hd⟩ := hl.exists_cons
  have hhead {d' : Char} (hd' : d' ∈ (d :: u ++ y).head?) : d' = d := (Option.some.inj hd').symm
  have hsign : ∀ c ∈ x.getLast?, ∀ d' ∈ (d :: u ++ y).head?, ∀ t, ([c, d'], t) ∉ signs := by
    intro c hc d' hd' t
    obtain rfl := hhead hd'
    refine not_mem_signs ⟨d', by simp, hd.imp_right fun h => ?_⟩
    simp only [List.mem_cons, List.not_mem_nil, or_false] at h ⊢
    exact h.imp_right .inr
  rcases hd with hgo | hparen
  · obtain ⟨hlast, hexponent, -⟩ := touches_eq_false_iff.1 h hgo
    refine ⟨hx, fun c hc d' hd' hc' => ?_, fun _ d' hd' => ?_, fun h => ?_, hsign⟩
    · rw [Option.mem_def.1 hc, Option.any_some, hc'] at hlast
      cases hlast
    · obtain rfl := hhead hd'
      constructor <;> rintro rfl <;> exact absurd hgo (by decide)
    · rw [hexponent] at h
      cases h
  · have hnot : goesOn d = false ∧ d ≠ '+' ∧ d ≠ '-' ∧ isDigit d = false := by
      simp only [List.mem_cons, List.not_mem_nil, or_false] at hparen
      rcases hparen with rfl | rfl <;> decide
    refine ⟨hx, fun c hc d' hd' _ => ?_, fun _ d' hd' => ?_, fun _ d' hd' => ?_, hsign⟩
    · exact hhead hd' ▸ hnot.1
    · exact hhead hd' ▸ ⟨hnot.2.1, hnot.2.2.1⟩
    · exact hhead hd' ▸ hnot.2.2.2

theorem isBorder_behind (hcomplete : IsComplete l) (hl : IsOperandText l)
    (h : touches x l y = false) : IsBorder l y := by
  obtain ⟨u, c, hlast, hc, hmantissa⟩ := hl.exists_concat
  have hmem {c' : Char} (hc' : c' ∈ l.getLast?) : c' = c := by
    rw [hlast] at hc'
    simpa using hc'.symm
  refine ⟨hcomplete, ?_, ?_, ?_, ?_⟩
  · intro c' hc' d hd hgo
    obtain rfl := hmem hc'
    rcases hc with ⟨-, hhead⟩ | hparen
    · obtain ⟨-, -, hnone⟩ := touches_eq_false_iff.1 h hhead
      rwa [Option.mem_def.1 hd, Option.any_some] at hnone
    · have hall : [')', '\''].any goesOn = false := by decide
      exact absurd hgo (List.any_eq_false.1 hall c' hparen)
  · rintro h
    rw [← List.nil_append l, hmantissa] at h
    cases h
  · intro h
    rw [hlast, endsInExponent_concat, Bool.and_eq_true] at h
    have hsign : c = '+' ∨ c = '-' := by simpa using h.1
    rcases hc with ⟨hgo, -⟩ | hparen
    · rcases hsign with rfl | rfl <;> exact absurd hgo (by decide)
    · rcases hsign with rfl | rfl <;> exact absurd hparen (by decide)
  · rintro c' hc' d hd t
    obtain rfl := hmem hc'
    exact not_mem_signs ⟨c', by simp, hc.imp And.left fun h => by simp_all⟩

/-- The tokens of a text in three parts are those of the parts, at their positions. -/
def TokenizesApart (x l y : List Char) : Prop :=
  ∃ us vs ws, tokenize x = .ok us ∧ tokensFrom x.length l = .ok vs ∧
    tokensFrom (x.length + l.length) y = .ok ws ∧ tokenize (x ++ (l ++ y)) = .ok (us ++ (vs ++ ws))

/-- An operand that touches nothing has its own tokens. -/
theorem tokenizesApart_of_not_touches (hx : IsComplete x) {v : Value}
    (h : touches x v.operandText y = false) {ts : List Placed}
    (hts : tokenize (x ++ (v.operandText ++ y)) = .ok ts) :
    TokenizesApart x v.operandText y := by
  obtain ⟨us, rest, hus, hrest, rfl⟩ :=
    exists_tokensFrom_of_isBorder (isBorder_before hx v.isOperandText h) hts
  obtain ⟨vs, ws, hvs, hws, rfl⟩ := exists_tokensFrom_of_isBorder
    (isBorder_behind v.isComplete_operandText v.isOperandText h) hrest
  rw [Nat.zero_add] at hvs hws
  exact ⟨us, vs, ws, hus, hvs, hws, hts⟩

end

end TripletFacts
