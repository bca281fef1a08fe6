import TripletFacts.Proofs.Condition.Extension
import TripletFacts.Proofs.Condition.Touching

/-!
# Operands in conditions

A reference with a mark is replaced in the first pass, and a reference without one in the second
pass. The second pass goes over the operands that the first one has put in. It leaves an operand as
it is, and does the same before and behind the operand as it does without it, if the operand touches
nothing. Then no token of the expression reaches into an operand or out of it.

An operand that touches something can become a part of a longer word or numeral: if `A.B` is `1`,
the value of `2$A.B` is `21`.

## Main definitions

* `Facts.Splices`: an operand that a pass puts in, and what stands on both sides of it.
* `Settings.Passes`: the texts between the passes over a condition.

## Main results

* `textParts_operandText_between`: the second pass over the text around an operand.
* `touches_of_fill`: the second pass does not bring an operand in touch with anything.
* `Settings.tokenizesApart_of_evaluateCondition`: every operand has its own tokens.
-/

namespace TripletFacts

/-! ### The second pass around an operand -/

theorem isForeign_of_not_goesOn {c : Char} (hc : goesOn c = false) : IsForeign false c where
  word := by
    simp only [goesOn, Bool.or_eq_false_iff] at hc
    exact hc.1.1
  point := by
    rintro rfl
    cases hc
  mark h := by cases h

section

variable {marked start : Bool} {c : Char} {x y : List Char}

/-- Code is cut before a character that is no part of a reference. -/
theorem parts_append_cons (hc : IsForeign marked c) (next : Bool) :
    parts marked start (x ++ c :: y) = parts marked start x ++ parts marked next (c :: y) := by
  have hnext := parts_append hc next [] y
  rw [List.nil_append, parts_nil, List.nil_append] at hnext
  rw [parts_append hc, hnext]

/-- Code is cut behind a character that is no part of a reference. -/
theorem parts_concat_append (hc : IsForeign marked c) : parts marked start ((x ++ [c]) ++ y) =
    parts marked start (x ++ [c]) ++ parts marked (isBoundary c) y := by
  rw [List.append_assoc, List.singleton_append, parts_append hc, parts_append hc, parts_nil]
  simp

/-- The code around an operand that touches nothing is cut by itself. -/
theorem parts_operandText_between {v : Value} (hstr : ∀ s, v ≠ .str s)
    (h : touches x v.operandText y = false) :
    parts false true (x ++ (v.operandText ++ y)) =
      parts false true x ++ (v.operandText.map .kept ++ parts false true y) := by
  have hkept (next : Bool) : parts false next v.operandText = v.operandText.map .kept :=
    parts_bare_eq_map_kept (b := []) (Value.not_hasBareReference_operandText hstr) (by simp)
  have hboundary : ['(', ')', '\''].all isBoundary = true := by decide
  have hleft : ∃ next, parts false true (x ++ (v.operandText ++ y)) =
      parts false true x ++ parts false next (v.operandText ++ y) := by
    obtain ⟨d, u, hl, hd⟩ := v.isOperandText.exists_cons
    rcases hd with hgo | hparen
    · rcases List.eq_nil_or_concat x with rfl | ⟨x, c, rfl⟩
      · exact ⟨true, by simp⟩
      · obtain ⟨hlast, -, -⟩ := touches_eq_false_iff.1 h (by rw [hl]; exact hgo)
        have hc : goesOn c = false := by simpa using hlast
        rw [List.concat_eq_append]
        exact ⟨_, parts_concat_append (isForeign_of_not_goesOn hc)⟩
    · have hforeign : IsForeign false d := by
        refine isForeign_of_isBoundary (List.all_eq_true.1 hboundary d ?_) false
        simp only [List.mem_cons, List.not_mem_nil, or_false] at hparen ⊢
        exact hparen.imp_right .inr
      rw [hl, List.cons_append]
      exact ⟨true, parts_append_cons hforeign true⟩
  have hright (next : Bool) : parts false next (v.operandText ++ y) =
      parts false next v.operandText ++ parts false true y := by
    obtain ⟨u, c, hl, hc, -⟩ := v.isOperandText.exists_concat
    rcases hc with ⟨-, hhead⟩ | hparen
    · cases y with
      | nil => simp
      | cons d y =>
        obtain ⟨-, -, hd⟩ := touches_eq_false_iff.1 h hhead
        exact parts_append_cons (isForeign_of_not_goesOn hd) true
    · have hc : isBoundary c = true :=
        List.all_eq_true.1 hboundary c (List.mem_cons_of_mem '(' hparen)
      rw [hl, parts_concat_append (isForeign_of_isBoundary hc false), hc]
  obtain ⟨next, hleft⟩ := hleft
  rw [hleft, hright, hkept]

/-- An operand does not touch more if less stands beside it. -/
theorem touches_of_append {x' l y' : List Char} (h : touches (x' ++ x) l (y ++ y') = false) :
    touches x l y = false := by
  rw [touches_eq_false_iff] at h ⊢
  intro hgo
  obtain ⟨hlast, hexponent, hhead⟩ := h hgo
  refine ⟨?_, ?_, ?_⟩
  · rcases List.eq_nil_or_concat x with rfl | ⟨x, c, rfl⟩
    · rfl
    · simpa [← List.append_assoc] using hlast
  · cases hx : endsInExponent x with
    | false => rfl
    | true =>
      rw [endsInExponent_append hx] at hexponent
      cases hexponent
  · cases y with
    | nil => rfl
    | cons d y => exact hhead

/-- The second pass over the text around an operand that touches nothing. -/
theorem textParts_operandText_between (hx : IsComplete x) {v : Value}
    (h : touches x v.operandText y = false) : textParts false (x ++ (v.operandText ++ y)) =
      textParts false x ++ (v.operandText.map .kept ++ textParts false y) := by
  induction hx with
  | @code w hw =>
    by_cases hstr : ∃ s, v = .str s
    · obtain ⟨s, rfl⟩ := hstr
      have hclosed := isClosed_literal s
      rw [textParts_code_append false hw (by rfl), textParts_of_quoteFree false hw]
      exact congrArg _ (textParts_closed_append false hclosed y)
    · have hstr : ∀ s, v ≠ .str s := fun s hs => hstr ⟨s, hs⟩
      obtain ⟨u, z, rfl, hu, hz⟩ := exists_code y
      have hcode : quoteFree (w ++ (v.operandText ++ u)) = true :=
        quoteFree_append.2 ⟨hw, quoteFree_append.2 ⟨Value.quoteFree_operandText hstr, hu⟩⟩
      have hinner : touches w v.operandText u = false := by
        rw [← List.nil_append w] at h
        exact touches_of_append h
      have happend : w ++ (v.operandText ++ (u ++ z)) = (w ++ (v.operandText ++ u)) ++ z := by simp
      rw [happend, textParts_code_append false hcode hz, parts_operandText_between hstr hinner,
        textParts_of_quoteFree false hw, textParts_code_append false hu hz]
      simp
  | @literal w l x hw hl hx ih =>
    have hhead (z : List Char) : (l ++ z).head?.all isQuote = true := by
      obtain ⟨q, body, hq, rfl, -⟩ := hl
      simpa using hq
    have hinner : touches x v.operandText y = false := by
      rw [← List.append_assoc, ← List.append_nil y] at h
      exact touches_of_append h
    rw [List.append_assoc, List.append_assoc, textParts_code_append false hw (hhead _),
      textParts_closed_append false hl, ih hinner, textParts_code_append false hw (hhead _),
      textParts_closed_append false hl]
    simp

end

/-! ### Touching after the second pass -/

theorem exists_isPair_of_mem_parts {marked start : Bool} {a p n : List Char}
    (h : .reference p n ∈ parts marked start a) : ∃ r, IsPair p n r := by
  fun_induction parts marked start a with
  | case1 => cases h
  | case2 start c a p' n' r href ih =>
    rcases List.mem_cons.1 h with heq | h
    · obtain ⟨rfl, rfl⟩ := Part.reference.inj heq
      exact ⟨r, (eq_of_referenceAt? href).2⟩
    · exact ih h
  | case3 start c a href ih =>
    rcases List.mem_cons.1 h with heq | h
    · cases heq
    · exact ih h

theorem exists_isPair_of_mem_textParts {marked : Bool} {t p n : List Char}
    (h : .reference p n ∈ textParts marked t) : ∃ r, IsPair p n r := by
  obtain ⟨before, behind, hsplit⟩ := List.append_of_mem h
  obtain ⟨x, w, y, ps, qs, -, -, -, -, -, hparts, -⟩ := exists_code_of_reference hsplit
  have hmem : .reference p n ∈ parts marked true w := hparts ▸ List.mem_append_right ps (by simp)
  exact exists_isPair_of_mem_parts hmem

theorem goesOn_of_isWord {c : Char} (hc : Unicode.isWord c = true) : goesOn c = true := by
  simp [goesOn, hc]

/-- A reference begins and ends with characters that go on. -/
theorem goesOn_of_isPair {p n r : List Char} (h : IsPair p n r) :
    (∃ c u, writtenReference false p n = c :: u ∧ goesOn c = true) ∧
      ∃ u c, writtenReference false p n = u ++ [c] ∧ goesOn c = true := by
  constructor
  · obtain ⟨c, p, rfl⟩ := List.exists_cons_of_ne_nil h.pfx_ne
    exact ⟨c, p ++ '.' :: n, rfl, goesOn_of_isWord (h.pfx c List.mem_cons_self)⟩
  · obtain ⟨m, c, rfl⟩ : ∃ m c, n = m ++ [c] :=
      ⟨_, _, (List.dropLast_concat_getLast h.name_ne).symm⟩
    refine ⟨p ++ '.' :: m, c, ?_, goesOn_of_isWord (h.name c (by simp))⟩
    simp [writtenReference, markText]

section

variable {value : List Char → List Char → Except EvalError (List Char)} {x y : List Char}

/-- The first character of a text that goes on. -/
theorem any_head?_of_fill (h : Part.fill value (textParts false x) = .ok y)
    (hx : x.head?.any goesOn = false) : y.head?.any goesOn = false := by
  have hwritten : (textParts false x).flatMap (Part.written false) = x := written_textParts x
  cases hparts : textParts false x with
  | nil =>
    rw [hparts] at h
    exact Except.ok.inj h ▸ rfl
  | cons q ps =>
    rw [hparts, List.flatMap_cons] at hwritten
    cases q with
    | kept c =>
      rw [hparts, Part.fill_kept_cons_eq_ok_iff] at h
      obtain ⟨z, -, rfl⟩ := h
      rw [← hwritten] at hx
      exact hx
    | reference p n =>
      obtain ⟨r, hpair⟩ := exists_isPair_of_mem_textParts (hparts ▸ List.mem_cons_self)
      obtain ⟨⟨c, u, hc, hgo⟩, -⟩ := goesOn_of_isPair hpair
      rw [← hwritten, Part.written, hc, List.cons_append, List.head?_cons, Option.any_some,
        hgo] at hx
      cases hx

/-- The last character of a text that does not go on is kept. -/
theorem exists_concat_of_fill (h : Part.fill value (textParts false x) = .ok y) (hne : x ≠ [])
    (hx : x.getLast?.any goesOn = false) :
    ∃ ps c z, textParts false x = ps ++ [.kept c] ∧ Part.fill value ps = .ok z ∧ y = z ++ [c] ∧
      goesOn c = false := by
  have hwritten : (textParts false x).flatMap (Part.written false) = x := written_textParts x
  rcases List.eq_nil_or_concat (textParts false x) with hnil | ⟨ps, q, hparts⟩
  · rw [hnil] at hwritten
    exact absurd hwritten.symm hne
  · rw [List.concat_eq_append] at hparts
    rw [hparts, List.flatMap_append, List.flatMap_singleton] at hwritten
    cases q with
    | kept c =>
      rw [hparts, Part.fill_concat_kept_eq_ok_iff] at h
      obtain ⟨z, hz, rfl⟩ := h
      refine ⟨ps, c, z, hparts, hz, rfl, ?_⟩
      rw [← hwritten, Part.written, List.getLast?_append] at hx
      exact hx
    | reference p n =>
      have hmem : .reference p n ∈ textParts false x :=
        hparts ▸ List.mem_append_right ps List.mem_cons_self
      obtain ⟨r, hpair⟩ := exists_isPair_of_mem_textParts hmem
      obtain ⟨-, u, c, hc, hgo⟩ := goesOn_of_isPair hpair
      rw [← hwritten, Part.written, hc, ← List.append_assoc, List.getLast?_append] at hx
      simp [hgo] at hx

/-- The letter of an exponent is kept, because no operand ends with it. -/
theorem exists_concat_of_endsInMantissa
    (hvalue : ∀ p n l, value p n = .ok l → ∃ v : Value, l = v.operandText) {ps : List Part}
    (h : Part.fill value ps = .ok y) (hy : endsInMantissa y = true) :
    ∃ qs e u, ps = qs ++ [.kept e] ∧ Part.fill value qs = .ok u ∧ y = u ++ [e] ∧
      (e = 'e' ∨ e = 'E') := by
  rcases List.eq_nil_or_concat ps with rfl | ⟨qs, q, rfl⟩
  · rw [← Except.ok.inj h] at hy
    cases hy
  · rw [List.concat_eq_append] at h ⊢
    cases q with
    | kept e =>
      obtain ⟨u, hu, rfl⟩ := Part.fill_concat_kept_eq_ok_iff.1 h
      exact ⟨qs, e, u, rfl, hu, rfl, eq_of_endsInMantissa_concat hy⟩
    | reference p n =>
      obtain ⟨u, l, -, hl, rfl⟩ := Part.fill_concat_reference_eq_ok_iff.1 h
      obtain ⟨v, rfl⟩ := hvalue p n l hl
      obtain ⟨-, -, -, -, hnot⟩ := v.isOperandText.exists_concat
      rw [hnot] at hy
      cases hy

/-- No exponent comes about at the end of a text. -/
theorem endsInExponent_of_fill
    (hvalue : ∀ p n l, value p n = .ok l → ∃ v : Value, l = v.operandText)
    (h : Part.fill value (textParts false x) = .ok y) (hx : x.getLast?.any goesOn = false)
    (hy : endsInExponent y = true) : endsInExponent x = true := by
  have hne : x ≠ [] := by
    rintro rfl
    rw [textParts_nil] at h
    rw [← Except.ok.inj h] at hy
    cases hy
  obtain ⟨ps, s, z, hparts, hz, rfl, -⟩ := exists_concat_of_fill h hne hx
  have hwritten : (textParts false x).flatMap (Part.written false) = x := written_textParts x
  rw [endsInExponent_concat, Bool.and_eq_true] at hy
  obtain ⟨hs, hmantissa⟩ := hy
  obtain ⟨ps, e, u, rfl, hu, rfl, he⟩ := exists_concat_of_endsInMantissa hvalue hz hmantissa
  -- what stands before the letter is kept too, because a reference would go on with it
  rcases List.eq_nil_or_concat ps with rfl | ⟨qs, q, rfl⟩
  · rw [← Except.ok.inj hu] at hmantissa
    cases hmantissa
  · rw [List.concat_eq_append, List.append_assoc, List.append_assoc] at hparts
    cases q with
    | reference p n =>
      have hword := isWord_eq_false_of_textParts hparts
      rcases he with rfl | rfl <;> exact absurd hword (by decide)
    | kept d =>
      rw [List.concat_eq_append, Part.fill_concat_kept_eq_ok_iff] at hu
      obtain ⟨w, -, rfl⟩ := hu
      rw [List.append_assoc, List.singleton_append, endsInMantissa_append_pair] at hmantissa
      have hend : x = (qs.flatMap (Part.written false) ++ [d, e]) ++ [s] := by
        rw [← hwritten, hparts]
        simp [Part.written]
      rw [hend, endsInExponent_concat, endsInMantissa_append_pair, hs, hmantissa]
      rfl

/-- The second pass does not bring an operand in touch with anything. -/
theorem touches_of_fill (hvalue : ∀ p n l, value p n = .ok l → ∃ v : Value, l = v.operandText)
    {x' y' l : List Char} (hx : Part.fill value (textParts false x) = .ok x')
    (hy : Part.fill value (textParts false y) = .ok y') (h : touches x l y = false) :
    touches x' l y' = false := by
  rw [touches_eq_false_iff] at h ⊢
  intro hgo
  obtain ⟨hlast, hexponent, hhead⟩ := h hgo
  refine ⟨?_, ?_, any_head?_of_fill hy hhead⟩
  · by_cases hne : x = []
    · rw [hne, textParts_nil] at hx
      exact Except.ok.inj hx ▸ rfl
    · obtain ⟨-, c, z, -, -, rfl, hc⟩ := exists_concat_of_fill hx hne hlast
      simp [hc]
  · cases hends : endsInExponent x' with
    | false => rfl
    | true =>
      rw [endsInExponent_of_fill hvalue hx hlast hends] at hexponent
      cases hexponent

end

/-! ### Operands that are put in -/

section

variable {f : Facts} {marked : Bool} {t m x l y : List Char}

/-- The pass over `t` puts the operand `l` in place of a reference. It makes `x` of the text before
the reference, and `y` of the text behind it. -/
def Facts.Splices (f : Facts) (marked : Bool) (t x l y : List Char) : Prop :=
  let value := fun p n => f.operandOf p n (writtenReference marked p n)
  ∃ before p n behind, textParts marked t = before ++ .reference p n :: behind ∧
    Part.fill value before = .ok x ∧ value p n = .ok l ∧ Part.fill value behind = .ok y

namespace Facts.Splices

/-- The operand stands between the two texts. -/
theorem fill_eq (h : f.Splices marked t x l y) :
    Part.fill (fun p n => f.operandOf p n (writtenReference marked p n)) (textParts marked t) =
      .ok (x ++ (l ++ y)) := by
  obtain ⟨before, p, n, behind, hparts, hx, hl, hy⟩ := h
  rw [hparts]
  have hbehind : Part.fill _ ([.reference p n] ++ behind) = .ok (l ++ y) :=
    Part.fill_append_eq_ok_iff.2 ⟨l, y, (Part.fill_reference p n).trans hl, hy, rfl⟩
  exact Part.fill_append_eq_ok_iff.2 ⟨x, l ++ y, hx, hbehind, rfl⟩

theorem isComplete (h : f.Splices marked t x l y) : IsComplete x := by
  obtain ⟨before, p, n, behind, hparts, hx, -, -⟩ := h
  refine isComplete_of_fill_before (fun p n z hz => ?_) hparts hx
  obtain ⟨v, rfl⟩ := exists_operandText_of_operandOf hz
  exact v.isComplete_operandText

theorem exists_value (h : f.Splices marked t x l y) : ∃ v : Value, l = v.operandText := by
  obtain ⟨-, p, n, -, -, -, hl, -⟩ := h
  exact exists_operandText_of_operandOf hl

end Facts.Splices

end

namespace Settings

variable {facts db : Facts} {t m e x l y : List Char}

/-- An operand that the second pass puts in has its own tokens, if it touches nothing. -/
theorem tokenizesApart_of_splices_bare (hm : mapCode (standard.substituteBare db) m = .ok e)
    {ts : List Placed} (hts : tokenize e = .ok ts) (h : db.Splices false m x l y)
    (htouches : touches x l y = false) : e = x ++ (l ++ y) ∧ TokenizesApart x l y := by
  rw [mapCode_substituteBare, h.fill_eq] at hm
  obtain rfl := Except.ok.inj hm
  obtain ⟨v, rfl⟩ := h.exists_value
  exact ⟨rfl, tokenizesApart_of_not_touches h.isComplete htouches hts⟩

/-- The second pass goes over the text before an operand of the first pass and over the text behind
it. The operand is kept, and has its own tokens, if it touches nothing. -/
theorem tokenizesApart_of_splices_marked
    (ht : mapCode (standard.substituteMarked facts) t = .ok m)
    (hm : mapCode (standard.substituteBare db) m = .ok e) {ts : List Placed}
    (hts : tokenize e = .ok ts) (h : facts.Splices true t x l y)
    (htouches : touches x l y = false) :
    ∃ x' y', mapCode (standard.substituteBare db) x = .ok x' ∧
      mapCode (standard.substituteBare db) y = .ok y' ∧ e = x' ++ (l ++ y') ∧
        TokenizesApart x' l y' := by
  have hvalue : ∀ p n l, db.operandOf p n (writtenReference false p n) = .ok l →
      ∃ v : Value, l = v.operandText := fun p n l => exists_operandText_of_operandOf
  rw [mapCode_substituteMarked, h.fill_eq] at ht
  obtain rfl := Except.ok.inj ht
  obtain ⟨v, rfl⟩ := h.exists_value
  simp only [mapCode_substituteBare] at hm ⊢
  rw [textParts_operandText_between h.isComplete htouches] at hm
  obtain ⟨x', z, hx', hz, rfl⟩ := Part.fill_append_eq_ok_iff.1 hm
  obtain ⟨l', y', hl', hy', rfl⟩ := Part.fill_append_eq_ok_iff.1 hz
  obtain rfl : v.operandText = l' := Except.ok.inj ((Part.fill_map_kept _).symm.trans hl')
  have hcomplete : IsComplete x' := by
    refine isComplete_of_fill_textParts (fun p n z hz => ?_) h.isComplete hx'
    obtain ⟨v, rfl⟩ := hvalue p n z hz
    exact v.isComplete_operandText
  have htouches' : touches x' v.operandText y' = false := touches_of_fill hvalue hx' hy' htouches
  exact ⟨x', y', hx', hy', rfl, tokenizesApart_of_not_touches hcomplete htouches' hts⟩

/-- The texts between the passes over a condition. -/
structure Passes (facts db : Facts) (condition t m e : List Char) : Prop where
  presence : mapCode (standard.resolvePresence facts db) (normalizeCondition condition) = .ok t
  marked : mapCode (standard.substituteMarked facts) t = .ok m
  bare : mapCode (standard.substituteBare db) m = .ok e

theorem Passes.unique {condition t' m' e' : List Char} (h : Passes facts db condition t m e)
    (h' : Passes facts db condition t' m' e') : t = t' ∧ m = m' ∧ e = e' := by
  obtain rfl := Except.ok.inj (h.presence.symm.trans h'.presence)
  obtain rfl := Except.ok.inj (h.marked.symm.trans h'.marked)
  exact ⟨rfl, rfl, Except.ok.inj (h.bare.symm.trans h'.bare)⟩

/-- A condition has a value if the expression that the passes make of it has that value. -/
theorem exists_passes {condition : List Char} {v : Value} {a b : FactSource}
    (h : standard.evaluateCondition condition a b = .ok v) :
    ∃ facts db t m e, standard.sourceFacts a = .ok facts ∧ standard.sourceFacts b = .ok db ∧
      Passes facts db condition t m e ∧ standard.expressionText condition a b = .ok e ∧
        evaluate e = .ok v := by
  rw [evaluateCondition] at h
  split at h
  · cases h
  rename_i e he
  have hsteps := he
  unfold expressionText at hsteps
  split_ifs at hsteps
  split at hsteps
  · cases hsteps
  rename_i facts hfacts
  split at hsteps
  · cases hsteps
  rename_i db hdb
  rw [substitute_eq_bind] at hsteps
  obtain ⟨m, hbind, hbare⟩ := bind_eq_ok_iff.1 hsteps
  obtain ⟨t, hpresence, hmarked⟩ := bind_eq_ok_iff.1 hbind
  exact ⟨facts, db, t, m, e, hfacts, hdb, ⟨hpresence, hmarked, hbare⟩, he, h⟩

/-- **Every operand has its own tokens.** In a condition that has a value, every operand that is put
in for a reference and touches nothing stays as it is in the final expression. The tokens of the
expression are those of the text before the operand, those of the operand, and those of the text
behind it. For a reference with a mark these texts are what the second pass makes of the code
beside it. -/
theorem tokenizesApart_of_evaluateCondition {condition : List Char} {v : Value} {a b : FactSource}
    (h : standard.evaluateCondition condition a b = .ok v) :
    ∃ facts db t m e, standard.sourceFacts a = .ok facts ∧ standard.sourceFacts b = .ok db ∧
      Passes facts db condition t m e ∧ standard.expressionText condition a b = .ok e ∧
        (∀ x l y, facts.Splices true t x l y → touches x l y = false →
          ∃ x' y', mapCode (standard.substituteBare db) x = .ok x' ∧
            mapCode (standard.substituteBare db) y = .ok y' ∧ e = x' ++ (l ++ y') ∧
              TokenizesApart x' l y') ∧
        ∀ x l y, db.Splices false m x l y → touches x l y = false →
          e = x ++ (l ++ y) ∧ TokenizesApart x l y := by
  obtain ⟨facts, db, t, m, e, hfacts, hdb, hpasses, he, hvalue⟩ := exists_passes h
  obtain ⟨tree, htree, -⟩ := evaluate_eq_ok_iff.1 hvalue
  obtain ⟨ts, hts, -⟩ := Expr.parse_eq_ok_iff.1 htree
  refine ⟨facts, db, t, m, e, hfacts, hdb, hpasses, he, fun x l y hsplice htouches => ?_,
    fun x l y hsplice htouches => ?_⟩
  · exact tokenizesApart_of_splices_marked hpasses.marked hpasses.bare hts hsplice htouches
  · exact tokenizesApart_of_splices_bare hpasses.bare hts hsplice htouches

/-- The condition `$A.B+A.B*2` becomes `1+1*2`, and each `1` is a token. -/
theorem tokenizesApart_sum :
    standard.evaluateCondition "$A.B+A.B*2".toList (.given oneNumber) (.given oneNumber) =
      .ok (.int 3) ∧
    oneNumber.Splices true "$A.B+A.B*2".toList [] "1".toList "+A.B*2".toList ∧
    touches [] "1".toList "+A.B*2".toList = false ∧
    TokenizesApart [] "1".toList "+1*2".toList ∧
    oneNumber.Splices false "1+A.B*2".toList "1+".toList "1".toList "*2".toList ∧
    touches "1+".toList "1".toList "*2".toList = false ∧
    TokenizesApart "1+".toList "1".toList "*2".toList := by
  have h : standard.evaluateCondition "$A.B+A.B*2".toList (.given oneNumber) (.given oneNumber) =
      .ok (.int 3) := by decide +kernel
  have hmarked : oneNumber.Splices true "$A.B+A.B*2".toList [] "1".toList "+A.B*2".toList :=
    ⟨[], ['A'], ['B'], "+A.B*2".toList.map .kept, by decide +kernel⟩
  have hbare : oneNumber.Splices false "1+A.B*2".toList "1+".toList "1".toList "*2".toList :=
    ⟨"1+".toList.map .kept, ['A'], ['B'], "*2".toList.map .kept, by decide +kernel⟩
  have hbefore : touches [] "1".toList "+A.B*2".toList = false := by decide +kernel
  have hbehind : touches "1+".toList "1".toList "*2".toList = false := by decide +kernel
  obtain ⟨facts, db, t, m, e, hfacts, hdb, hpasses, -, hall, hall'⟩ :=
    tokenizesApart_of_evaluateCondition h
  obtain rfl : oneNumber = facts := Except.ok.inj hfacts
  obtain rfl : oneNumber = db := Except.ok.inj hdb
  have hpasses' : Passes oneNumber oneNumber "$A.B+A.B*2".toList "$A.B+A.B*2".toList
      "1+A.B*2".toList "1+1*2".toList :=
    ⟨by decide +kernel, by decide +kernel, by decide +kernel⟩
  obtain ⟨rfl, rfl, rfl⟩ := hpasses'.unique hpasses
  obtain ⟨x', y', hx', hy', -, happart⟩ := hall _ _ _ hmarked hbefore
  have hx : mapCode (standard.substituteBare oneNumber) [] = .ok [] := by decide +kernel
  have hy : mapCode (standard.substituteBare oneNumber) "+A.B*2".toList = .ok "+1*2".toList := by
    decide +kernel
  obtain rfl := Except.ok.inj (hx.symm.trans hx')
  obtain rfl := Except.ok.inj (hy.symm.trans hy')
  exact ⟨h, hmarked, hbefore, happart, hbare, hbehind, (hall' _ _ _ hbare hbehind).2⟩

/-- An operand behind a digit is a part of a longer numeral. -/
theorem not_tokenizesApart_digit :
    standard.evaluateCondition "2$A.B".toList (.given oneNumber) (.given (.empty .standard)) =
      .ok (.int 21) ∧
    Passes oneNumber (.empty .standard) "2$A.B".toList "2$A.B".toList "21".toList "21".toList ∧
    oneNumber.Splices true "2$A.B".toList "2".toList "1".toList [] ∧
    ¬TokenizesApart "2".toList "1".toList [] := by
  refine ⟨by decide +kernel, ⟨by decide +kernel, by decide +kernel, by decide +kernel⟩,
    ⟨['2'].map .kept, ['A'], ['B'], [], by decide +kernel⟩, ?_⟩
  rintro ⟨us, vs, ws, hus, hvs, hws, hts⟩
  have hx : tokenize "2".toList = .ok [⟨.number (.int 2), 0⟩] := by decide +kernel
  have hl : tokensFrom "2".toList.length "1".toList = .ok [⟨.number (.int 1), 1⟩] := by
    decide +kernel
  have he : tokenize "21".toList = .ok [⟨.number (.int 21), 0⟩] := by decide +kernel
  obtain rfl := Except.ok.inj (hx.symm.trans hus)
  obtain rfl := Except.ok.inj (hl.symm.trans hvs)
  have hlength := congrArg List.length (Except.ok.inj (he.symm.trans hts))
  simp at hlength

end Settings

end TripletFacts
