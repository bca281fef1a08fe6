import TripletFacts.Proofs.Condition.Operands

/-!
# Complete texts

A text is complete if every literal in it ends. What stands behind a complete text is cut into
segments by itself, so that a pass over references does the same there as it does without that text,
up to the code that meets in the middle. The text before a reference is complete, and it stays
complete if references in it are replaced by operands.

## Main definitions

* `IsComplete`: code, perhaps with closed literals in it.

## Main results

* `IsComplete.append`: complete texts one after the other.
* `isComplete_of_fill_before`: what stands before a reference is complete.
* `isComplete_of_fill_textParts`: a pass over a complete text makes a complete text.
* `isWord_eq_false_of_textParts`: no word character stands directly behind a reference.
-/

namespace TripletFacts

/-! ### Code and closed literals -/

/-- Code, perhaps with closed literals in it. -/
inductive IsComplete : List Char → Prop
  | code {w : List Char} (hw : quoteFree w = true) : IsComplete w
  | literal {w l x : List Char} (hw : quoteFree w = true) (hl : IsClosed l) (hx : IsComplete x) :
      IsComplete (w ++ (l ++ x))

theorem isComplete_nil : IsComplete [] := .code quoteFree_nil

theorem IsComplete.code_append {w x : List Char} (hw : quoteFree w = true) (hx : IsComplete x) :
    IsComplete (w ++ x) := by
  cases hx with
  | code hx => exact .code (quoteFree_append.2 ⟨hw, hx⟩)
  | literal hw' hl hx =>
    rw [← List.append_assoc]
    exact .literal (quoteFree_append.2 ⟨hw, hw'⟩) hl hx

theorem IsComplete.closed_append {l x : List Char} (hl : IsClosed l) (hx : IsComplete x) :
    IsComplete (l ++ x) :=
  .literal quoteFree_nil hl hx

theorem IsComplete.append {x y : List Char} (hx : IsComplete x) (hy : IsComplete y) :
    IsComplete (x ++ y) := by
  induction hx with
  | code hw => exact .code_append hw hy
  | literal hw hl hx ih =>
    rw [List.append_assoc, List.append_assoc]
    exact .literal hw hl ih

theorem IsClosed.isComplete {l : List Char} (hl : IsClosed l) : IsComplete l := by
  rw [← List.append_nil l]
  exact .closed_append hl isComplete_nil

theorem Value.isComplete_operandText (v : Value) : IsComplete v.operandText :=
  v.quoteFree_or_isClosed_operandText.elim .code IsClosed.isComplete

/-- Behind a character that is no quote the text is complete. -/
theorem IsComplete.of_cons {c : Char} {x : List Char} (h : IsComplete (c :: x))
    (hc : isQuote c = false) : IsComplete x := by
  generalize hcx : c :: x = y at h
  cases h with
  | code hw => exact .code (quoteFree_cons.1 (hcx ▸ hw)).2
  | @literal w l z hw hl hz =>
    cases w with
    | nil =>
      obtain ⟨q, body, hq, rfl, -⟩ := hl
      obtain ⟨rfl, -⟩ := List.cons_eq_cons.1 hcx
      rw [hc] at hq
      cases hq
    | cons d w =>
      obtain ⟨rfl, rfl⟩ := List.cons_eq_cons.1 hcx
      exact .literal (quoteFree_cons.1 hw).2 hl hz

/-- A complete text that begins with a quote begins with a closed literal. -/
theorem IsComplete.exists_closed {q : Char} {x : List Char} (h : IsComplete (q :: x))
    (hq : isQuote q = true) : ∃ body y, x = body ++ y ∧
      (∀ rest, splitLiteral q false (body ++ rest) = (body, rest)) ∧ IsComplete y := by
  generalize hqx : q :: x = z at h
  cases h with
  | code hw => simp [← hqx, quoteFree_cons, hq] at hw
  | @literal w l y hw hl hy =>
    cases w with
    | nil =>
      obtain ⟨q', body, -, rfl, hclosed⟩ := hl
      rw [List.nil_append, List.cons_append] at hqx
      obtain ⟨rfl, rfl⟩ := List.cons_eq_cons.1 hqx
      exact ⟨body, y, rfl, hclosed, hy⟩
    | cons d w =>
      obtain ⟨rfl, -⟩ := List.cons_eq_cons.1 hqx
      simp [quoteFree_cons, hq] at hw

/-! ### Parts as they are written -/

section

variable {marked : Bool}

theorem written_textParts (x : List Char) :
    (textParts marked x).flatMap (Part.written marked) = x := by
  have hseg (s : Segment) : (s.parts marked).flatMap (Part.written marked) = s.text := by
    rw [Segment.parts]
    split
    · exact written_parts marked true s.text
    · simp [List.flatMap_map, Part.written]
  rw [textParts, List.flatMap_assoc]
  simp only [hseg]
  exact text_segments x

theorem isQuote_eq_false_of_mem_parts {start : Bool} {w : List Char} (hw : quoteFree w = true)
    {c : Char} (hc : .kept c ∈ parts marked start w) : isQuote c = false := by
  have hmem : c ∈ (parts marked start w).flatMap (Part.written marked) :=
    List.mem_flatMap.2 ⟨_, hc, List.mem_singleton.2 rfl⟩
  rw [written_parts] at hmem
  simpa using List.all_eq_true.1 hw c hmem

/-- A reference is as long as it can be. -/
theorem isWord_eq_false_of_parts {start : Bool} {a p n : List Char} {ps qs : List Part} {c : Char}
    (h : parts marked start a = ps ++ .reference p n :: .kept c :: qs) :
    Unicode.isWord c = false := by
  fun_induction parts marked start a generalizing ps with
  | case1 => cases ps <;> cases h
  | case2 start d a p' n' r href ih =>
    cases ps with
    | nil =>
      obtain ⟨-, hparts⟩ := List.cons_eq_cons.1 h
      obtain ⟨-, hpair⟩ := eq_of_referenceAt? href
      have hwritten := written_parts marked false r
      rw [hparts, List.flatMap_cons, Part.written] at hwritten
      have hstop := hpair.stop
      rw [← hwritten] at hstop
      exact hstop
    | cons q ps => exact ih (List.cons_eq_cons.1 h).2
  | case3 start d a href ih =>
    cases ps with
    | nil => cases (List.cons_eq_cons.1 h).1
    | cons q ps => exact ih (List.cons_eq_cons.1 h).2

/-! ### The code of a reference -/

theorem textParts_quote {c : Char} (hc : isQuote c = true) (cs : List Char) :
    textParts marked (c :: cs) = (c :: (splitLiteral c false cs).1).map .kept ++
      textParts marked (splitLiteral c false cs).2 := by
  rw [textParts, segments, if_pos hc]
  rfl

/-- A member of two lists one after the other is in the first one or in the second one. -/
theorem exists_of_append_eq_append_cons {α : Type} {as bs ps qs : List α} {r : α}
    (h : as ++ bs = ps ++ r :: qs) : (∃ qs', as = ps ++ r :: qs' ∧ qs = qs' ++ bs) ∨
      ∃ ps', ps = as ++ ps' ∧ bs = ps' ++ r :: qs := by
  rcases List.append_eq_append_iff.1 h with hsecond | ⟨cs, rfl, hcs⟩
  · exact .inr hsecond
  · rcases List.cons_eq_append_iff.1 hcs with ⟨rfl, hbs⟩ | ⟨qs', rfl, rfl⟩
    · exact .inr ⟨[], by simp, hbs⟩
    · exact .inl ⟨qs', rfl, rfl⟩

/-- The code in which a reference is found, what stands before that code, and what stands behind
it. -/
theorem exists_code_of_reference {t p n : List Char} {ps qs : List Part}
    (h : textParts marked t = ps ++ .reference p n :: qs) :
    ∃ x w y ps' qs', t = x ++ (w ++ y) ∧ IsComplete x ∧ quoteFree w = true ∧
      y.head?.all isQuote = true ∧ ps = textParts marked x ++ ps' ∧
      parts marked true w = ps' ++ .reference p n :: qs' ∧ qs = qs' ++ textParts marked y := by
  induction hn : t.length using Nat.strongRecOn generalizing t ps with
  | ind k ih =>
    subst hn
    obtain ⟨w, y, rfl, hw, hy⟩ := exists_code t
    rw [textParts_code_append marked hw hy] at h
    rcases exists_of_append_eq_append_cons h with ⟨qs', hparts, rfl⟩ | ⟨ps', rfl, hrest⟩
    · exact ⟨[], w, y, ps, qs', rfl, isComplete_nil, hw, hy, by simp, hparts, rfl⟩
    · cases y with
      | nil => simp at hrest
      | cons q y =>
        have hq : isQuote q = true := by simpa using hy
        rw [textParts_quote hq] at hrest
        rcases exists_of_append_eq_append_cons hrest with ⟨qs', hkept, -⟩ | ⟨ps'', rfl, hbehind⟩
        · have hmem : Part.reference p n ∈ (q :: (splitLiteral q false y).1).map .kept := by
            rw [hkept]
            simp
          simp at hmem
        · have hne : (splitLiteral q false y).2 ≠ [] := fun hnil => by simp [hnil] at hbehind
          have hclosed : IsClosed (q :: (splitLiteral q false y).1) :=
            ⟨q, _, hq, rfl, splitLiteral_closed hne⟩
          have hlength : (splitLiteral q false y).2.length < (w ++ q :: y).length := by
            have := length_splitLiteral_le q false y
            simp only [List.length_append, List.length_cons]
            omega
          obtain ⟨x, w', y', ps', qs', hsplit, hx, hw', hy', rfl, hparts, hqs⟩ :=
            ih _ hlength hbehind rfl
          refine ⟨w ++ ((q :: (splitLiteral q false y).1) ++ x), w', y', ps', qs', ?_,
            .literal hw hclosed hx, hw', hy', ?_, hparts, hqs⟩
          · have happend := splitLiteral_append q false y
            rw [hsplit] at happend
            simp only [List.append_assoc, List.cons_append, happend]
          · rw [textParts_code_append marked hw (by simpa using hq),
              textParts_closed_append marked hclosed]
            simp

theorem isWord_eq_false_of_textParts {t p n : List Char} {ps qs : List Part} {c : Char}
    (h : textParts marked t = ps ++ .reference p n :: .kept c :: qs) :
    Unicode.isWord c = false := by
  obtain ⟨x, w, y, ps', qs', rfl, -, -, hy, rfl, hparts, hqs⟩ := exists_code_of_reference h
  cases qs' with
  | cons q qs' =>
    obtain ⟨rfl, rfl⟩ := List.cons_eq_cons.1 hqs
    exact isWord_eq_false_of_parts hparts
  | nil =>
    cases y with
    | nil => simp at hqs
    | cons q y =>
      have hq : isQuote q = true := by simpa using hy
      rw [List.nil_append, textParts_quote hq] at hqs
      obtain rfl := Part.kept.inj (List.cons_eq_cons.1 hqs).1
      have hquotes : ['\'', '"'].all fun q => !Unicode.isWord q := by decide
      have hmem : c ∈ ['\'', '"'] := by simpa [isQuote] using hq
      simpa using List.all_eq_true.1 hquotes c hmem

/-! ### Filling -/

variable {value : List Char → List Char → Except EvalError (List Char)}
  (hvalue : ∀ p n x, value p n = .ok x → IsComplete x)

include hvalue

theorem isComplete_of_fill {ps : List Part} (hps : ∀ c, .kept c ∈ ps → isQuote c = false)
    {x : List Char} (h : Part.fill value ps = .ok x) : IsComplete x := by
  induction ps generalizing x with
  | nil => exact Except.ok.inj h ▸ isComplete_nil
  | cons q ps ih =>
    have hrest := fun c hc => hps c (List.mem_cons_of_mem q hc)
    cases q with
    | kept c =>
      obtain ⟨y, hy, rfl⟩ := Part.fill_kept_cons_eq_ok_iff.1 h
      have hc : quoteFree [c] = true := by
        rw [quoteFree_cons]
        exact ⟨hps c List.mem_cons_self, quoteFree_nil⟩
      exact .code_append hc (ih hrest hy)
    | reference p n =>
      have h : Part.fill value ([.reference p n] ++ ps) = .ok x := h
      obtain ⟨y, z, hy, hz, rfl⟩ := Part.fill_append_eq_ok_iff.1 h
      rw [Part.fill_reference] at hy
      exact (hvalue p n y hy).append (ih hrest hz)

/-- A pass over a complete text makes a complete text. -/
theorem isComplete_of_fill_textParts {x y : List Char} (hx : IsComplete x)
    (h : Part.fill value (textParts marked x) = .ok y) : IsComplete y := by
  induction hx generalizing y with
  | code hw =>
    rw [textParts_of_quoteFree marked hw] at h
    exact isComplete_of_fill hvalue (fun c => isQuote_eq_false_of_mem_parts hw) h
  | @literal w l x hw hl hx ih =>
    have hhead : (l ++ x).head?.all isQuote = true := by
      obtain ⟨q, body, hq, rfl, -⟩ := hl
      simpa using hq
    rw [textParts_code_append marked hw hhead, textParts_closed_append marked hl] at h
    obtain ⟨u, v, hu, hv, rfl⟩ := Part.fill_append_eq_ok_iff.1 h
    obtain ⟨l', z, hl', hz, rfl⟩ := Part.fill_append_eq_ok_iff.1 hv
    obtain rfl : l = l' := Except.ok.inj ((Part.fill_map_kept l).symm.trans hl')
    exact (isComplete_of_fill hvalue (fun c => isQuote_eq_false_of_mem_parts hw) hu).append
      (.closed_append hl (ih hz))

/-- What a pass makes of the text before a reference is complete. -/
theorem isComplete_of_fill_before {t p n x : List Char} {ps qs : List Part}
    (h : textParts marked t = ps ++ .reference p n :: qs) (hx : Part.fill value ps = .ok x) :
    IsComplete x := by
  obtain ⟨x, w, y, ps', qs', rfl, hcomplete, hw, -, rfl, hparts, -⟩ := exists_code_of_reference h
  obtain ⟨u, v, hu, hv, rfl⟩ := Part.fill_append_eq_ok_iff.1 hx
  have hkept (c : Char) (hc : .kept c ∈ ps') : isQuote c = false := by
    have hmem : .kept c ∈ parts marked true w := hparts ▸ List.mem_append_left _ hc
    exact isQuote_eq_false_of_mem_parts hw hmem
  exact (isComplete_of_fill_textParts hvalue hcomplete hu).append
    (isComplete_of_fill hvalue hkept hv)

end

end TripletFacts
