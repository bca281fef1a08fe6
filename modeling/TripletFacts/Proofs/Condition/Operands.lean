import TripletFacts.Proofs.Condition.Filling

/-!
# Operands are kept

What a pass over references puts into code is the operand of a value. An operand has no mark, and no
reference is in it: the only letters of a numeral are those of its exponent, where no point follows.
So a later pass keeps an operand.

## Main results

* `parts_bare_eq_map_kept`, `parts_marked_eq_map_kept`: code without references is kept.
* `Value.not_hasBareReference_operandText`: no reference is in an operand.
* `Value.textParts_operandText`: an operand is kept.
* `exists_operandText_of_operandOf`: what stands for a reference is an operand.
-/

namespace TripletFacts

/-! ### Code without references -/

/-- Code without marks is kept. -/
theorem parts_marked_eq_map_kept {a : List Char} (ha : '$' ∉ a) (start : Bool) :
    parts true start a = a.map .kept := by
  induction a generalizing start with
  | nil => exact parts_nil
  | cons c a ih =>
    simp only [List.mem_cons, not_or] at ha
    rw [parts_cons_of_none (referenceAt?_cons_of_ne (Ne.symm ha.1)), ih ha.2, List.map_cons]

/-- Code behind `b` is kept if no reference without a mark is in it. -/
theorem parts_bare_eq_map_kept {b a : List Char} (h : ¬HasBareReference (b ++ a)) {start : Bool}
    (hstart : start = true → ∀ x ∈ b.getLast?, isBoundary x = true) :
    parts false start a = a.map .kept := by
  generalize hmarked : false = marked
  fun_induction parts marked start a generalizing b with
  | case1 start => rfl
  | case2 start c a p n r href ih =>
    subst hmarked
    obtain ⟨heq, hpair⟩ := eq_of_referenceAt? href
    rw [referenceAt?_bare] at href
    split at href
    · rename_i hcond
      obtain ⟨hstart', hletter⟩ := Bool.and_eq_true_iff.1 hcond
      obtain ⟨l, w, rfl⟩ := List.exists_cons_of_ne_nil hpair.pfx_ne
      obtain ⟨d, n, rfl⟩ := List.exists_cons_of_ne_nil hpair.name_ne
      rw [heq] at hletter h
      refine absurd ⟨b, l, w, d, n ++ r, by simp [markText], hstart hstart', ?_, ?_, ?_⟩ h
      · simpa [markText] using hletter
      · exact fun x hx => hpair.pfx x (List.mem_cons_of_mem l hx)
      · exact hpair.name d List.mem_cons_self
    · cases href
  | case3 start c a href ih =>
    subst hmarked
    have happend : b ++ c :: a = (b ++ [c]) ++ a := by simp
    rw [happend] at h
    refine congrArg (Part.kept c :: ·) (ih h fun hc x hx => ?_)
    obtain rfl : c = x := by simpa using hx
    exact hc

/-! ### Operands -/

/-- Where letters come behind the last point there is no reference. -/
theorem not_hasBareReference_append {u v : List Char} (hu : ∀ c ∈ u, isLetter c = false)
    (hv : '.' ∉ v) : ¬HasBareReference (u ++ v) := by
  rintro ⟨p, l, w, d, r, heq, href⟩
  rcases List.append_eq_append_iff.1 heq with ⟨z, rfl, rfl⟩ | ⟨z, rfl, hz⟩
  · exact hv (by simp)
  · cases z with
    | nil =>
      obtain rfl : v = l :: (w ++ '.' :: d :: r) := hz.symm
      exact hv (by simp)
    | cons c z =>
      obtain ⟨rfl, -⟩ := List.cons_eq_cons.1 hz
      have hletter := href.letter
      rw [hu l (by simp)] at hletter
      cases hletter

theorem isLetter_of_isDigit {c : Char} (hc : isDigit c = true) : isLetter c = false :=
  of_isDigit (P := fun c => isLetter c = false) (by decide) hc

theorem isLetter_of_mem_sign {p : Prop} [Decidable p] {c : Char}
    (hc : c ∈ if p then ['-'] else []) : isLetter c = false := by
  split at hc
  · obtain rfl := List.mem_singleton.1 hc
    decide
  · cases hc

namespace Layout

/-- The letters of a magnitude come behind its point. -/
theorem exists_split_writeMagnitude (L : Layout) (x : Float) :
    ∃ u v, L.writeMagnitude x = u ++ v ∧ (∀ c ∈ u, isLetter c = false) ∧ '.' ∉ v := by
  have hall : ∀ {u : List Char}, (u.all fun c => isDigit c || c == '.') = true →
      ∀ c ∈ u, isLetter c = false := by
    intro u hu c hc
    rcases Bool.or_eq_true_iff.1 (List.all_eq_true.1 hu c hc) with h | h
    · exact isLetter_of_isDigit h
    · obtain rfl := eq_of_beq h
      decide
  have hdigits : ∀ n : Nat, (Nat.toDigits 10 n).all (fun c => isDigit c || c == '.') = true :=
    fun n => List.all_eq_true.2 fun c hc => by
      simp [List.all_eq_true.1 (all_isDigit_toDigits n) c hc]
  have hexponent : ∀ x : Int, '.' ∉ 'e' :: L.exponent x := by
    intro x hmem
    have hpoint : ∀ n : Nat, '.' ∉ Nat.toDigits 10 n := fun n hn =>
      absurd (List.all_eq_true.1 (all_isDigit_toDigits n) _ hn) (by decide)
    unfold exponent at hmem
    split at hmem
    · simp [hpoint] at hmem
    · split at hmem <;> simp [hpoint] at hmem
  unfold writeMagnitude
  split
  · exact ⟨_, [], (List.append_nil _).symm, hall (by split <;> decide), by simp⟩
  · unfold writeDecimal
    dsimp only
    split
    · exact ⟨_, [], (List.append_nil _).symm,
        hall (L.all_around (by decide) (by decide) (hdigits _) _), by simp⟩
    · have hds := hdigits (Decimal.shortest L.tie x).digits
      unfold scientific
      split
      · exact ⟨[], [], rfl, by simp, by simp⟩
      · rename_i d hd
        exact ⟨[d], _, rfl, hall (hd ▸ hds), hexponent _⟩
      · rename_i d ds hne hd
        refine ⟨d :: '.' :: ds, 'e' :: L.exponent _, rfl, hall ?_, hexponent _⟩
        rw [hd] at hds
        simpa using hds

end Layout

namespace Value

variable {v : Value}

/-- No reference is in an operand. -/
theorem not_hasBareReference_operandText (h : ∀ s, v ≠ .str s) :
    ¬HasBareReference v.operandText := by
  obtain ⟨u, w, hliteral, hu, hw⟩ : ∃ u w, v.literal = u ++ w ∧ (∀ c ∈ u, isLetter c = false) ∧
      '.' ∉ w := by
    cases v with
    | bool b => exact ⟨[], _, rfl, by simp, by cases b <;> decide⟩
    | int i =>
      refine ⟨integerText i, [], (List.append_nil _).symm, fun c hc => ?_, by simp⟩
      rw [integerText, List.mem_append] at hc
      rcases hc with hc | hc
      · exact isLetter_of_mem_sign hc
      · exact isLetter_of_isDigit (List.all_eq_true.1 (all_isDigit_toDigits _) c hc)
    | float x =>
      rw [literal, literalText, Layout.write]
      split
      · exact ⟨[], _, rfl, by simp, by decide⟩
      · have hsign : ∀ c ∈ (if Binary64.isNegative x then ['-'] else []), isLetter c = false :=
          fun c hc => isLetter_of_mem_sign hc
        generalize (if Binary64.isNegative x then ['-'] else []) = sign at hsign
        by_cases hinf : x.isInf = true
        · exact ⟨sign, ['i', 'n', 'f'], by rw [if_pos hinf], hsign, by decide⟩
        · obtain ⟨u, w, hmagnitude, hu, hw⟩ := Layout.literal.exists_split_writeMagnitude x
          refine ⟨sign ++ u, w, ?_, fun c hc => (List.mem_append.1 hc).elim (hsign c) (hu c), hw⟩
          rw [if_neg hinf, hmagnitude, List.append_assoc]
    | str s => exact absurd rfl (h s)
  rcases operandText_eq v with hv | hv
  · rw [hv, hliteral]
    exact not_hasBareReference_append hu hw
  · have hopen : ∀ c ∈ '(' :: u, isLetter c = false := by
      rintro c (_ | ⟨_, hc⟩)
      · decide
      · exact hu c hc
    rw [hv, hliteral, List.append_assoc, ← List.cons_append]
    exact not_hasBareReference_append hopen (by simpa using hw)

theorem not_mem_mark_operandText (h : ∀ s, v ≠ .str s) : '$' ∉ v.operandText := by
  have hnumeral : ∀ c, isNumeralChar c = true → (c != '$') = true := by
    intro c hc
    by_cases hmark : c = '$'
    · rw [hmark] at hc
      cases hc
    · simpa using hmark
  have hliteral : '$' ∉ v.literal := fun hmem =>
    absurd (List.all_eq_true.1 (v.all_literal h (by decide) hnumeral) '$' hmem) (by decide)
  rcases operandText_eq v with hv | hv
  · rwa [hv]
  · rw [hv]
    simpa using hliteral

/-- An operand is code, or a literal that is closed. -/
theorem quoteFree_or_isClosed_operandText (v : Value) :
    quoteFree v.operandText = true ∨ IsClosed v.operandText := by
  cases v with
  | str s => exact .inr (isClosed_literal s)
  | bool b | int i | float x => exact .inl (quoteFree_operandText (by simp))

/-- An operand is kept. -/
theorem textParts_operandText (v : Value) :
    textParts false v.operandText = v.operandText.map .kept := by
  by_cases h : ∃ s, v = .str s
  · obtain ⟨s, rfl⟩ := h
    have hself := textParts_closed_append false (isClosed_literal s) []
    rwa [List.append_nil, textParts_nil, List.append_nil] at hself
  · have h : ∀ s, v ≠ .str s := fun s hs => h ⟨s, hs⟩
    rw [textParts_of_quoteFree false (quoteFree_operandText h)]
    exact parts_bare_eq_map_kept (b := []) (not_hasBareReference_operandText h) (by simp)

end Value

/-- What stands for a reference is the operand of a value. -/
theorem exists_operandText_of_operandOf {f : Facts} {p n written x : List Char}
    (h : f.operandOf p n written = .ok x) : ∃ v : Value, x = v.operandText := by
  unfold Facts.operandOf at h
  split at h
  · cases h
  · cases h
  · split at h
    · cases h
    · split at h
      · rename_i v _
        exact ⟨v, (Except.ok.inj h).symm⟩
      · cases h

end TripletFacts
