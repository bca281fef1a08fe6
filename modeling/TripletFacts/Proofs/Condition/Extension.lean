import TripletFacts.Proofs.Condition.LowerCalls
import TripletFacts.Proofs.Condition.Normalized
import TripletFacts.Proofs.Condition.Passes
import TripletFacts.Proofs.Condition.PresenceCalls

/-!
# Expressions as conditions

An expression that has a value can be read as a condition. Normalizing exchanges names in it that
are never looked at, its parentheses match, and it has no marks. What is left are calls that ask for
presence without a mark: they are replaced before the expression is parsed, wherever they stand.

## Main definitions

* `Scan.Walks`: the way of the automaton through segments with tokens.

## Main results

* `normalizeCode_of_tokens?`: what normalizing does to code that has tokens.
* `evaluate_normalizeCondition`: normalizing keeps the value of an expression.
* `Settings.evaluateCondition_eq_ok_iff`: when an expression has its value as a condition.
-/

namespace TripletFacts

open TripletFacts.Expr Regex

/-! ### Code -/

section

variable {code : List Char} {ts : List Token} {s s' : Scan}

/-- Code that has tokens has no signs that are replaced. -/
theorem normalizeCode_of_tokens? (hq : quoteFree code = true) (hts : tokens? code = some ts)
    (hs : s.run ts = some s') :
    normalizeCode code = lowerCalls (replaceConnectives code) ∧
      HasVaried (normalizeCode code) ts := by
  obtain ⟨hq', us, hus, hvaries⟩ := hasVaried_replaceConnectives hq hts
  have hspells := spells_of_tokens? hus
  have hrun : s.run us = some s' := by rw [Scan.run_of_varies hvaries, hs]
  have hunequal : replaceText "<>" "!=" (replaceConnectives code) = replaceConnectives code :=
    replaceFrom_unequal_of_spells hspells hq' hrun _
  have hpower : replaceText "^" "**" (replaceConnectives code) = replaceConnectives code :=
    replaceFrom_of_not_mem [] _ (hspells.not_mem hq' (by decide))
  have hcode : normalizeCode code = lowerCalls (replaceConnectives code) := by
    change lowerCalls (replaceText "^" "**" (doubleEquals none
      (replaceText "<>" "!=" (replaceConnectives code)))) = _
    rw [hunequal, doubleEquals_of_spells hspells hq', hpower]
  refine ⟨hcode, ?_⟩
  rw [hcode]
  exact HasVaried.trans ⟨us, hus, hvaries⟩ fun vs hvs =>
    ((spells_of_tokens? hvs).hasLowered hq').whole

/-- Normalized code has no marks. -/
theorem not_mem_mark_normalizeCode (hq : quoteFree code = true) (hts : tokens? code = some ts)
    (hs : s.run ts = some s') : '$' ∉ normalizeCode code := by
  obtain ⟨-, us, hus, -⟩ := normalizeCode_of_tokens? hq hts hs
  exact (spells_of_tokens? hus).not_mem (quoteFree_normalizeCode hq) (by decide)

theorem hasBareReference_spaced {word : String} (hword : '.' ∉ word.toList) (a b : List Char) :
    HasBareReference (a ++ (spaced word ++ b)) ↔ HasBareReference a ∨ HasBareReference b := by
  have hnone : ¬HasBareReference word.toList := fun h => hword h.mem_point
  rw [spaced, List.cons_append, hasBareReference_append_blank, List.append_assoc,
    List.singleton_append, hasBareReference_append_blank]
  simp [hnone]

/-- Replacing words between blanks does not bring references. -/
theorem Replaced.hasBareReference_iff {p : String × String} (hp : p ∈ connectiveWords)
    {t t' : List Char} (h : Replaced (spaced p.1) (spaced p.2) t t') :
    HasBareReference t' ↔ HasBareReference t := by
  have hwords : ∀ p ∈ connectiveWords, '.' ∉ p.1.toList ∧ '.' ∉ p.2.toList := by decide
  obtain ⟨hold, hnew⟩ := hwords p hp
  induction h with
  | same => exact Iff.rfl
  | step a h ih =>
    rw [hasBareReference_spaced hold, hasBareReference_spaced hnew]
    exact or_congr Iff.rfl ih

/-- Normalizing code that has tokens does not bring references. -/
theorem not_hasBareReference_normalizeCode (hq : quoteFree code = true)
    (hts : tokens? code = some ts) (hs : s.run ts = some s') (hcode : ¬HasBareReference code) :
    ¬HasBareReference (normalizeCode code) := by
  rw [(normalizeCode_of_tokens? hq hts hs).1, ← hasBareReference_map_asciiLower,
    map_asciiLower_lowerCalls, hasBareReference_map_asciiLower]
  exact replaceConnectives_induction (P := fun t => ¬HasBareReference t)
    (fun p hp t t' h ht => (h.hasBareReference_iff hp).not.2 ht) hcode

end

/-! ### Segments -/

/-- A literal is one token. -/
theorem exists_str_of_tokens? {c : Char} (hc : isQuote c = true) {cs : List Char} {ts : List Token}
    (h : tokens? (c :: (splitLiteral c false cs).1) = some ts) : ∃ u, ts = [.str u] := by
  rw [tokens?_cons (isBlank_eq_false_of_isQuote hc), Token.read?_quote hc] at h
  cases hread : Token.readString 0 c cs with
  | error e =>
    rw [splitLiteral_of_readString_eq_none (by rw [hread]; rfl), hread] at h
    cases h
  | ok r =>
    obtain ⟨u, n⟩ := r
    obtain ⟨hsplit, hagain⟩ := splitLiteral_of_readString hread
    have hagain := hagain []
    rw [List.append_nil] at hagain
    rw [hsplit, hagain] at h
    have hdrop : (cs.take n).drop n = [] := List.drop_eq_nil_of_le (List.length_take_le n cs)
    simp only [Except.toOption, Option.map_some, Option.bind_some, hdrop, tokens?_nil,
      Option.some.injEq] at h
    exact ⟨_, h.symm⟩

/-- The automaton goes from one state to another one over the tokens of segments. -/
inductive Scan.Walks : Scan → List Segment → List Token → Scan → Prop
  | nil (s : Scan) : Walks s [] [] s
  | code {s s₁ s' : Scan} {a : List Char} {ts us : List Token} {ss : List Segment}
      (hq : quoteFree a = true) (hts : tokens? a = some ts) (hs : s.run ts = some s₁)
      (h : Walks s₁ ss us s') : Walks s (⟨true, a⟩ :: ss) (ts ++ us) s'
  | literal {s s' : Scan} {t : List Char} {u : String} {us : List Token} {ss : List Segment}
      (ht : tokens? t = some [.str u]) (h : Walks ⟨s.depth, false⟩ ss us s') :
      Walks s (⟨false, t⟩ :: ss) (.str u :: us) s'

/-- The automaton goes over the segments of a text as it goes over the tokens of the text. -/
theorem Scan.walks_segments {text : List Char} {ts : List Token} {s s' : Scan}
    (hts : tokens? text = some ts) (hs : s.run ts = some s') : s.Walks (segments text) ts s' := by
  fun_induction segments text generalizing ts s with
  | case1 =>
    rw [tokens?_nil] at hts
    obtain rfl := Option.some.inj hts
    obtain rfl := Option.some.inj hs
    exact .nil s
  | case2 c cs hc ih =>
    rw [tokens?_literal hc, Option.bind_eq_some_iff] at hts
    obtain ⟨us, hus, hrest⟩ := hts
    obtain ⟨vs, hvs, rfl⟩ := Option.map_eq_some_iff.1 hrest
    obtain ⟨u, rfl⟩ := exists_str_of_tokens? hc hus
    exact .literal hus (ih hvs hs)
  | case3 c cs hc ih =>
    rw [tokens?_code hc, Option.bind_eq_some_iff] at hts
    obtain ⟨us, hus, hrest⟩ := hts
    obtain ⟨vs, hvs, rfl⟩ := Option.map_eq_some_iff.1 hrest
    rw [Scan.run_append, Option.bind_eq_some_iff] at hs
    obtain ⟨s₁, hs₁, hs'⟩ := hs
    exact .code (quoteFree_cons_takeWhile hc cs) hus hs₁ (ih hvs hs')

namespace Scan.Walks

variable {s s' : Scan} {ss : List Segment} {ts : List Token}

/-- Between its ends the automaton goes over every stretch of code. -/
theorem exists_run (h : s.Walks ss ts s') {seg : Segment} (hseg : seg ∈ ss)
    (hcode : seg.isCode = true) : quoteFree seg.text = true ∧
      ∃ (us : List Token) (s₁ s₂ : Scan), tokens? seg.text = some us ∧ s₁.run us = some s₂ := by
  induction h with
  | nil => cases hseg
  | code hq hts hs _ ih =>
    rcases List.mem_cons.1 hseg with rfl | hseg
    · exact ⟨hq, _, _, _, hts, hs⟩
    · exact ih hseg
  | literal _ _ ih =>
    rcases List.mem_cons.1 hseg with rfl | hseg
    · cases hcode
    · exact ih hseg

/-- The depth of parentheses in code is the depth of the automaton. -/
theorem openAfter (h : s.Walks ss ts s') :
    openAfter s.depth ((ss.filter Segment.isCode).flatMap Segment.text) = some s'.depth := by
  induction h with
  | nil => rfl
  | code hq hts hs _ ih =>
    rw [List.filter_cons_of_pos rfl, List.flatMap_cons,
      openAfter_of_spells (spells_of_tokens? hts) hq hs, ih]
  | literal _ _ ih => exact ih

/-- The tokens of normalized segments. -/
theorem exists_varied_tokens (h : s.Walks ss ts s') :
    ∃ tss, (ss.map Segment.normalize).mapM (fun seg => tokens? seg.text) = some tss ∧
      List.Forall₂ (Token.Varies .unknown) ts tss.flatten := by
  induction h with
  | nil => exact ⟨[], rfl, .nil⟩
  | @code s s₁ s' a ts us ss hq hts hs _ ih =>
    obtain ⟨tss, htss, hvaries⟩ := ih
    obtain ⟨-, ts', hts', hcode⟩ := normalizeCode_of_tokens? hq hts hs
    refine ⟨ts' :: tss, ?_, List.rel_append hcode hvaries⟩
    rw [List.map_cons, Segment.normalize, if_pos rfl, List.mapM_cons, hts', htss]
    rfl
  | @literal s s' t u us ss ht _ ih =>
    obtain ⟨tss, htss, hvaries⟩ := ih
    refine ⟨[.str u] :: tss, ?_, .cons (.same _) hvaries⟩
    rw [List.map_cons, Segment.normalize, if_neg Bool.false_ne_true, List.mapM_cons, ht, htss]
    rfl

end Scan.Walks

/-! ### Values -/

/-- The automaton goes over an expression. -/
theorem walks_of_parse {t : List Char} {e : Expr} (h : parse t = .ok e) :
    ∃ ts, tokens? t = some ts ∧ Scan.Walks ⟨0, false⟩ (segments t) ts ⟨0, false⟩ := by
  obtain ⟨ts, hts, -, -, hderives⟩ := parse_eq_ok_iff_tokens?.1 h
  exact ⟨ts, hts, Scan.walks_segments hts (hderives.scan _)⟩

theorem allBlank_of_parse {t : List Char} {e : Expr} (h : parse t = .ok e) :
    Unicode.allBlank t = false := by
  cases hblank : Unicode.allBlank t with
  | false => rfl
  | true => simp [parse, hblank] at h

/-- Normalizing keeps the value of an expression. -/
theorem evaluate_normalizeCondition {t : List Char} {v : Value} (h : evaluate t = .ok v) :
    evaluate (Settings.normalizeCondition t) = .ok v := by
  obtain ⟨e, he, hv⟩ := evaluate_eq_ok_iff.1 h
  obtain ⟨ts, hts, hwalks⟩ := walks_of_parse he
  obtain ⟨tss, htss, hvaries⟩ := hwalks.exists_varied_tokens
  have hts' : tokens? (Settings.normalizeCondition t) = some tss.flatten := by
    rw [tokens?_eq_segments, segments_normalizeCondition, htss]
    rfl
  obtain ⟨e', he', hvaries'⟩ := exists_parse_of_varies hts hts' hvaries he
  rw [evaluate, he']
  exact eval_of_varies e hvaries' hv

/-- The parentheses of an expression match. -/
theorem balanced_of_parse {t : List Char} {e : Expr} (h : parse t = .ok e) : balanced t = true := by
  obtain ⟨ts, -, hwalks⟩ := walks_of_parse h
  rw [balanced, codeOf, hwalks.openAfter]
  rfl

/-! ### Conditions -/

namespace Settings

section

variable {facts db : Facts} {t : List Char}

/-- Where nothing is asked for and there are no references, a text is kept. -/
theorem substitute_eq_self
    (hmark : ∀ seg ∈ segments t, seg.isCode = true → '$' ∉ seg.text)
    (hbare : ∀ seg ∈ segments t, seg.isCode = true → ¬HasBareReference seg.text)
    (h : db.isEmpty = true ∨ ∀ seg ∈ segments t, seg.isCode = true → AsksNothing seg.text) :
    standard.substitute facts db t = .ok t := by
  rw [substitute_eq_bind, mapCode_eq_self fun seg hseg hcode =>
    resolvePresence_eq_self (hmark seg hseg hcode) (h.imp id fun h => h seg hseg hcode)]
  have hmarked : mapCode (standard.substituteMarked facts) t = .ok t :=
    mapCode_eq_self fun seg hseg hcode => replaceM_of_find?_eq_none
      (find?_eq_none_of_not_mem_mark (hmark seg hseg hcode) .reference (by simp))
  change (mapCode (standard.substituteMarked facts) t).bind _ = _
  rw [hmarked]
  exact mapCode_eq_self fun seg hseg hcode => replaceM_of_find?_eq_none
    (find?_bareReference_eq_none_iff.2 (hbare seg hseg hcode))

/-- A condition whose parentheses match becomes what the passes make of it. -/
theorem evaluateCondition_eq_bind (hblank : Unicode.allBlank t = false)
    (hbalanced : balanced t = true) :
    standard.evaluateCondition t (.given facts) (.given db) =
      (standard.substitute facts db (normalizeCondition t)).bind evaluate := by
  have htext : standard.expressionText t (.given facts) (.given db) =
      standard.substitute facts db (normalizeCondition t) := by
    simp [expressionText, hblank, hbalanced, FactSource.isBlank, sourceFacts, FactSource.facts]
  rw [evaluateCondition, htext]
  cases standard.substitute facts db (normalizeCondition t) <;> rfl

/-- A condition has a value if its parentheses match, and what the passes make of it has that
value. -/
theorem evaluateCondition_eq_ok_iff_substitute {v : Value} :
    standard.evaluateCondition t (.given facts) (.given db) = .ok v ↔
      Unicode.allBlank t = false ∧ balanced t = true ∧
        ∃ u, standard.substitute facts db (normalizeCondition t) = .ok u ∧ evaluate u = .ok v := by
  cases hblank : Unicode.allBlank t with
  | true => simp [evaluateCondition, expressionText, hblank]
  | false =>
    cases hbalanced : balanced t with
    | false =>
      simp [evaluateCondition, expressionText, hblank, hbalanced, FactSource.isBlank]
    | true =>
      rw [evaluateCondition_eq_bind hblank hbalanced, bind_eq_ok_iff]
      simp

/-- Code of a normalized expression has no marks, and it has no references if the code of the
expression has none. -/
theorem of_mem_segments_normalizeCondition {e : Expr} (he : parse t = .ok e)
    (hbare : ∀ seg ∈ segments t, seg.isCode = true →
      (standard.regex .bareReference).find? seg.text = none)
    (seg : Segment) (hseg : seg ∈ segments (normalizeCondition t)) (hcode : seg.isCode = true) :
    '$' ∉ seg.text ∧ ¬HasBareReference seg.text := by
  obtain ⟨ts, -, hwalks⟩ := walks_of_parse he
  rw [segments_normalizeCondition, List.mem_map] at hseg
  obtain ⟨⟨isCode, a⟩, ha, rfl⟩ := hseg
  cases isCode with
  | false => cases hcode
  | true =>
    obtain ⟨hq, us, s₁, s₂, hus, hs⟩ := hwalks.exists_run ha rfl
    have hnone := find?_bareReference_eq_none_iff.1 (hbare _ ha rfl)
    exact ⟨not_mem_mark_normalizeCode hq hus hs,
      not_hasBareReference_normalizeCode hq hus hs hnone⟩

/-- **Expressions are conditions, up to calls that ask for presence.** An expression without
references keeps its value as a condition exactly if there are no second facts, or if no call in it
asks for presence without a mark. Such a call asks for a numeral as in `present(1.5)`, and fails
where it stands, even if the expression does not need its value. -/
theorem evaluateCondition_eq_ok_iff {v : Value} (hsettings : db.settings = .standard)
    (h : evaluate t = .ok v)
    (hbare : ∀ seg ∈ segments t, seg.isCode = true →
      (standard.regex .bareReference).find? seg.text = none) :
    standard.evaluateCondition t (.given facts) (.given db) = .ok v ↔
      db.isEmpty = true ∨ ∀ seg ∈ segments (normalizeCondition t), seg.isCode = true →
        (standard.regex .presentBare).find? seg.text = none ∧
          (standard.regex .absentBare).find? seg.text = none := by
  obtain ⟨e, he, -⟩ := evaluate_eq_ok_iff.1 h
  have hkept := fun seg hseg hcode =>
    of_mem_segments_normalizeCondition he hbare seg hseg hcode
  rw [evaluateCondition_eq_bind (allBlank_of_parse he) (balanced_of_parse he)]
  constructor
  · intro hok
    cases hdb : db.isEmpty with
    | true => exact .inl rfl
    | false =>
      refine .inr fun seg hseg hcode => ?_
      obtain ⟨hmark, hnone⟩ := hkept seg hseg hcode
      rw [substitute_eq_bind] at hok
      cases hpass : mapCode (standard.resolvePresence facts db) (normalizeCondition t) with
      | error e =>
        rw [hpass] at hok
        cases hok
      | ok u =>
        obtain ⟨x, hx⟩ := exists_of_mapCode hpass hseg hcode
        exact asksNothing_of_resolvePresence hsettings hmark hnone hdb hx
  · intro hasks
    rw [substitute_eq_self (fun seg hseg hcode => (hkept seg hseg hcode).1)
      (fun seg hseg hcode => (hkept seg hseg hcode).2) hasks]
    exact evaluate_normalizeCondition h

end

/-- The collection of one fact that is a number. -/
def oneNumber : Facts := (Facts.empty .standard).add {
  pfx := "A", name := some "B", comment := none, bid := false, special := false,
  settings := .standard, value := some (.literal (.int 1)) }

/-- A call that is not needed may have any name, and text that looks like a reference may stand in a
literal. -/
theorem evaluateCondition_not_needed :
    evaluate "max(1, 2) > 1.5 or MAX('$A.B')".toList = .ok (.bool true) ∧
      standard.evaluateCondition "max(1, 2) > 1.5 or MAX('$A.B')".toList (.given (.empty .standard))
        (.given oneNumber) = .ok (.bool true) := by
  have h : evaluate "max(1, 2) > 1.5 or MAX('$A.B')".toList = .ok (.bool true) := by
    decide +kernel
  refine ⟨h, (evaluateCondition_eq_ok_iff rfl h (by decide +kernel)).2 (.inr ?_)⟩
  decide +kernel

/-- A call that is not needed and asks for a numeral makes a condition of an expression fail. -/
theorem evaluateCondition_present_numeral :
    evaluate "True or present(1.5)".toList = .ok (.bool true) ∧
      (∀ seg ∈ segments "True or present(1.5)".toList, seg.isCode = true →
        (standard.regex .bareReference).find? seg.text = none) ∧
      standard.evaluateCondition "True or present(1.5)".toList (.given (.empty .standard))
        (.given oneNumber) ≠ .ok (.bool true) := by
  decide +kernel

end Settings

end TripletFacts
