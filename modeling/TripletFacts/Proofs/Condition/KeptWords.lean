import TripletFacts.Proofs.Condition.Operands
import TripletFacts.Proofs.Condition.Phrases
import TripletFacts.Proofs.Expr.Operand

/-!
# Words that the passes keep

The signs of the expression language, the words of its grammar, the literals of values and
references are words. No pass over a condition changes a sign, a word or a literal that has no sign,
and a reference stands for the operand of the fact that it points at, and for nothing more.

## Main definitions

* `IsSymbol`, `IsSpacedText`: the signs and words between operands, and texts made of them.
* `IsKeptWord`: words that all passes keep.
* `IsPlainPair`: two words that are a reference, with a mark and without one.

## Main results

* `IsSymbol.isKeptWord`, `isKeptWord_literal`: signs, words and literals are kept.
* `substituteReferences_spacedText`: text between operands is kept.
* `substituteReferences_writtenReference`: a reference stands for its operand.
-/

namespace TripletFacts

open Settings

/-! ### Signs and words -/

/-- The signs of the expression language and the words of its grammar. -/
def grammarSymbols : List String :=
  ["+", "-", "*", "/", "%", "**", "==", "!=", "<", "<=", ">", ">=", "(", ")", ",", "and", "or",
    "not"]

/-- Signs, words of the grammar, and names of functions. -/
def IsSymbol (w : List Char) : Prop :=
  (∃ s ∈ grammarSymbols, w = s.toList) ∨ isAllowedFunction (String.ofList w) = true

/-- A text of signs and words with one or more blanks before, between and behind them. -/
def IsSpacedText (t : List Char) : Prop :=
  ∃ ws : List (List Char), t = ws.flatMap (' ' :: ·) ++ [' '] ∧ ∀ w ∈ ws, w = [] ∨ IsSymbol w

theorem isSpacedText_of_symbols {t : List Char} (ws : List String)
    (ht : t = (ws.map String.toList).flatMap (' ' :: ·) ++ [' '])
    (hws : ∀ w ∈ ws, w ∈ grammarSymbols ∨ isAllowedFunction w = true) : IsSpacedText t := by
  refine ⟨ws.map String.toList, ht, fun w hw => ?_⟩
  obtain ⟨s, hs, rfl⟩ := List.mem_map.1 hw
  rcases hws s hs with hsymbol | hfunction
  · exact .inr (.inl ⟨s, hsymbol, rfl⟩)
  · exact .inr (.inr (by rwa [String.ofList_toList]))

/-- What the passes over a condition have to know of a word that they keep. -/
structure IsKeptWord (w : List Char) : Prop where
  normal : IsNormalWord w
  mark : '$' ∉ w
  bare : ¬HasBareReference w

theorem IsSymbol.isKeptWord {w : List Char} (hw : IsSymbol w) : IsKeptWord w := by
  obtain ⟨s, hs, rfl⟩ : ∃ s ∈ grammarSymbols ++ Function.all.map Function.name, w = s.toList := by
    rcases hw with ⟨s, hs, rfl⟩ | hw
    · exact ⟨s, List.mem_append_left _ hs, rfl⟩
    · obtain ⟨f, hf⟩ := Option.isSome_iff_exists.1 hw
      refine ⟨f.name, List.mem_append_right _ (List.mem_map_of_mem f.mem_all), ?_⟩
      rw [name_of_ofName? hf, String.toList_ofList]
  have hcode : ∀ s ∈ grammarSymbols ++ Function.all.map Function.name,
      s.toList.any Unicode.isBlank = false ∧ quoteFree s.toList = true ∧
        '^' ∉ s.toList ∧ '$' ∉ s.toList ∧ '.' ∉ s.toList := by decide
  have hconnective : ∀ s ∈ grammarSymbols ++ Function.all.map Function.name,
      ∀ p ∈ connectiveWords, s.toList ≠ p.1.toList := by decide
  have hsigns : ∀ s ∈ grammarSymbols ++ Function.all.map Function.name,
      ('<' ∈ s.toList → s.toList = ['<'] ∨ s.toList = ['<', '=']) ∧
      ('=' ∈ s.toList → s.toList ∈ ['=', '!', '<', '>'].map ([·, '='])) ∧
      ('(' ∈ s.toList → s.toList = ['(']) := by decide
  obtain ⟨hblank, hquote, hcaret, hmark, hpoint⟩ := hcode s hs
  obtain ⟨hless, hequals, hparen⟩ := hsigns s hs
  refine ⟨⟨fun c hc => ?_, hquote, hconnective s hs, hcaret, hless, fun h => ?_, hparen⟩, hmark,
    fun h => hpoint h.mem_point⟩
  · exact Bool.eq_false_iff.2 (List.any_eq_false.1 hblank c hc)
  · obtain ⟨o, ho, heq⟩ := List.mem_map.1 (hequals h)
    exact ⟨o, ho, heq.symm⟩

/-! ### Words of operands -/

/-- The characters of numerals, names and references. -/
def isOperandChar (c : Char) : Bool := Unicode.isWord c || ['.', '+', '-', '$'].contains c

/-- A word of such characters has none that matters to other passes. -/
theorem not_mem_of_all_isOperandChar {w : List Char} (hw : w.all isOperandChar = true) {c : Char}
    (hc : c ∈ ['^', '<', '=', '(', ')', '\'', '"']) : c ∉ w := by
  have hall : ['^', '<', '=', '(', ')', '\'', '"'].any isOperandChar = false := by decide
  exact fun hmem => List.any_eq_false.1 hall c hc (List.all_eq_true.1 hw c hmem)

theorem isBlank_of_isOperandChar {c : Char} (hc : isOperandChar c = true) :
    Unicode.isBlank c = false := by
  cases hblank : Unicode.isBlank c with
  | false => rfl
  | true =>
    have hword := (isForeign_of_isBoundary (isBoundary_of_isBlank hblank) true).word
    have hsign : c ∈ ['.', '+', '-', '$'] := by
      rw [isOperandChar, hword, Bool.false_or] at hc
      exact List.contains_iff_mem.1 hc
    have hall : ['.', '+', '-', '$'].any Unicode.isBlank = false := by decide
    exact absurd hblank (List.any_eq_false.1 hall c hsign)

theorem isNormalWord_of_all_isOperandChar {w : List Char} (hw : w.all isOperandChar = true)
    (hconnective : ∀ p ∈ connectiveWords, w ≠ p.1.toList) : IsNormalWord w where
  blank c hc := isBlank_of_isOperandChar (List.all_eq_true.1 hw c hc)
  quoteFree := quoteFree_of_not_mem (not_mem_of_all_isOperandChar hw (by simp))
    (not_mem_of_all_isOperandChar hw (by simp))
  connective := hconnective
  caret := not_mem_of_all_isOperandChar hw (by simp)
  less h := absurd h (not_mem_of_all_isOperandChar hw (by simp))
  equals h := absurd h (not_mem_of_all_isOperandChar hw (by simp))
  paren h := absurd h (not_mem_of_all_isOperandChar hw (by simp))

theorem isOperandChar_of_isNumeralChar {c : Char} (hc : isNumeralChar c = true) :
    isOperandChar c = true := by
  rcases Bool.or_eq_true_iff.1 hc with hdigit | hsign
  · exact of_isDigit (P := fun c => isOperandChar c = true) (by decide) hdigit
  · have hall : ['.', 'e', '+', '-'].all isOperandChar = true := by decide
    exact List.all_eq_true.1 hall c (List.contains_iff_mem.1 hsign)

theorem all_isOperandChar_literal {v : Value} (hstr : ∀ s, v ≠ .str s) :
    v.literal.all isOperandChar = true :=
  v.all_literal hstr (by decide) fun _ => isOperandChar_of_isNumeralChar

/-- The literal of a value that is no text and has no sign is a word that is kept. -/
theorem isKeptWord_literal {v : Value} (hstr : ∀ s, v ≠ .str s)
    (hsign : v.literal.head? ≠ some '-') : IsKeptWord v.literal := by
  have hoperand := Value.operandText_of_head? hsign
  refine ⟨isNormalWord_of_all_isOperandChar (all_isOperandChar_literal hstr) ?_,
    hoperand ▸ Value.not_mem_mark_operandText hstr,
    hoperand ▸ Value.not_hasBareReference_operandText hstr⟩
  rintro p hp heq
  have hall : ∀ p ∈ connectiveWords,
      p.1.toList ∉ literalWords ∧ p.1.toList.all isNumeralChar = false := by decide
  rcases v.literal_cases hstr with hword | hnumeral
  · exact (hall p hp).1 (heq ▸ hword)
  · simp [heq, (hall p hp).2] at hnumeral

/-! ### Words that are kept -/

theorem isKeptWord_nil : IsKeptWord [] :=
  ⟨isNormalWord_of_all_isOperandChar rfl (by decide), by simp, fun h => by simpa using h.mem_point⟩

/-- Without marks and references nothing is replaced. -/
theorem substituteReferences_eq_self {t : List Char} (hq : quoteFree t = true) (hmark : '$' ∉ t)
    (hbare : ¬HasBareReference t) (facts db : Facts) : substituteReferences facts db t = .ok t := by
  have hmarked : mapCode (standard.substituteMarked facts) t = .ok t := by
    rw [mapCode_substituteMarked, textParts_of_quoteFree true hq, parts_marked_eq_map_kept hmark,
      Part.fill_map_kept]
  rw [substituteReferences, hmarked]
  change mapCode (standard.substituteBare db) t = .ok t
  rw [mapCode_substituteBare, textParts_of_quoteFree false hq,
    parts_bare_eq_map_kept (b := []) hbare (by simp), Part.fill_map_kept]

/-- A word that is kept by both passes over references. -/
theorem IsKeptWord.substituteMarked {w : List Char} (hw : IsKeptWord w) (facts : Facts) :
    mapCode (standard.substituteMarked facts) w = .ok w := by
  rw [mapCode_substituteMarked, textParts_of_quoteFree true hw.normal.quoteFree,
    parts_marked_eq_map_kept hw.mark, Part.fill_map_kept]

theorem IsKeptWord.substituteReferences {w : List Char} (hw : IsKeptWord w) (facts db : Facts) :
    substituteReferences facts db w = .ok w :=
  substituteReferences_eq_self hw.normal.quoteFree hw.mark hw.bare facts db

theorem IsSpacedText.quoteFree {s : List Char} (hs : IsSpacedText s) : quoteFree s = true := by
  obtain ⟨ws, rfl, hws⟩ := hs
  refine List.all_eq_true.2 fun c hc => ?_
  rcases List.mem_append.1 hc with hc | hc
  · obtain ⟨w, hw, hc⟩ := List.mem_flatMap.1 hc
    rcases List.mem_cons.1 hc with rfl | hc
    · decide
    · rcases hws w hw with rfl | hsymbol
      · cases hc
      · exact List.all_eq_true.1 hsymbol.isKeptWord.normal.quoteFree c hc
  · rw [List.mem_singleton.1 hc]
    decide

/-- Text between operands is kept. -/
theorem substituteReferences_spacedText {facts db : Facts} {s y t : List Char}
    (hs : IsSpacedText s) :
    substituteReferences facts db (s ++ y) = .ok t ↔
      ∃ z, substituteReferences facts db y = .ok z ∧ t = s ++ z := by
  obtain ⟨ws, rfl, hws⟩ := hs
  have hkept : ∀ w ∈ ws, IsKeptWord w := fun w hw =>
    (hws w hw).elim (fun h => h ▸ isKeptWord_nil) IsSymbol.isKeptWord
  clear hws
  rw [List.append_assoc, List.singleton_append]
  induction ws generalizing t with
  | nil => simp [substituteReferences_blank_cons]
  | cons w ws ih =>
    have hw := hkept w List.mem_cons_self
    have hnext : ws.flatMap (' ' :: ·) ++ ' ' :: y = [] ∨
        ∃ y', ws.flatMap (' ' :: ·) ++ ' ' :: y = ' ' :: y' := by
      cases ws <;> exact .inr ⟨_, rfl⟩
    have hself {m : List Char} (hm : mapCode (standard.substituteMarked facts) w = .ok m) :
        IsSelfContained m := by
      rw [hw.substituteMarked] at hm
      exact .inl (Except.ok.inj hm ▸ hw.normal.quoteFree)
    rw [List.flatMap_cons, List.cons_append, List.cons_append, List.append_assoc,
      substituteReferences_blank_cons]
    simp only [substituteReferences_append (.inl hw.normal.quoteFree) (fun _ => hself) hnext,
      hw.substituteReferences, ih fun v hv => hkept v (List.mem_cons_of_mem w hv)]
    simp

/-! ### References -/

section

variable {p n : List Char} {facts db : Facts}

/-- Two words that are a reference, with a mark or without one. -/
structure IsPlainPair (p n : List Char) : Prop where
  pair : IsPair p n []
  letter : p.head?.any isLetter = true

theorem all_isOperandChar_writtenReference (marked : Bool) (h : IsPair p n []) :
    (writtenReference marked p n).all isOperandChar = true := by
  have hword : ∀ {u : List Char}, (∀ c ∈ u, Unicode.isWord c = true) → u.all isOperandChar = true :=
    fun hu => List.all_eq_true.2 fun c hc => by simp [isOperandChar, hu c hc]
  have hmark : (markText marked).all isOperandChar = true := by cases marked <;> rfl
  simp only [writtenReference, List.all_append, List.all_cons, hmark, hword h.pfx, hword h.name]
  rfl

theorem isNormalWord_writtenReference (marked : Bool) (h : IsPair p n []) :
    IsNormalWord (writtenReference marked p n) := by
  refine isNormalWord_of_all_isOperandChar (all_isOperandChar_writtenReference marked h) ?_
  rintro q hq heq
  have hpoint : ∀ q ∈ connectiveWords, '.' ∉ q.1.toList := by decide
  exact hpoint q hq (heq ▸ by simp [writtenReference])

theorem textParts_writtenReference (marked : Bool) (h : IsPlainPair p n) :
    textParts marked (writtenReference marked p n) = [.reference p n] := by
  have hat : referenceAt? marked true (writtenReference marked p n) = some (p, n, []) := by
    have hpair : pairAt? (p ++ '.' :: n) = some (p, n, []) :=
      pairAt?_eq_some_iff.2 ⟨by simp, h.pair⟩
    cases marked with
    | true => exact hpair
    | false =>
      have hletter : (p ++ '.' :: n).head?.any isLetter = true := by
        obtain ⟨c, p, rfl⟩ := List.exists_cons_of_ne_nil h.pair.pfx_ne
        exact h.letter
      change referenceAt? false true (p ++ '.' :: n) = _
      rw [referenceAt?_bare, hletter]
      exact hpair
  rw [textParts_of_quoteFree marked (isNormalWord_writtenReference marked h.pair).quoteFree,
    parts_of_referenceAt? hat, parts_nil]

theorem substituteMarked_writtenReference (h : IsPlainPair p n) (facts : Facts) :
    mapCode (standard.substituteMarked facts) (writtenReference true p n) =
      facts.operandOf p n (writtenReference true p n) := by
  rw [mapCode_substituteMarked, textParts_writtenReference true h, Part.fill_reference]

/-- A reference without a mark is left to the second pass. -/
theorem substituteMarked_writtenReference_bare (h : IsPlainPair p n) (facts : Facts) :
    mapCode (standard.substituteMarked facts) (writtenReference false p n) =
      .ok (writtenReference false p n) := by
  have hmark : '$' ∉ writtenReference false p n := by
    simp only [writtenReference, markText, Bool.false_eq_true, if_false, List.nil_append,
      List.mem_append, List.mem_cons, not_or]
    have hword : Unicode.isWord '$' = false := by decide
    refine ⟨fun hp => ?_, by decide, fun hn => ?_⟩
    · simp [h.pair.pfx _ hp] at hword
    · simp [h.pair.name _ hn] at hword
  rw [mapCode_substituteMarked,
    textParts_of_quoteFree true (isNormalWord_writtenReference false h.pair).quoteFree,
    parts_marked_eq_map_kept hmark, Part.fill_map_kept]

/-- A reference stands for the operand of its fact; which collection is asked depends on its
mark. -/
theorem substituteReferences_writtenReference (marked : Bool) (h : IsPlainPair p n) :
    substituteReferences facts db (writtenReference marked p n) =
      (if marked then facts else db).operandOf p n (writtenReference marked p n) := by
  cases marked with
  | true =>
    rw [Settings.substituteReferences, substituteMarked_writtenReference h]
    cases hoperand : facts.operandOf p n (writtenReference true p n) with
    | error e => exact hoperand.symm
    | ok x =>
      obtain ⟨v, rfl⟩ := exists_operandText_of_operandOf hoperand
      change mapCode (standard.substituteBare db) v.operandText = _
      rw [mapCode_substituteBare, v.textParts_operandText, Part.fill_map_kept]
      exact hoperand.symm
  | false =>
    rw [Settings.substituteReferences, substituteMarked_writtenReference_bare h]
    change mapCode (standard.substituteBare db) _ = _
    rw [mapCode_substituteBare, textParts_writtenReference false h, Part.fill_reference]
    rfl

end

end TripletFacts
