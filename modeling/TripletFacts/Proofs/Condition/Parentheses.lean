import TripletFacts.Proofs.Condition.Complete
import TripletFacts.Proofs.Condition.Extension
import TripletFacts.Proofs.Condition.KeptWords
import TripletFacts.Proofs.Condition.Splicing
import TripletFacts.Proofs.Condition.WrittenCalls
import TripletFacts.Proofs.Regex.Language

/-!
# Parentheses of conditions

The parentheses of a condition are checked before anything is put into it. No pass opens or closes
any others: a call that asks for presence goes with its own pair, the operand of a negative number
comes with its own pair, and the parentheses in the literal of a text are not those of code. So the
parentheses of a condition match just if those of the expression do that the condition becomes, and
what is refused early would be refused by the parser.

## Main definitions

* `SameDepth`: two stretches of code that leave the same parentheses open.
* `KeepsParentheses`: passes over code that open and close the same parentheses.

## Main results

* `KeepsParentheses.mapCode`: a pass over a text keeps the parentheses of its code.
* `Settings.keepsParentheses_resolvePresence`, `Settings.keepsParentheses_substituteMarked`,
  `Settings.keepsParentheses_substituteBare`, `keepsParentheses_normalizeCode`: the passes.
* `Settings.balanced_of_substitute`: the parentheses of a condition match just if those of its
  expression do.
* `Settings.refused_or_balanced_of_substitute`: what it means that parentheses are checked first.
-/

namespace TripletFacts

open Regex Cursor

/-! ### Open parentheses -/

/-- Two stretches of code leave the same parentheses open behind them. -/
def SameDepth (t u : List Char) : Prop := ∀ depth, openAfter depth t = openAfter depth u

namespace SameDepth

variable {t t' u u' : List Char}

theorem refl (t : List Char) : SameDepth t t := fun _ => rfl

theorem symm (h : SameDepth t u) : SameDepth u t := fun depth => (h depth).symm

theorem trans (h : SameDepth t t') (h' : SameDepth t' u) : SameDepth t u := fun depth =>
  (h depth).trans (h' depth)

theorem append (h : SameDepth t t') (h' : SameDepth u u') : SameDepth (t ++ u) (t' ++ u') := by
  intro depth
  rw [openAfter_append, openAfter_append, h depth]
  exact congrArg _ (funext h')

theorem cons (h : SameDepth t u) (c : Char) : SameDepth (c :: t) (c :: u) :=
  (refl [c]).append h

/-- Code without parentheses does not matter. -/
theorem of_not_mem (hl : '(' ∉ t) (hr : ')' ∉ t) : SameDepth t [] := fun depth => by
  rw [← List.append_nil t, openAfter_append_of_not_mem hl hr]

/-- A pair of parentheses does not matter either. -/
theorem parenthesized (h : SameDepth t []) : SameDepth ('(' :: (t ++ [')'])) [] := fun depth =>
  calc openAfter depth ('(' :: (t ++ [')']))
      = openAfter (depth + 1) (t ++ [')']) := by simp [openAfter]
    _ = openAfter (depth + 1) [')'] := by rw [openAfter_append, h (depth + 1)]; rfl
    _ = openAfter depth [] := by simp [openAfter]

end SameDepth

/-! ### Parentheses of complete texts -/

/-- The code of a complete text and of what stands behind it. -/
theorem IsComplete.codeOf_append {t : List Char} (h : IsComplete t) (rest : List Char) :
    codeOf (t ++ rest) = codeOf t ++ codeOf rest := by
  induction h with
  | code hw => rw [codeOf_append_of_quoteFree hw, codeOf_of_quoteFree hw]
  | literal hw hl hx ih =>
    rw [List.append_assoc, List.append_assoc, codeOf_append_of_quoteFree hw,
      codeOf_append_of_quoteFree hw, codeOf_append_of_isClosed hl, codeOf_append_of_isClosed hl, ih,
      List.append_assoc]

/-- An operand opens no parentheses. -/
theorem Value.sameDepth_operandText (v : Value) : SameDepth (codeOf v.operandText) [] := by
  by_cases hstr : ∃ s, v = .str s
  · obtain ⟨s, rfl⟩ := hstr
    have hcode := codeOf_append_of_isClosed (isClosed_literal s) []
    rw [List.append_nil, codeOf_nil] at hcode
    rw [operandText_of_head? (v := .str s) (by simp [literal]), hcode]
    exact .refl []
  · have hstr : ∀ s, v ≠ .str s := fun s hs => hstr ⟨s, hs⟩
    have hnot {c : Char} (hc : c ∈ ['^', '<', '=', '(', ')', '\'', '"']) : c ∉ v.literal :=
      not_mem_of_all_isOperandChar (all_isOperandChar_literal hstr) hc
    have hliteral : SameDepth v.literal [] := .of_not_mem (hnot (by simp)) (hnot (by simp))
    rw [codeOf_of_quoteFree (quoteFree_operandText hstr)]
    rcases v.operandText_eq with h | h
    · exact h ▸ hliteral
    · exact h ▸ hliteral.parenthesized

/-! ### Passes -/

section

variable {ε : Type} {pass : List Char → Except ε (List Char)} {t u : List Char}

/-- A pass makes a complete text of code, and opens and closes the same parentheses in it. -/
def KeepsParentheses (pass : List Char → Except ε (List Char)) : Prop :=
  ∀ t u, quoteFree t = true → pass t = .ok u → IsComplete u ∧ SameDepth (codeOf u) t

theorem codeOf_quote {c : Char} (hc : isQuote c = true) (cs : List Char) :
    codeOf (c :: cs) = codeOf (splitLiteral c false cs).2 := by
  rw [codeOf, segments, if_pos hc]
  rfl

/-- A pass over a text keeps the parentheses of its code. -/
theorem KeepsParentheses.mapCode (hpass : KeepsParentheses pass)
    (h : TripletFacts.mapCode pass t = .ok u) : SameDepth (codeOf u) (codeOf t) := by
  change mapSegments pass (segments t) = .ok u at h
  fun_induction segments t generalizing u with
  | case1 =>
    rw [← Except.ok.inj h]
    exact .refl _
  | case2 c cs hc ih =>
    rw [mapSegments_cons, bind_eq_ok_iff] at h
    obtain ⟨l, hl, hrest⟩ := h
    obtain ⟨v, hv, rfl⟩ := map_eq_ok_iff.1 hrest
    obtain rfl : c :: (splitLiteral c false cs).1 = l := Except.ok.inj hl
    rw [codeOf_quote hc]
    by_cases hnil : (splitLiteral c false cs).2 = []
    · -- a literal that is open is the end of the text
      rw [hnil, segments] at hv
      obtain rfl : [] = v := Except.ok.inj hv
      rw [List.append_nil, codeOf_quote hc, splitLiteral_open hnil, hnil]
      exact .refl _
    · rw [codeOf_append_of_isClosed ⟨c, _, hc, rfl, splitLiteral_closed hnil⟩]
      exact ih hv
  | case3 c cs hc ih =>
    rw [mapSegments_cons, bind_eq_ok_iff] at h
    obtain ⟨a, ha, hrest⟩ := h
    obtain ⟨v, hv, rfl⟩ := map_eq_ok_iff.1 hrest
    have hcode := quoteFree_cons_takeWhile hc cs
    obtain ⟨hcomplete, hdepth⟩ := hpass _ a hcode ha
    have hcut : c :: cs = (c :: cs.takeWhile (!isQuote ·)) ++ cs.dropWhile (!isQuote ·) := by
      rw [List.cons_append, List.takeWhile_append_dropWhile]
    rw [hcomplete.codeOf_append, hcut, codeOf_append_of_quoteFree hcode]
    exact hdepth.append (ih hv)

/-- A pass that makes code of code keeps parentheses if the code leaves the same ones open. -/
theorem KeepsParentheses.of_code (h : ∀ t u, quoteFree t = true → pass t = .ok u →
    quoteFree u = true ∧ SameDepth u t) : KeepsParentheses pass := by
  intro t u ht hu
  obtain ⟨hcode, hdepth⟩ := h t u ht hu
  rw [codeOf_of_quoteFree hcode]
  exact ⟨.code hcode, hdepth⟩

end

/-! ### Normalizing -/

section

variable {old new t t' : List Char}

theorem Replaced.sameDepth (h : Replaced old new t t') (hnew : SameDepth new old) :
    SameDepth t' t := by
  induction h with
  | same t => exact .refl t
  | step a h ih => exact (SameDepth.refl a).append (hnew.append ih)

theorem sameDepth_doubleEquals (t : List Char) (previous : Option Char) :
    SameDepth (doubleEquals previous t) t := by
  induction t generalizing previous with
  | nil => exact .refl []
  | cons c t ih =>
    rw [doubleEquals]
    split
    · rename_i hequals
      rw [hequals.1]
      have hdouble : SameDepth ['=', '='] ['='] := fun depth => rfl
      exact hdouble.append (ih _)
    · exact (ih _).cons c

/-- The case of letters does not matter. -/
theorem sameDepth_map_asciiLower (t : List Char) : SameDepth (t.map asciiLower) t := by
  induction t with
  | nil => exact .refl []
  | cons c t ih =>
    intro depth
    have hleft : asciiLower c = '(' ↔ c = '(' := asciiLower_eq_iff (by decide)
    have hright : asciiLower c = ')' ↔ c = ')' := asciiLower_eq_iff (by decide)
    simp only [List.map_cons, openAfter, hleft, hright, ih _]

theorem sameDepth_replaceConnectives (t : List Char) : SameDepth (replaceConnectives t) t := by
  have hwords : ∀ p ∈ connectiveWords, ('(' ∉ spaced p.1 ∧ ')' ∉ spaced p.1) ∧
      '(' ∉ spaced p.2 ∧ ')' ∉ spaced p.2 := by decide
  refine replaceConnectives_induction (P := (SameDepth · t)) (fun p hp u u' hreplaced hu => ?_)
    (.refl t)
  obtain ⟨⟨hl, hr⟩, hl', hr'⟩ := hwords p hp
  have hspaced : SameDepth (spaced p.2) (spaced p.1) :=
    (SameDepth.of_not_mem hl' hr').trans (SameDepth.of_not_mem hl hr).symm
  exact (hreplaced.sameDepth hspaced).trans hu

/-- Normalizing keeps the parentheses of code. -/
theorem sameDepth_normalizeCode (t : List Char) : SameDepth (normalizeCode t) t := by
  have hlower : ∀ u, SameDepth (lowerCalls u) u := fun u => by
    have hsame := sameDepth_map_asciiLower (lowerCalls u)
    rw [map_asciiLower_lowerCalls] at hsame
    exact hsame.symm.trans (sameDepth_map_asciiLower u)
  have hunequal : SameDepth ['!', '='] ['<', '>'] := fun depth => rfl
  have hpower : SameDepth ['*', '*'] ['^'] := fun depth => rfl
  change SameDepth (lowerCalls (replaceText "^" "**" (doubleEquals none
    (replaceText "<>" "!=" (replaceConnectives t))))) t
  exact (hlower _).trans <|
    ((replaced_replaceFrom (by decide) _).sameDepth hpower).trans <|
    (sameDepth_doubleEquals _ none).trans <|
    ((replaced_replaceFrom (by decide) _).sameDepth hunequal).trans (sameDepth_replaceConnectives t)

end

/-- A normalized condition is what a pass makes of it. -/
theorem mapCode_normalizeCode (ε : Type) (condition : List Char) :
    mapCode (fun code => (.ok (normalizeCode code) : Except ε (List Char))) condition =
      .ok (Settings.normalizeCondition condition) := by
  have hsegments : ∀ ss : List Segment,
      mapSegments (fun code => (.ok (normalizeCode code) : Except ε (List Char))) ss =
        .ok (ss.flatMap fun seg => if seg.isCode then normalizeCode seg.text else seg.text) := by
    intro ss
    induction ss with
    | nil => rfl
    | cons seg ss ih =>
      rw [mapSegments_cons, ih, Segment.mapCode, List.flatMap_cons]
      split <;> rfl
  exact hsegments (segments condition)

theorem keepsParentheses_normalizeCode (ε : Type) :
    KeepsParentheses fun code => (.ok (normalizeCode code) : Except ε (List Char)) :=
  .of_code fun t _ ht hu => Except.ok.inj hu ▸
    ⟨quoteFree_normalizeCode ht, sameDepth_normalizeCode t⟩

/-- The parentheses of a normalized condition are those of the condition. -/
theorem balanced_normalizeCondition (condition : List Char) :
    balanced (Settings.normalizeCondition condition) = balanced condition := by
  have hdepth := (keepsParentheses_normalizeCode Empty).mapCode
    (mapCode_normalizeCode Empty condition)
  rw [balanced, balanced, hdepth 0]

namespace Settings

/-! ### Calls that ask for presence -/

/-- What an expression matches leaves no parentheses open if it avoids them. -/
theorem exists_sameDepth_of_avoids {r : Regex} {c c' : Cursor} (h : r.Matches c c')
    (hl : r.avoids '(' = true) (hr : r.avoids ')' = true) :
    ∃ v, c.Steps v c' ∧ SameDepth v [] := by
  obtain ⟨v, hv, havoids⟩ := h.exists_steps_of_avoids
  exact ⟨v, hv, .of_not_mem (havoids _ hl) (havoids _ hr)⟩

/-- What is matched of a call has one pair of parentheses. -/
theorem sameDepth_of_matches_callShape {present marked : Bool} {b v t : List Char}
    (h : (standard.regex (callShape present marked)).Matches (between b (v ++ t))
      (between (v.reverse ++ b) t)) : SameDepth v [] := by
  obtain ⟨word₁, word₂, hregex, hl, hr⟩ : ∃ word₁ word₂,
      standard.regex (callShape present marked) = callRegex word₁ word₂ (argumentRegex marked) ∧
        (Regex.alt (foldedRegex word₁) (foldedRegex word₂)).avoids '(' = true ∧
        (Regex.alt (foldedRegex word₁) (foldedRegex word₂)).avoids ')' = true := by
    cases present <;> cases marked <;> exact ⟨_, _, rfl, by decide, by decide⟩
  rw [hregex] at h
  obtain ⟨c₁, hlook, h⟩ := matches_seq_iff.1 h
  obtain ⟨c₂, hkeyword, h⟩ := matches_seq_iff.1 h
  obtain ⟨c₃, hopen, h⟩ := matches_seq_iff.1 h
  obtain ⟨c₄, hbefore, h⟩ := matches_seq_iff.1 h
  obtain ⟨c₅, hargument, h⟩ := matches_seq_iff.1 h
  obtain ⟨c₆, hbehind, hclose⟩ := matches_seq_iff.1 h
  -- no parentheses stand in the keyword, and none around the argument but the two of the call
  obtain ⟨u, hu, hdepth⟩ := exists_sameDepth_of_avoids (.seq hlook hkeyword) hl hr
  obtain ⟨_, rfl, hopen⟩ := (takes_literal ['('] _ _).1 hopen
  obtain ⟨w, hw, hdepth'⟩ := exists_sameDepth_of_avoids (.seq hbefore (.seq hargument hbehind))
    (by cases marked <;> decide) (by cases marked <;> decide)
  obtain ⟨_, rfl, hclose⟩ := (takes_literal [')'] _ _).1 hclose
  have hsteps := hu.trans (hopen.trans (hw.trans hclose))
  rw [← Span.text_between b v t, hsteps.text]
  exact hdepth.append hdepth'.parenthesized

/-- Where calls are replaced, their pairs of parentheses go. -/
theorem sameDepth_of_replaceM_callShape (present marked : Bool) {facts : Facts} {asked : Bool}
    {code u : List Char}
    (h : (standard.regex (callShape present marked)).replaceM (facts.presence asked) code = .ok u) :
    SameDepth u code := by
  refine replaceM_induction (consumes_callShape present marked) (R := fun t u => SameDepth u t)
    (.refl []) (fun x t u ih => ih.cons x) (fun b v t m x u hleads hx ih => ?_) h
  obtain ⟨found, -, rfl⟩ := map_eq_ok_iff.1 hx
  have hbool : ∀ b, SameDepth (Value.boolText b) [] := fun b => by
    cases b <;> exact .of_not_mem (by decide) (by decide)
  exact ((hbool _).trans (sameDepth_of_matches_callShape hleads.matches).symm).append ih

/-- Calls that ask for presence are replaced with their parentheses. -/
theorem keepsParentheses_resolvePresence (facts db : Facts) :
    KeepsParentheses (standard.resolvePresence facts db) := by
  refine .of_code fun t u ht hu => ?_
  obtain ⟨t₁, h₁, hrest⟩ := bind_eq_ok_iff.1 hu
  obtain ⟨t₂, h₂, hrest⟩ := bind_eq_ok_iff.1 hrest
  have hq₂ := quoteFree_replaceM_presence (quoteFree_replaceM_presence ht h₁) h₂
  have hmarked : SameDepth t₂ t := (sameDepth_of_replaceM_callShape false true h₂).trans
    (sameDepth_of_replaceM_callShape true true h₁)
  split at hrest
  · obtain rfl : t₂ = u := Except.ok.inj hrest
    exact ⟨hq₂, hmarked⟩
  · obtain ⟨t₃, h₃, h₄⟩ := bind_eq_ok_iff.1 hrest
    have hbare : SameDepth u t₂ := (sameDepth_of_replaceM_callShape false false h₄).trans
      (sameDepth_of_replaceM_callShape true false h₃)
    exact ⟨quoteFree_replaceM_presence (quoteFree_replaceM_presence hq₂ h₃) h₄, hbare.trans hmarked⟩

/-! ### References -/

theorem sameDepth_writtenReference {marked : Bool} {p n r : List Char} (h : IsPair p n r) :
    SameDepth (writtenReference marked p n) [] := by
  have hnot {x : Char} (hmark : x ≠ '$') (hpoint : x ≠ '.') (hword : Unicode.isWord x = false) :
      x ∉ writtenReference marked p n := by
    intro hmem
    rw [writtenReference, List.mem_append, List.mem_append, List.mem_cons] at hmem
    rcases hmem with hmem | hmem | hmem | hmem
    · cases marked <;> simp [markText, hmark] at hmem
    · exact Bool.false_ne_true (hword.symm.trans (h.pfx x hmem))
    · exact hpoint hmem
    · exact Bool.false_ne_true (hword.symm.trans (h.name x hmem))
  exact .of_not_mem (hnot (by decide) (by decide) (by decide))
    (hnot (by decide) (by decide) (by decide))

/-- Filling the parts of code keeps its parentheses if it puts operands in. -/
theorem sameDepth_of_fill_parts {value : List Char → List Char → Except EvalError (List Char)}
    (hvalue : ∀ p n x, value p n = .ok x → ∃ v : Value, x = v.operandText) {marked start : Bool}
    {code u : List Char} (hcode : quoteFree code = true)
    (h : Part.fill value (parts marked start code) = .ok u) :
    IsComplete u ∧ SameDepth (codeOf u) code := by
  fun_induction parts marked start code generalizing u with
  | case1 start =>
    rw [← Except.ok.inj h, codeOf_nil]
    exact ⟨isComplete_nil, .refl []⟩
  | case2 start c cs p n r href ih =>
    obtain ⟨heq, hpair⟩ := eq_of_referenceAt? href
    have hwritten : c :: cs = writtenReference marked p n ++ r := by
      rw [heq]
      simp [writtenReference]
    rw [hwritten] at hcode ⊢
    obtain ⟨x, hx, hrest⟩ := bind_eq_ok_iff.1 h
    obtain ⟨z, hz, rfl⟩ := map_eq_ok_iff.1 hrest
    obtain ⟨v, rfl⟩ := hvalue p n x hx
    obtain ⟨hcomplete, hdepth⟩ := ih (quoteFree_append.1 hcode).2 hz
    rw [v.isComplete_operandText.codeOf_append]
    exact ⟨v.isComplete_operandText.append hcomplete,
      (v.sameDepth_operandText.trans (sameDepth_writtenReference hpair).symm).append hdepth⟩
  | case3 start c cs href ih =>
    obtain ⟨z, hz, rfl⟩ := Part.fill_kept_cons_eq_ok_iff.1 h
    rw [quoteFree_cons] at hcode
    obtain ⟨hcomplete, hdepth⟩ := ih hcode.2 hz
    have hc : quoteFree [c] = true := quoteFree_cons.2 ⟨hcode.1, quoteFree_nil⟩
    rw [← List.singleton_append, codeOf_append_of_quoteFree hc]
    exact ⟨.code_append hc hcomplete, hdepth.cons c⟩

theorem keepsParentheses_substituteMarked (facts : Facts) :
    KeepsParentheses (standard.substituteMarked facts) := by
  intro t u ht hu
  rw [substituteMarked_eq_fill] at hu
  exact sameDepth_of_fill_parts (fun _ _ _ => exists_operandText_of_operandOf) ht hu

theorem keepsParentheses_substituteBare (db : Facts) :
    KeepsParentheses (standard.substituteBare db) := by
  intro t u ht hu
  rw [substituteBare_eq_fill] at hu
  exact sameDepth_of_fill_parts (fun _ _ _ => exists_operandText_of_operandOf) ht hu

/-! ### Conditions -/

variable {facts db : Facts} {t u : List Char}

/-- The parentheses of a text match just if those of the expression do that it becomes. -/
theorem balanced_of_substitute (h : standard.substitute facts db t = .ok u) :
    balanced u = balanced t := by
  rw [substitute_eq_bind, bind_eq_ok_iff] at h
  obtain ⟨t₂, h₂, hbare⟩ := h
  obtain ⟨t₁, hpresence, hmarked⟩ := bind_eq_ok_iff.1 h₂
  have hdepth : SameDepth (codeOf u) (codeOf t) :=
    ((keepsParentheses_substituteBare db).mapCode hbare).trans <|
    ((keepsParentheses_substituteMarked facts).mapCode hmarked).trans
      ((keepsParentheses_resolvePresence facts db).mapCode hpresence)
  rw [balanced, balanced, hdepth 0]

/-- **Checking parentheses first refuses no condition that could have a value.** If the parentheses
of a condition do not match, then no expression is what the passes make of it; if they do, they
still match in that text. -/
theorem refused_or_balanced_of_substitute (facts db : Facts) (condition : List Char) :
    (balanced condition = false → ∀ text,
        standard.substitute facts db (normalizeCondition condition) = .ok text →
          ∃ e, Expr.parse text = .error e) ∧
      (balanced condition = true → ∀ text,
        standard.substitute facts db (normalizeCondition condition) = .ok text →
          balanced text = true) := by
  have hbalanced {text : List Char}
      (h : standard.substitute facts db (normalizeCondition condition) = .ok text) :
      balanced text = balanced condition :=
    (balanced_of_substitute h).trans (balanced_normalizeCondition condition)
  constructor
  · intro hnot text htext
    cases hparse : Expr.parse text with
    | error e => exact ⟨e, rfl⟩
    | ok e =>
      have hyes := balanced_of_parse hparse
      rw [hbalanced htext, hnot] at hyes
      cases hyes
  · intro hyes text htext
    rw [hbalanced htext, hyes]

/-- The collection of a negative number and of a text of parentheses. -/
def numberAndText : Facts := ((Facts.empty .standard).add {
  pfx := "A", name := some "B", comment := none, bid := false, special := false,
  settings := .standard, value := some (.literal (.int (-1))) }).add {
  pfx := "C", name := some "D", comment := none, bid := false, special := false,
  settings := .standard, value := some (.literal (.str "))")) }

/-- One pair of parentheses goes with a call, one comes with a number, and those of a text do not
matter. -/
theorem refused_or_balanced_of_substitute_pairs :
    (balanced "present( $A.B ) and ($A.B < 0 or C.D = '('".toList = false ∧
      standard.substitute numberAndText numberAndText
          (normalizeCondition "present( $A.B ) and ($A.B < 0 or C.D = '('".toList) =
        .ok "True and ((-1) < 0 or '))' == '('".toList ∧
      ∃ e, Expr.parse "True and ((-1) < 0 or '))' == '('".toList = .error e) ∧
    (balanced "present( $A.B ) and ($A.B < 0 or C.D = '(')".toList = true ∧
      standard.substitute numberAndText numberAndText
          (normalizeCondition "present( $A.B ) and ($A.B < 0 or C.D = '(')".toList) =
        .ok "True and ((-1) < 0 or '))' == '(')".toList ∧
      balanced "True and ((-1) < 0 or '))' == '(')".toList = true) := by
  have hnot : balanced "present( $A.B ) and ($A.B < 0 or C.D = '('".toList = false := by
    decide +kernel
  have hopen : standard.substitute numberAndText numberAndText
      (normalizeCondition "present( $A.B ) and ($A.B < 0 or C.D = '('".toList) =
        .ok "True and ((-1) < 0 or '))' == '('".toList := by
    decide +kernel
  have hyes : balanced "present( $A.B ) and ($A.B < 0 or C.D = '(')".toList = true := by
    decide +kernel
  have hclosed : standard.substitute numberAndText numberAndText
      (normalizeCondition "present( $A.B ) and ($A.B < 0 or C.D = '(')".toList) =
        .ok "True and ((-1) < 0 or '))' == '(')".toList := by
    decide +kernel
  exact ⟨⟨hnot, hopen, (refused_or_balanced_of_substitute _ _ _).1 hnot _ hopen⟩,
    hyes, hclosed, (refused_or_balanced_of_substitute _ _ _).2 hyes _ hclosed⟩

end Settings

end TripletFacts
