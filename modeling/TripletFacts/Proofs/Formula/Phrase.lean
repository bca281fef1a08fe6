import TripletFacts.Formula.Compute
import TripletFacts.Proofs.Condition.Extension
import TripletFacts.Proofs.Condition.KeptWords
import TripletFacts.Proofs.Condition.Parentheses
import TripletFacts.Proofs.Condition.Splicing
import TripletFacts.Proofs.Triplet.Built

/-!
# Formulas that are conditions

A formula puts the values of its references into its text item by item. Its text is a condition too,
in which the references are found again. Both ways lead to the same expression if the items of the
formula are operands with text between any two of them, and if the text is made of signs and words
with blanks on both sides of each: then no word of the condition is more than one item, and what is
put in for one reference is no part of another one.

The condition is refused if its parentheses do not match. This is no further restriction: the
operands have matching parentheses, so that the expression would be refused as well.

## Main definitions

* `Item.IsOperand`, `Item.Written`: operands, and what they are in a condition.
* `Item.Phrase`: items with text between any two operands.

## Main results

* `Item.Written.substituted`: a reference is found again, and stands for its operand.
* `Item.Phrase.substituted`: both ways lead to the same expression.
* `Item.Phrase.openAfter_operands`: the parentheses of a phrase and of its expression.
* `Formula.compute_eq_ok_iff_evaluateCondition`: both ways lead to the same value.
-/

namespace TripletFacts

open Settings

/-! ### Operands -/

namespace Item

/-- A number without a sign, a truth value, or a reference with a name that asks for nothing. -/
inductive IsOperand : Item → Prop
  | number {n : Number} (hsign : n.text.head? ≠ some '-') : IsOperand (number n)
  | bool (b : Bool) : IsOperand (bool b)
  | reference {r : Reference} (hbuilt : r.toTriplet.Built) (hname : r.name.isSome = true)
      (hbid : r.bid = false) : IsOperand (reference r)

/-- What an operand is in a condition: the literal of a value, or a reference. -/
inductive Written (i : Item) : Prop
  | value {v : Value} (hstr : ∀ s, v ≠ .str s) (hsign : v.literal.head? ≠ some '-')
      (hshown : i.shown = v.literal)
      (hoperand : ∀ facts special, i.operand facts special = .ok v.operandText) : Written i
  | reference {marked : Bool} {p n : List Char} (h : IsPlainPair p n)
      (hshown : i.shown = writtenReference marked p n)
      (hoperand : ∀ facts db x, i.operand facts (some db) = .ok x ↔
        (if marked then facts else db).operandOf p n (writtenReference marked p n) = .ok x) :
      Written i

/-- The operand of a fact is the literal that the fact states. -/
theorem operandOf_eq_ok_iff {f : Facts} {p n written x : List Char} :
    f.operandOf p n written = .ok x ↔
      ∃ t, f.get (Unicode.upper (String.ofList p))
        (some (Unicode.upper (String.ofList n))) = .ok t ∧
        t.literalValue.map Value.operandText = .ok x := by
  unfold Facts.operandOf Triplet.literalValue
  cases f.get (Unicode.upper (String.ofList p)) (some (Unicode.upper (String.ofList n))) with
  | error e => cases e <;> simp
  | ok t =>
    cases hvalue : t.value with
    | none => simp [hvalue, Except.map]
    | some v =>
      cases hliteral : v.literal? with
      | none => simp [hvalue, hliteral, Except.map]
      | some l => simp [hvalue, hliteral, Except.map]

/-- The prefix of a triplet and its name are in capital letters. -/
theorem upper_of_built {t : Triplet} (h : t.Built) :
    Unicode.upper t.pfx = t.pfx ∧ ∀ n ∈ t.name, Unicode.upper n = n := by
  refine ⟨Unicode.upper_eq_self fun c hc => ?_, fun n hn => Unicode.upper_eq_self fun c hc => ?_⟩
  · rcases mem_of_validate_pfx h.pfx hc with hcapital | hdigit
    · exact upperChar_of_isCapital hcapital
    · exact upperChar_of_isDecimalDigit hdigit
  · exact upperChar_of_isCapital (mem_of_validate_name (h.name n hn).2 hc)

/-- A prefix and a name are a reference. -/
theorem isPlainPair_of_built {t : Triplet} (h : t.Built) {name : String}
    (hname : t.name = some name) :
    IsPlainPair t.pfx.toList name.toList := by
  obtain ⟨x, u, d, hpfx, hcapitals, -⟩ := exists_capitals_of_validate_pfx h.pfx
  obtain ⟨y, w, hname', -⟩ := exists_capitals_of_validate_name (h.name name hname).2
  have hcapital := hcapitals x List.mem_cons_self
  refine ⟨⟨by simp [hpfx], by simp [hname'], fun c hc => ?_, fun c hc => ?_, rfl⟩, ?_⟩
  · exact (mem_of_validate_pfx h.pfx hc).elim isWord_of_isCapital isWord_of_isDecimalDigit
  · exact isWord_of_isCapital (mem_of_validate_name (h.name name hname).2 hc)
  · have hdigit : Unicode.isDecimalDigit x = false := by
      cases hx : Unicode.isDecimalDigit x with
      | false => rfl
      | true => simp [isCapital_of_isDecimalDigit hx] at hcapital
    simp [hpfx, isLetter, isWord_of_isCapital hcapital, hdigit]

/-- The fact that a reference points at gives the operand that its text stands for. -/
theorem map_resolve_eq_ok_iff {r : Reference} {name : String} (hr : r.toTriplet.Built)
    (hname : r.name = some name) (facts db : Facts) (written : List Char) {x : List Char} :
    (r.resolve facts (some db)).map Value.operandText = .ok x ↔
      (if r.special then db else facts).operandOf r.pfx.toList name.toList written = .ok x := by
  obtain ⟨hpfx, hupper⟩ := upper_of_built hr
  have hpfx : Unicode.upper r.pfx = r.pfx := hpfx
  have hsource : (if r.special then some db else some facts) =
      some (if r.special then db else facts) := by
    cases r.special <;> rfl
  rw [operandOf_eq_ok_iff, String.ofList_toList, String.ofList_toList, hpfx, hupper name hname,
    Reference.resolve, hsource, hname]
  dsimp only
  cases (if r.special then db else facts).get r.pfx (some name) with
  | error e => simp [Except.map]
  | ok t => simp

theorem IsOperand.written {i : Item} (h : i.IsOperand) : i.Written := by
  cases h with
  | @number n hsign =>
    have hliteral : n.text = n.toValue.literal := by cases n <;> rfl
    refine .value (v := n.toValue) (fun s => ?_) (hliteral ▸ hsign) ?_ fun facts special => ?_
    · cases n <;> simp [Number.toValue]
    · rw [shown, hliteral]
    · rw [operand]
  | bool b =>
    refine .value (v := .bool b) (by simp) ?_ ?_ fun facts special => ?_
    · cases b <;> decide
    · rw [shown, Value.literal]
    · rw [operand]
  | @reference r hbuilt hname hbid =>
    obtain ⟨name, hname⟩ := Option.isSome_iff_exists.1 hname
    have hpair : IsPlainPair r.pfx.toList name.toList := isPlainPair_of_built hbuilt hname
    have hshown : shown (.reference r) =
        writtenReference (!r.special) r.pfx.toList name.toList := by
      have hsettings : r.settings = standard := hbuilt.settings
      rw [shown, Reference.text, hbid, if_neg Bool.false_ne_true, Reference.head, hsettings, hname]
      cases r.special <;> simp [writtenReference, markText, standard]
    refine .reference hpair hshown fun facts db x => ?_
    rw [operand, map_resolve_eq_ok_iff hbuilt hname _ _ (writtenReference (!r.special) _ _)]
    cases r.special <;> rfl

section

variable {i : Item} {facts db : Facts} {x : List Char}

theorem Written.isNormalWord (h : i.Written) : IsNormalWord i.shown := by
  cases h with
  | value hstr hsign hshown => exact hshown ▸ (isKeptWord_literal hstr hsign).normal
  | @reference marked p n h hshown => exact hshown ▸ isNormalWord_writtenReference marked h.pair

theorem Written.all_isOperandChar (h : i.Written) : i.shown.all isOperandChar = true := by
  cases h with
  | value hstr hsign hshown => exact hshown ▸ all_isOperandChar_literal hstr
  | @reference marked p n h hshown =>
    exact hshown ▸ all_isOperandChar_writtenReference marked h.pair

/-- A reference is found again, and stands for its operand. -/
theorem Written.substituted (h : i.Written) :
    substituteReferences facts db i.shown = .ok x ↔ i.operand facts (some db) = .ok x := by
  cases h with
  | value hstr hsign hshown hoperand =>
    rw [hoperand, hshown, (isKeptWord_literal hstr hsign).substituteReferences,
      Value.operandText_of_head? hsign]
  | @reference marked p n h hshown hoperand =>
    rw [hoperand, hshown, substituteReferences_writtenReference marked h]

/-- What the first pass makes of an operand ends where it should. -/
theorem Written.isSelfContained (h : i.Written)
    (hm : mapCode (standard.substituteMarked facts) i.shown = .ok x) : IsSelfContained x := by
  cases h with
  | value hstr hsign hshown =>
    have hword := isKeptWord_literal hstr hsign
    rw [hshown, hword.substituteMarked] at hm
    exact .inl (Except.ok.inj hm ▸ hword.normal.quoteFree)
  | @reference marked p n h hshown =>
    rw [hshown] at hm
    cases marked with
    | true =>
      rw [substituteMarked_writtenReference h] at hm
      obtain ⟨v, rfl⟩ := exists_operandText_of_operandOf hm
      exact v.quoteFree_or_isClosed_operandText
    | false =>
      rw [substituteMarked_writtenReference_bare h] at hm
      exact .inl (Except.ok.inj hm ▸ (isNormalWord_writtenReference false h.pair).quoteFree)

theorem Written.exists_operandText (h : i.Written) (hx : i.operand facts (some db) = .ok x) :
    ∃ v : Value, x = v.operandText := by
  cases h with
  | @value v _ _ _ hoperand =>
    rw [hoperand] at hx
    exact ⟨v, (Except.ok.inj hx).symm⟩
  | reference h hshown hoperand => exact exists_operandText_of_operandOf ((hoperand _ _ _).1 hx)

end

/-! ### Phrases -/

/-- Operands with text between any two of them. -/
inductive Phrase : List Item → Prop
  | nil : Phrase []
  | text {s : String} {is : List Item} (hs : IsSpacedText s.toList) (h : Phrase is) :
      Phrase (.text s :: is)
  | operand {i : Item} {is : List Item} (hi : i.IsOperand)
      (hnext : ∀ j ∈ is.head?, ∃ s, j = .text s) (h : Phrase is) : Phrase (i :: is)

/-- The text of items, as the standard settings write it. -/
def display (is : List Item) : List Char := (allShown is).flatten

section

variable {is : List Item} {facts db : Facts} {t : List Char}

@[simp] theorem display_nil : display [] = [] := rfl

theorem display_cons (i : Item) (is : List Item) : display (i :: is) = i.shown ++ display is := by
  rw [display, allShown, List.flatten_cons, display]

theorem operands_cons_eq_ok_iff {i : Item} {special : Option Facts} :
    operands facts special (i :: is) = .ok t ↔
      ∃ x z, i.operand facts special = .ok x ∧ operands facts special is = .ok z ∧ t = x ++ z := by
  rw [operands]
  cases i.operand facts special with
  | error e => simp
  | ok x =>
    dsimp only
    rw [map_eq_ok_iff]
    constructor
    · rintro ⟨z, hz, rfl⟩
      exact ⟨x, z, rfl, hz, rfl⟩
    · rintro ⟨x', z, hx, hz, rfl⟩
      exact ⟨z, hz, by rw [Except.ok.inj hx]⟩

/-- What stands behind an operand is nothing, or text that begins with a blank. -/
theorem exists_blank (hnext : ∀ j ∈ is.head?, ∃ s, j = .text s) (h : Phrase is) :
    display is = [] ∨ ∃ y, display is = ' ' :: y := by
  cases h with
  | nil => exact .inl rfl
  | operand hi =>
    obtain ⟨s, rfl⟩ := hnext _ rfl
    cases hi
  | @text s is hs h =>
    obtain ⟨ws, hws, -⟩ := hs
    refine .inr ?_
    rw [display_cons, shown, hws]
    cases ws with
    | nil => exact ⟨_, rfl⟩
    | cons w ws => exact ⟨_, rfl⟩

/-- The text of a phrase is made of normal words with blanks between them. -/
theorem Phrase.exists_joined (h : Phrase is) : ∃ w ws, display is = joined w ws ∧
    IsNormalWord w ∧ ∀ v ∈ ws, IsNormalWord v := by
  have hnil : IsNormalWord [] := isKeptWord_nil.normal
  induction h with
  | nil => exact ⟨[], [], rfl, hnil, by simp⟩
  | @text s is hs h ih =>
    obtain ⟨w, ws, hdisplay, hw, hws⟩ := ih
    obtain ⟨vs, hvs, hsymbols⟩ := hs
    refine ⟨[], vs ++ w :: ws, ?_, hnil, fun v hv => ?_⟩
    · rw [display_cons, shown, hvs, hdisplay]
      simp [joined]
    · rcases List.mem_append.1 hv with hv | hv
      · rcases hsymbols v hv with rfl | hsymbol
        · exact hnil
        · exact hsymbol.isKeptWord.normal
      · rcases List.mem_cons.1 hv with rfl | hv
        · exact hw
        · exact hws v hv
  | @operand i is hi hnext h ih =>
    obtain ⟨w, ws, hdisplay, hw, hws⟩ := ih
    obtain rfl : w = [] := by
      cases w with
      | nil => rfl
      | cons c w =>
        rcases exists_blank hnext h with hempty | ⟨y, hy⟩
        · rw [hdisplay] at hempty
          cases hempty
        · rw [hdisplay] at hy
          obtain ⟨rfl, -⟩ := List.cons_eq_cons.1 hy
          exact absurd List.mem_cons_self hw.not_mem_blank
    refine ⟨i.shown, ws, ?_, hi.written.isNormalWord, hws⟩
    rw [display_cons, hdisplay, append_joined, List.append_nil]

/-- Both ways put the same expression in the place of a phrase. -/
theorem Phrase.substituted (h : Phrase is) :
    substituteReferences facts db (display is) = .ok t ↔ operands facts (some db) is = .ok t := by
  induction h generalizing t with
  | nil => rw [display_nil, substituteReferences_nil, operands]
  | @text s is hs h ih =>
    rw [display_cons, operands_cons_eq_ok_iff, Item.operand, shown,
      substituteReferences_spacedText hs]
    simp only [ih]
    constructor
    · rintro ⟨z, hz, rfl⟩
      exact ⟨_, z, rfl, hz, rfl⟩
    · rintro ⟨x, z, hx, hz, rfl⟩
      exact ⟨z, hz, by rw [Except.ok.inj hx]⟩
  | @operand i is hi hnext h ih =>
    have hwritten := hi.written
    rw [display_cons, operands_cons_eq_ok_iff,
      substituteReferences_append (.inl hwritten.isNormalWord.quoteFree)
        (fun m hm => hwritten.isSelfContained hm) (exists_blank hnext h)]
    simp only [ih, hwritten.substituted]

/-- The text of a phrase has no literals. -/
theorem Phrase.quoteFree_display (h : Phrase is) : quoteFree (display is) = true := by
  obtain ⟨w, ws, hdisplay, hw, hws⟩ := h.exists_joined
  rw [hdisplay]
  exact quoteFree_joined hw.quoteFree fun v hv => (hws v hv).quoteFree

/-- The expression of a phrase is blank if its text is. -/
theorem Phrase.allBlank_operands (h : Phrase is) (ht : operands facts (some db) is = .ok t)
    (hblank : Unicode.allBlank (display is) = true) : Unicode.allBlank t = true := by
  induction h generalizing t with
  | nil =>
    rw [operands] at ht
    exact Except.ok.inj ht ▸ hblank
  | text hs h ih =>
    obtain ⟨x, z, hx, hz, rfl⟩ := operands_cons_eq_ok_iff.1 ht
    rw [Item.operand] at hx
    rw [display_cons, shown, Unicode.allBlank, List.all_append, Bool.and_eq_true] at hblank
    rw [Unicode.allBlank, List.all_append, Bool.and_eq_true, ← Except.ok.inj hx]
    exact ⟨hblank.1, ih hz hblank.2⟩
  | @operand i is hi hnext h ih =>
    obtain ⟨x, z, hx, hz, rfl⟩ := operands_cons_eq_ok_iff.1 ht
    rw [display_cons, Unicode.allBlank, List.all_append, Bool.and_eq_true] at hblank
    rw [Unicode.allBlank, List.all_append, Bool.and_eq_true]
    refine ⟨?_, ih hz hblank.2⟩
    cases hi.written with
    | value hstr hsign hshown hoperand =>
      rw [hoperand, Value.operandText_of_head? hsign] at hx
      rw [← Except.ok.inj hx, ← hshown]
      exact hblank.1
    | reference hpair hshown =>
      have hpoint := List.all_eq_true.1 hblank.1 '.' (by simp [hshown, writtenReference])
      exact absurd hpoint (by decide)

/-- The parentheses of the expression of a phrase are those of its text, and pairs around values. -/
theorem Phrase.openAfter_operands (h : Phrase is) (ht : operands facts (some db) is = .ok t)
    (d : Nat) : openAfter d (codeOf t) = openAfter d (display is) := by
  induction h generalizing t d with
  | nil =>
    rw [operands] at ht
    rw [← Except.ok.inj ht, codeOf_nil, display_nil]
  | @text s is hs h ih =>
    obtain ⟨x, z, hx, hz, rfl⟩ := operands_cons_eq_ok_iff.1 ht
    rw [Item.operand] at hx
    rw [← Except.ok.inj hx, codeOf_append_of_quoteFree hs.quoteFree, display_cons, shown]
    exact (SameDepth.refl s.toList).append (ih hz) d
  | @operand i is hi hnext h ih =>
    obtain ⟨x, z, hx, hz, rfl⟩ := operands_cons_eq_ok_iff.1 ht
    obtain ⟨v, rfl⟩ := hi.written.exists_operandText hx
    have hnot {c : Char} (hc : c ∈ ['^', '<', '=', '(', ')', '\'', '"']) : c ∉ i.shown :=
      not_mem_of_all_isOperandChar hi.written.all_isOperandChar hc
    have hpair := v.sameDepth_operandText.append (.refl (codeOf z)) d
    rw [v.isComplete_operandText.codeOf_append, hpair, List.nil_append, ih hz, display_cons,
      openAfter_append_of_not_mem (hnot (by simp)) (hnot (by simp))]

/-- Normalizing keeps the text of a phrase. -/
theorem Phrase.normalizeCondition_display (h : Phrase is) :
    normalizeCondition (display is) = display is := by
  obtain ⟨w, ws, hjoined, hw, hws⟩ := h.exists_joined
  rw [normalizeCondition_of_quoteFree h.quoteFree_display, hjoined, normalizeCode_joined hw hws]

theorem Phrase.allBlank_display_eq_false (h : Phrase is)
    (ht : operands facts (some db) is = .ok t) {e : Expr} (he : Expr.parse t = .ok e) :
    Unicode.allBlank (display is) = false := by
  cases hblank : Unicode.allBlank (display is) with
  | false => rfl
  | true =>
    have hnot := allBlank_of_parse he
    rw [h.allBlank_operands ht hblank] at hnot
    exact hnot

theorem Phrase.balanced_display (h : Phrase is) (ht : operands facts (some db) is = .ok t)
    {e : Expr} (he : Expr.parse t = .ok e) : balanced (display is) = true := by
  have hbalanced := balanced_of_parse he
  rwa [balanced, h.openAfter_operands ht, ← codeOf_of_quoteFree h.quoteFree_display] at hbalanced

end

end Item

/-! ### Formulas -/

/-- The text of a formula with the standard settings is the text of its items. -/
theorem Formula.text_eq_display {f : Formula} (hf : f.settings = .standard) :
    f.text = Item.display f.items := by
  have hflatten (ts : List (List Char)) : [].intercalate ts = ts.flatten := by
    induction ts with
    | nil => rfl
    | cons t ts ih =>
      cases ts with
      | nil => rfl
      | cons u ts =>
        rw [List.intercalate_cons_cons, ih, List.append_nil]
        rfl
  rw [text, hf, Item.display]
  exact hflatten _

theorem Formula.compute_eq_ok_iff {f : Formula} {facts : Facts} {special : Option Facts}
    {v : Value} :
    f.compute facts special = .ok v ↔
      ∃ t, Item.operands facts special f.items = .ok t ∧ evaluate t = .ok v := by
  rw [compute]
  cases Item.operands facts special f.items <;> simp

/-- **Formulas are conditions.** If the items of a formula are operands with text between any two of
them, and signs and words with blanks around them are all that is in the text, then the formula has
the value of its text as a condition, whatever the facts say. -/
theorem Formula.compute_eq_ok_iff_evaluateCondition {f : Formula} (hf : f.settings = .standard)
    (h : Item.Phrase f.items) (facts db : Facts) (v : Value) :
    f.compute facts (some db) = .ok v ↔
      standard.evaluateCondition f.text (.given facts) (.given db) = .ok v := by
  obtain ⟨w, ws, hjoined, hw, hws⟩ := h.exists_joined
  have hsubstitute : ∀ t, standard.substitute facts db (Item.display f.items) = .ok t ↔
      Item.operands facts (some db) f.items = .ok t := by
    intro t
    rw [substitute_of_opensApart h.quoteFree_display (hjoined ▸ opensApart_joined hw hws),
      h.substituted]
  rw [text_eq_display hf, evaluateCondition_eq_ok_iff_substitute, h.normalizeCondition_display,
    compute_eq_ok_iff]
  simp only [hsubstitute]
  constructor
  · rintro ⟨t, ht, hv⟩
    obtain ⟨e, he, -⟩ := evaluate_eq_ok_iff.1 hv
    exact ⟨h.allBlank_display_eq_false ht he, h.balanced_display ht he, t, ht, hv⟩
  · rintro ⟨-, -, t, ht, hv⟩
    exact ⟨t, ht, hv⟩

/-- The reference to the fact of `textFact`. -/
def textReference (special : Bool) : Reference :=
  { (textFact "").toReference with special := special }

theorem built_textReference (special : Bool) : (textReference special).toTriplet.Built where
  settings := rfl
  pfx := by cases special <;> decide +kernel
  name n hn := by
    cases hn
    decide +kernel
  value v hv := by cases hv
  comment := by cases special <;> decide +kernel

/-- The formula `$A.B == A.B or ( not 5 < 3.5 )`, in which only the first reference has a mark. -/
def sameTexts : Formula :=
  ⟨[.reference (textReference false), .text " == ", .reference (textReference true),
    .text " or ( not ", .number (.int 5), .text " < ", .number (.float 3.5), .text " ) "],
    .standard⟩

/-- A text that looks like a reference stands for itself in both ways. -/
theorem Formula.sameTexts_evaluateCondition :
    sameTexts.settings = .standard ∧ Item.Phrase sameTexts.items ∧
      sameTexts.compute (.ofText "C.D") (some (.ofText "C.D")) = .ok (.bool true) ∧
      standard.evaluateCondition sameTexts.text (.given (.ofText "C.D")) (.given (.ofText "C.D")) =
        .ok (.bool true) := by
  have hphrase : Item.Phrase sameTexts.items := by
    refine .operand (.reference (built_textReference false) rfl rfl) (by simp) ?_
    refine .text (isSpacedText_of_symbols ["=="] (by decide) (by decide)) ?_
    refine .operand (.reference (built_textReference true) rfl rfl) (by simp) ?_
    refine .text (isSpacedText_of_symbols ["or", "(", "not"] (by decide) (by decide)) ?_
    refine .operand (.number (by decide +kernel)) (by simp) ?_
    refine .text (isSpacedText_of_symbols ["<"] (by decide) (by decide)) ?_
    refine .operand (.number (by decide +kernel)) (by simp) ?_
    exact .text (isSpacedText_of_symbols [")"] (by decide) (by decide)) .nil
  have hvalue : sameTexts.compute (.ofText "C.D") (some (.ofText "C.D")) = .ok (.bool true) := by
    decide +kernel
  exact ⟨rfl, hphrase, hvalue,
    (Formula.compute_eq_ok_iff_evaluateCondition rfl hphrase _ _ _).1 hvalue⟩

end TripletFacts
