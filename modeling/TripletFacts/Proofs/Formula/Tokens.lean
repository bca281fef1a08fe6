import Mathlib.Data.List.Forall2
import TripletFacts.Proofs.Expr.Finite
import TripletFacts.Proofs.Facts.OwnKey
import TripletFacts.Proofs.Formula.Phrase
import TripletFacts.Proofs.Triplet.Made

/-!
# The tokens of a formula

To compute a formula its items are written one after the other, and the text is split into tokens as
a whole. If a text stands between any two other items, and the texts of the formula begin and end
with blanks, then no token of the whole text belongs to two items: a token of a text ends before the
blank at the end of the text at the latest, and a token of an operand before the blank behind it. So
every item keeps the tokens that it has by itself.

## Main definitions

* `IsOperandTokens`: a number, a text or a name, or a negative number in parentheses.
* `Item.HasValue`: the value that is put in for an item.
* `Item.Spaced`: items between which there are blanks.
* `Item.Contributes`: the tokens of an item by itself.

## Main results

* `tokens?_append_of_getLast?`: the tokens of a text that ends with a blank, and of what follows it.
* `Value.exists_tokens?_operandText`: the tokens of an operand.
* `Formula.items_contribute_own_tokens`: the tokens of a formula, item by item.
-/

namespace TripletFacts

/-! ### Texts that end with a blank -/

section

variable {x y : List Char} {us : List Token}

/-- A token in front of the last blank of a text does not depend on what follows the text. -/
theorem Token.read?_append_of_getLast? {c : Char} {cs : List Char} {t : Token} {n : Nat}
    (hlast : cs.getLast?.any Unicode.isBlank = true) (h : read? c cs = some (t, n))
    (y : List Char) : read? c (cs ++ y) = some (t, n) := by
  cases hc : isQuote c with
  | true =>
    rw [read?_quote hc, Option.map_eq_some_iff] at h ⊢
    obtain ⟨⟨s, m⟩, hs, heq⟩ := h
    obtain ⟨-, rfl⟩ := Prod.mk.inj heq
    refine ⟨(s, m), ?_, heq⟩
    have hself := (splitLiteral_of_readString (toOption_eq_some_iff.1 hs)).2 (cs.drop m ++ y)
    rw [← List.append_assoc, List.take_append_drop] at hself
    rw [hself]
    rfl
  | false =>
    obtain ⟨z, b, rfl⟩ : ∃ z b, cs = z ++ [b] := by
      rcases List.eq_nil_or_concat cs with rfl | ⟨z, b, rfl⟩
      · cases hlast
      · exact ⟨z, b, List.concat_eq_append⟩
    have hb : stops b = true := stops_of_isBlank (by simpa using hlast)
    rw [read?_append (b := [b]) (by simpa using hb) hc] at h
    rw [List.append_assoc, read?_append (b := [b] ++ y) (by simpa using hb) hc, h]

/-- The tokens of a text that ends with a blank, and then those of what follows it. -/
theorem tokens?_append_of_getLast? (hlast : x.getLast?.all Unicode.isBlank = true)
    (h : tokens? x = some us) (y : List Char) : tokens? (x ++ y) = (tokens? y).map (us ++ ·) := by
  induction hn : x.length using Nat.strongRecOn generalizing x us with
  | ind k ih =>
    subst hn
    cases x with
    | nil =>
      rw [tokens?_nil] at h
      obtain rfl := Option.some.inj h
      simp
    | cons c cs =>
      have hrest (n : Nat) : (cs.drop n).getLast?.all Unicode.isBlank = true := by
        rw [List.getLast?_drop]
        split
        · rfl
        · cases hcs : cs.getLast? with
          | none => rfl
          | some b => simpa [List.getLast?_cons, hcs] using hlast
      cases hc : Unicode.isBlank c with
      | true =>
        rw [tokens?_blank hc] at h
        rw [List.cons_append, tokens?_blank hc]
        exact ih cs.length (by simp) (hrest 0) h rfl
      | false =>
        have hlast : cs.getLast?.any Unicode.isBlank = true := by
          cases hcs : cs.getLast? with
          | none => simp [List.getLast?_cons, hcs, hc] at hlast
          | some b => simpa [List.getLast?_cons, hcs] using hlast
        rw [tokens?_cons hc, Option.bind_eq_some_iff] at h
        obtain ⟨⟨t, n⟩, hread, h⟩ := h
        obtain ⟨vs, hvs, rfl⟩ := Option.map_eq_some_iff.1 h
        rw [List.cons_append, tokens?_cons hc, Token.read?_append_of_getLast? hlast hread y]
        dsimp only [Option.bind_some]
        rw [List.drop_append_of_le_length (Token.le_of_read?_eq_some hread),
          ih _ (length_drop_lt_cons n c cs) (hrest n) hvs rfl, Option.map_map]
        rfl

end

/-! ### Operands -/

/-- The tokens of an operand: a number, a text or a name, or a negative number in parentheses. -/
inductive IsOperandTokens : List Token → Prop
  | number (n : Number) : IsOperandTokens [.number n]
  | str (s : String) : IsOperandTokens [.str s]
  | ident (name : String) : IsOperandTokens [.ident name]
  | negative (n : Number) :
      IsOperandTokens [.lparen, .op (.binary (.compute .sub)), .number n, .rparen]

/-- A finite number is written as a numeral, perhaps behind a minus sign. -/
theorem Number.exists_numeral {n : Number} (h : n.toFloat.isFinite = true) :
    ∃ w d m, (n.text = w ∨ n.text = '-' :: w) ∧ quoteFree w = true ∧
      Decimal.read? w = some d ∧ Token.readNumber 0 w = .ok m := by
  have hsigned {b : Bool} {w : List Char} (hw : n.text = (if b then ['-'] else []) ++ w) :
      n.text = w ∨ n.text = '-' :: w := by
    cases b with
    | true => exact .inr hw
    | false => exact .inl hw
  cases n with
  | int i =>
    obtain ⟨m, hm⟩ := Value.exists_readNumber_natAbs i
    exact ⟨_, _, m, hsigned (b := i < 0) (by simp [text, integerText]),
      Value.quoteFree_toDigits _, Value.read?_toDigits _, hm⟩
  | float x =>
    obtain ⟨d, hd, hm⟩ := Value.exists_readNumber_writeMagnitude h
    exact ⟨_, d, _, hsigned (Layout.literal.write_of_isFinite h),
      quoteFree_of_all_isNumeralChar (Layout.literal.all_writeMagnitude x), hd, hm⟩

namespace Value

theorem exists_tokens?_toValue {n : Number} (h : n.toFloat.isFinite = true) :
    ∃ ts, tokens? n.toValue.operandText = some ts ∧ IsOperandTokens ts := by
  obtain ⟨w, d, m, hsign, hquote, hd, hm⟩ := Number.exists_numeral h
  have hliteral : n.toValue.literal = n.text := by cases n <;> rfl
  have hnumber : n.toValue.number? = some n := by cases n <;> rfl
  rcases hsign with hw | hw
  · rw [operandText_of_head? (hliteral ▸ hw ▸ head?_ne_minus_of_read? hd), hliteral, hw]
    exact ⟨_, tokens?_numeral hd hm, .number m⟩
  · rw [operandText_minus hnumber (hliteral.trans hw)]
    exact ⟨_, tokens?_minus hquote hd hm, .negative m⟩

/-- The tokens of the operand of a value. -/
theorem exists_tokens?_operandText {v : Value} (hv : v.IsFinite) :
    ∃ ts, tokens? v.operandText = some ts ∧ IsOperandTokens ts := by
  cases v with
  | bool b =>
    refine ⟨[.ident (if b then "True" else "False")], ?_, .ident _⟩
    cases b <;> decide +kernel
  | int i => exact exists_tokens?_toValue (n := .int i) (Binary64.isFinite_ofInt i)
  | float x => exact exists_tokens?_toValue (n := .float x) (isFinite_float.1 hv)
  | str s => exact ⟨_, tokens?_literal_str s, .str s⟩

/-- An operand ends where the text behind it begins with a character that goes on with nothing. -/
theorem tokens?_operandText_append (v : Value) {y : List Char} (hy : y.head?.all stops = true) :
    tokens? (v.operandText ++ y) =
      (tokens? v.operandText).bind fun ts => (tokens? y).map (ts ++ ·) := by
  rcases v.quoteFree_or_isClosed_operandText with hquote | ⟨q, body, hq, htext, hclosed⟩
  · exact tokens?_append hquote hy
  · rw [htext, List.cons_append, tokens?_literal hq, hclosed]

end Value

/-! ### The values of items -/

namespace Item

/-- Whether an item is a text of the expression language. -/
def isText : Item → Bool
  | .text _ => true
  | _ => false

section

variable (facts : Facts) (special : Option Facts)

/-- The value that is put in for an item: a number or a truth value, the value of the fact that a
reference points at, or the result of a formula. -/
inductive HasValue : Item → Value → Prop
  | number (n : Number) : HasValue (number n) n.toValue
  | bool (b : Bool) : HasValue (bool b) (.bool b)
  | reference {r : Reference} {v : Value} (h : r.resolve facts special = .ok v) :
      HasValue (reference r) v
  | formula {items : List Item} {s : Settings} {v : Value}
      (h : Formula.compute ⟨items, s⟩ facts special = .ok v) : HasValue (formula items s) v

/-- The tokens of an item by itself: those of its text, or those of the operand of its value. -/
inductive Contributes : Item → List Token → Prop
  | text {s : String} {ts : List Token} (h : tokens? s.toList = some ts) : Contributes (.text s) ts
  | value {i : Item} {v : Value} {ts : List Token} (h : HasValue facts special i v)
      (hts : tokens? v.operandText = some ts) (hshape : IsOperandTokens ts) : Contributes i ts

end

/-- Items between which there are blanks: one of two neighbours is a text, and a text begins and
ends with a blank and has tokens of its own. -/
structure Spaced (is : List Item) : Prop where
  between : is.IsChain fun i j => i.isText = true ∨ j.isText = true
  text : ∀ s, .text s ∈ is → s.toList.head?.any Unicode.isBlank = true ∧
    s.toList.getLast?.any Unicode.isBlank = true ∧ (tokens? s.toList).isSome = true

section

variable {facts : Facts} {special : Option Facts} {i : Item} {is : List Item} {v : Value}

theorem exists_of_isText (h : i.isText = true) : ∃ s, i = .text s := by
  cases i with
  | text s => exact ⟨s, rfl⟩
  | _ => cases h

theorem Spaced.tail (h : Spaced (i :: is)) : Spaced is :=
  ⟨h.between.tail, fun s hs => h.text s (List.mem_cons_of_mem i hs)⟩

/-- An item with a value is put in as an operand. -/
theorem HasValue.operand (h : HasValue facts special i v) :
    i.operand facts special = .ok v.operandText := by
  cases h with
  | number n => rw [Item.operand]
  | bool b => rw [Item.operand]
  | reference h => rw [Item.operand, h]; rfl
  | @formula items s _ h =>
    rw [Formula.compute] at h
    rw [Item.operand]
    cases hcode : operands facts special items with
    | error e => simp [hcode] at h
    | ok code =>
      simp only [hcode] at h
      simp only [h]
      rfl

/-- What follows an operand is nothing, or begins with a blank. -/
theorem Spaced.all_stops (h : Spaced (i :: is)) (hi : i.isText = false) {code : List Char}
    (hcode : operands facts special is = .ok code) : code.head?.all stops = true := by
  cases is with
  | nil =>
    rw [operands] at hcode
    cases hcode
    rfl
  | cons j is =>
    have hj : j.isText = true := (List.isChain_cons_cons.1 h.between).1.resolve_left (by simp [hi])
    obtain ⟨s, rfl⟩ := exists_of_isText hj
    obtain ⟨x, z, hx, -, rfl⟩ := operands_cons_eq_ok_iff.1 hcode
    obtain rfl : s.toList = x := by
      rw [operand] at hx
      exact Except.ok.inj hx
    have hblank := (h.text s (by simp)).1
    cases hs : s.toList with
    | nil => simp [hs] at hblank
    | cons c cs => simpa using stops_of_isBlank (by simpa [hs] using hblank)

/-- The tokens of items are the tokens of each of them by itself, one after the other. -/
theorem Spaced.exists_tokens? (h : Spaced is)
    (hvalues : ∀ i ∈ is, i.isText = false → ∃ v, HasValue facts special i v ∧ v.IsFinite) :
    ∃ code tss, operands facts special is = .ok code ∧
      List.Forall₂ (Contributes facts special) is tss ∧ tokens? code = some tss.flatten := by
  induction is with
  | nil => exact ⟨[], [], by rw [operands], .nil, tokens?_nil⟩
  | cons i is ih =>
    obtain ⟨code, tss, hcode, htss, htokens⟩ :=
      ih h.tail fun j hj => hvalues j (List.mem_cons_of_mem i hj)
    cases hi : i.isText with
    | true =>
      obtain ⟨s, rfl⟩ := exists_of_isText hi
      obtain ⟨-, hlast, hs⟩ := h.text s List.mem_cons_self
      obtain ⟨ts, hts⟩ := Option.isSome_iff_exists.1 hs
      have hlast : s.toList.getLast?.all Unicode.isBlank = true := by
        cases hs : s.toList.getLast? with
        | none => rfl
        | some c => simpa [hs] using hlast
      refine ⟨s.toList ++ code, ts :: tss,
        operands_cons_eq_ok_iff.2 ⟨_, code, by rw [operand], hcode, rfl⟩,
        .cons (.text hts) htss, ?_⟩
      rw [tokens?_append_of_getLast? hlast hts, htokens]
      rfl
    | false =>
      obtain ⟨v, hv, hfinite⟩ := hvalues i List.mem_cons_self hi
      obtain ⟨ts, hts, hshape⟩ := Value.exists_tokens?_operandText hfinite
      refine ⟨v.operandText ++ code, ts :: tss,
        operands_cons_eq_ok_iff.2 ⟨_, code, hv.operand, hcode, rfl⟩,
        .cons (.value hv hts hshape) htss, ?_⟩
      rw [v.tokens?_operandText_append (h.all_stops hi hcode), hts, htokens]
      rfl

end

end Item

/-! ### Formulas -/

theorem Triplet.literalValue_eq_ok_iff {t : Triplet} {v : Value} :
    t.literalValue = .ok v ↔ t.value = some (.literal v) := by
  unfold literalValue
  cases t.value with
  | none => simp
  | some w => cases w <;> simp [FactValue.literal?]

section

variable {f : Formula} {facts : Facts} {special : Option Facts}
  (hfacts : ∀ t ∈ facts.entries, t.Made) (hspecial : ∀ s ∈ special, ∀ t ∈ s.entries, t.Made)

include hfacts hspecial

/-- The value that a reference points at is finite. -/
theorem Reference.isFinite_of_resolve {r : Reference} {v : Value}
    (h : r.resolve facts special = .ok v) : v.IsFinite := by
  unfold resolve at h
  split at h
  · cases h
  rename_i source hsource
  split at h
  · cases h
  rename_i t ht
  have hmade : t.Made := by
    have hmem := (Facts.get_eq_ok_iff.1 ht).2.1
    cases hr : r.special with
    | true =>
      rw [hr, if_pos rfl] at hsource
      exact hspecial source hsource t hmem
    | false =>
      rw [hr, if_neg Bool.false_ne_true] at hsource
      exact hfacts t (Option.some.inj hsource ▸ hmem)
  cases v with
  | float x =>
    exact Value.isFinite_float.2 (hmade.isFinite (Triplet.literalValue_eq_ok_iff.1 h))
  | bool b => exact Value.isFinite_bool b
  | int i => exact Value.isFinite_int i
  | str s => exact Value.isFinite_str s

/-- The values that are put in for the items of a formula are finite. -/
theorem Item.HasValue.isFinite (hf : f.Made) {i : Item} (hi : i ∈ f.items) {v : Value}
    (h : i.HasValue facts special v) : v.IsFinite := by
  cases h with
  | number n =>
    cases n with
    | int i => exact Value.isFinite_int i
    | float x => exact Value.isFinite_float.2 (hf.isFinite hi)
  | bool b => exact Value.isFinite_bool b
  | reference h => exact Reference.isFinite_of_resolve hfacts hspecial h
  | @formula items s _ h =>
    unfold Formula.compute at h
    split at h
    · cases h
    · exact isFinite_of_evaluate h

/-- **Every item contributes its own tokens and no others.** If a text stands between any two other
items of a formula, if the texts have tokens of their own and begin and end with blanks, and if
every other item has a value, then the formula is computed from a text whose tokens are those of its
items, one item after the other: those of a text, and those of the operand of a value, which is a
single number, text or name, or a negative number in parentheses. -/
theorem Formula.items_contribute_own_tokens (hf : f.Made) (hspaced : Item.Spaced f.items)
    (hvalues : ∀ i ∈ f.items, i.isText = false → ∃ v, i.HasValue facts special v) :
    ∃ code tss, Item.operands facts special f.items = .ok code ∧
      f.compute facts special = evaluate code ∧
      List.Forall₂ (Item.Contributes facts special) f.items tss ∧
      tokens? code = some tss.flatten := by
  have hfinite : ∀ i ∈ f.items, i.isText = false →
      ∃ v, i.HasValue facts special v ∧ v.IsFinite := fun i hi htext =>
    (hvalues i hi htext).imp fun v hv => ⟨hv, hv.isFinite hfacts hspecial hf hi⟩
  obtain ⟨code, tss, hcode, htss, htokens⟩ := hspaced.exists_tokens? hfinite
  exact ⟨code, tss, hcode, by rw [compute, hcode], htss, htokens⟩

end

/-- The formula `(-2) == $A.B or True`, in which the truth value is the result of `1 < 2`. -/
def mixedItems : Formula :=
  ⟨[.number (.int (-2)), .text " == ", .reference (textReference false), .text " or ",
    .formula [.number (.int 1), .text " < ", .number (.int 2)] .standard], .standard⟩

theorem made_mixedItems : mixedItems.Made := by
  have hreference : (textReference false).toTriplet.Made := by
    refine .build (d := { pfx := "A", name := some "B" }) (s := .standard) (by simp) ?_
    exact Draft.build_eq_ok_iff.2 ⟨_, _, _, _, by decide +kernel, by decide +kernel, rfl, rfl, rfl⟩
  have hinner : Formula.Made ⟨[.number (.int 1), .text " < ", .number (.int 2)], .standard⟩ := by
    refine @Formula.Made.build [.number (.int 1), .text " < ", .number (.int 2)] _ _ ?_ rfl
    simp only [List.forall_mem_cons, List.not_mem_nil, false_implies, implies_true, and_true]
    exact ⟨.number _, .text _, .number _⟩
  refine @Formula.Made.build [.number (.int (-2)), .text " == ",
    .triplet (textReference false).toTriplet, .text " or ",
    .formula ⟨[.number (.int 1), .text " < ", .number (.int 2)], .standard⟩] _ _ ?_ rfl
  simp only [List.forall_mem_cons, List.not_mem_nil, false_implies, implies_true, and_true]
  exact ⟨.number _, .text _, .triplet hreference, .text _, .formula hinner⟩

/-- A negative number, a text with a quote and the result of a formula. -/
theorem mixedItems_contribute_own_tokens :
    let facts := Facts.ofText "it's"
    mixedItems.Made ∧ Item.Spaced mixedItems.items ∧
      ∃ code tss, Item.operands facts none mixedItems.items = .ok code ∧
        mixedItems.compute facts none = evaluate code ∧
        List.Forall₂ (Item.Contributes facts none) mixedItems.items tss ∧
        tokens? code = some tss.flatten := by
  intro facts
  have hfacts : ∀ t ∈ facts.entries, t.Made := by
    intro t ht
    obtain rfl : t = textFact "it's" := List.mem_singleton.1 ht
    refine .build (d := { pfx := "A", name := some "B", value := some (.literal (.str "it's")) })
      (s := .standard) (fun v hv => Option.some.inj hv ▸ .literal _) ?_
    exact Draft.build_eq_ok_iff.2
      ⟨_, _, _, _, by decide +kernel, by decide +kernel, rfl, rfl, rfl⟩
  have hspaced : Item.Spaced mixedItems.items := by
    refine ⟨by simp [mixedItems, Item.isText], fun s hs => ?_⟩
    obtain rfl | rfl : s = " == " ∨ s = " or " := by simpa [mixedItems] using hs
    · exact ⟨by decide +kernel, by decide +kernel, by decide +kernel⟩
    · exact ⟨by decide +kernel, by decide +kernel, by decide +kernel⟩
  refine ⟨made_mixedItems, hspaced,
    Formula.items_contribute_own_tokens hfacts (by simp) made_mixedItems hspaced ?_⟩
  have hreference : (textReference false).resolve facts none = .ok (.str "it's") := by
    decide +kernel
  have hinner : Formula.compute ⟨[.number (.int 1), .text " < ", .number (.int 2)], .standard⟩
      facts none = .ok (.bool true) := by
    decide +kernel
  have htext {s : String} (h : (Item.text s).isText = false) :
      ∃ v, (Item.text s).HasValue facts none v := by
    cases h
  simp only [mixedItems, List.forall_mem_cons, List.not_mem_nil, false_implies, implies_true,
    and_true]
  exact ⟨fun _ => ⟨_, .number _⟩, htext, fun _ => ⟨_, .reference hreference⟩, htext,
    fun _ => ⟨_, .formula hinner⟩⟩

end TripletFacts
