import TripletFacts.Formula.Compute
import TripletFacts.Proofs.Condition.Splicing
import TripletFacts.Proofs.Facts.OwnKey

/-!
# Facts in another arrangement

Two collections state the same if they have the same keys with the same values. The order of the
facts, their comments and their marks may differ. Conditions and formulas ask for facts by their
keys and take nothing but values from them, so that they cannot tell such collections apart.

The error of a condition shows the condition and is the same in both. The error of a formula may
show the fact that it is about, with its comment, and then only its category is the same.

## Main definitions

* `Facts.Rearranged`: collections that state the same.

## Main results

* `Facts.Rearranged.map_value_find?`: what is found under a key has the same value.
* `Facts.Rearranged.twin`: collections that state the same differ in no texts.
* `Formula.mapError_compute`: formulas over collections that state the same.
* `Facts.Rearranged.same_results`: conditions and formulas do not see the arrangement.
-/

namespace TripletFacts

/-! ### Collections that state the same -/

/-- What a triplet states under which key. -/
def Triplet.content (t : Triplet) : Key × Option FactValue := (t.key, t.value)

namespace Facts

variable {f g facts facts' db db' : Facts}

/-- Two collections state the same, in any order. -/
structure Rearranged (f g : Facts) : Prop where
  settings : f.settings = g.settings
  content : (f.entries.map Triplet.content).Perm (g.entries.map Triplet.content)

theorem Rearranged.symm (h : f.Rearranged g) : g.Rearranged f := ⟨h.settings.symm, h.content.symm⟩

/-- The value under a key is what the collection states. -/
theorem map_value_find?_eq_some_iff {k : Key} {v : Option FactValue} :
    (f.find? k).map (fun t => t.value) = some v ↔ (k, v) ∈ f.entries.map Triplet.content := by
  simp only [Option.map_eq_some_iff, find?_eq_some_iff, List.mem_map, Triplet.content,
    Prod.mk.injEq, and_assoc]

theorem Rearranged.map_value_find? (h : f.Rearranged g) (k : Key) :
    (f.find? k).map (fun t => t.value) = (g.find? k).map (fun t => t.value) := by
  refine Option.ext fun v => ?_
  rw [map_value_find?_eq_some_iff, map_value_find?_eq_some_iff, h.content.mem_iff]

/-- What is found under a key in one collection and in the other one. -/
theorem Rearranged.rel_find? (h : f.Rearranged g) (k : Key) :
    Option.Rel (fun t u : Triplet => t.value = u.value) (f.find? k) (g.find? k) := by
  have hk := h.map_value_find? k
  generalize f.find? k = x at hk ⊢
  generalize g.find? k = y at hk ⊢
  cases x with
  | none =>
    obtain rfl := Option.map_eq_none_iff.1 hk.symm
    exact .none
  | some t =>
    rw [Option.map_some, eq_comm, Option.map_eq_some_iff] at hk
    obtain ⟨u, rfl, hvalue⟩ := hk
    exact .some hvalue.symm

/-- Collections that state the same differ in no texts. -/
theorem Rearranged.twin (h : f.Rearranged g) : f.Twin g where
  settings := h.settings
  find? k := by
    have hk := h.rel_find? k
    generalize f.find? k = x at hk ⊢
    generalize g.find? k = y at hk ⊢
    cases hk with
    | none => exact .none
    | some hvalue => exact .some (.inl hvalue)

/-! ### Looking up -/

/-- The facts that two collections have under a prefix and a name state the same, or both look-ups
fail in the same way. -/
theorem Rearranged.get_cases (h : f.Rearranged g) (pfx : String) (name : Option String) :
    (∃ e, f.get pfx name = .error e ∧ g.get pfx name = .error e) ∨
      ∃ t u, f.get pfx name = .ok t ∧ g.get pfx name = .ok u ∧ t.value = u.value := by
  rw [get, get, h.twin.lookupKey]
  cases g.lookupKey pfx name with
  | error e => exact .inl ⟨e, rfl, rfl⟩
  | ok k =>
    have hk := h.rel_find? k
    simp only [Except.bind, fetch]
    generalize f.find? k = x at hk ⊢
    generalize g.find? k = y at hk ⊢
    cases hk with
    | none => exact .inl ⟨_, rfl, rfl⟩
    | some hvalue => exact .inr ⟨_, _, rfl, rfl, hvalue⟩

/-- The operand that a condition takes from a fact is its value. -/
theorem Rearranged.operandOf (h : f.Rearranged g) : f.operandOf = g.operandOf := by
  funext pfx name written
  unfold Facts.operandOf
  rcases h.get_cases (Unicode.upper (String.ofList pfx))
    (some (Unicode.upper (String.ofList name))) with ⟨e, hf, hg⟩ | ⟨t, u, hf, hg, hvalue⟩
  · rw [hf, hg]
  · simp only [hf, hg, hvalue]

end Facts

/-! ### Conditions -/

namespace Settings

variable {s : Settings} {facts facts' db db' : Facts}

theorem substitute_eq_of_rearranged (hfacts : facts.Rearranged facts') (hdb : db.Rearranged db') :
    s.substitute facts db = s.substitute facts' db' := by
  have hmarked : s.substituteMarked facts = s.substituteMarked facts' := by
    unfold substituteMarked
    rw [hfacts.operandOf]
  have hbare : s.substituteBare db = s.substituteBare db' := by
    unfold substituteBare
    rw [hdb.operandOf]
  unfold substitute
  rw [resolvePresence_eq hfacts.twin hdb.twin, hmarked, hbare]

/-- A condition has the same result over collections that state the same. -/
theorem evaluateCondition_eq_of_rearranged (hfacts : facts.Rearranged facts')
    (hdb : db.Rearranged db') (condition : List Char) :
    s.evaluateCondition condition (.given facts) (.given db) =
      s.evaluateCondition condition (.given facts') (.given db') := by
  have htext : s.expressionText condition (.given facts) (.given db) =
      s.expressionText condition (.given facts') (.given db') := by
    unfold expressionText
    simp only [FactSource.isBlank, sourceFacts, FactSource.facts]
    rw [substitute_eq_of_rearranged hfacts hdb]
    rfl
  rw [evaluateCondition, evaluateCondition, htext]

end Settings

/-! ### Formulas -/

section Formulas

variable {facts facts' : Facts} {special special' : Option Facts}

/-- What a fact states as a literal does not depend on its comment and its marks, and neither does
the category of its error. -/
theorem Triplet.mapError_literalValue {t u : Triplet} (h : t.value = u.value) :
    t.literalValue.mapError EvalError.category = u.literalValue.mapError EvalError.category := by
  unfold literalValue
  rw [h]
  cases u.value with
  | none => rfl
  | some v => cases hliteral : v.literal? <;> simp [hliteral, Except.mapError, EvalError.category]

/-- A reference has the same value in collections that state the same. -/
theorem Reference.mapError_resolve (hfacts : facts.Rearranged facts')
    (hspecial : Option.Rel Facts.Rearranged special special') (r : Reference) :
    (r.resolve facts special).mapError EvalError.category =
      (r.resolve facts' special').mapError EvalError.category := by
  have hsource : Option.Rel Facts.Rearranged (if r.special then special else some facts)
      (if r.special then special' else some facts') := by
    split
    · exact hspecial
    · exact .some hfacts
  unfold resolve
  generalize (if r.special then special else some facts) = x at hsource ⊢
  generalize (if r.special then special' else some facts') = y at hsource ⊢
  cases hsource with
  | none => rfl
  | some h =>
    rcases h.get_cases r.pfx r.name with ⟨e, hf, hg⟩ | ⟨t, u, hf, hg, hvalue⟩
    · simp only [hf, hg]
    · simp only [hf, hg]
      exact Triplet.mapError_literalValue hvalue

namespace Item

theorem operand_formula (items : List Item) (s : Settings) :
    (formula items s).operand facts special =
      (operands facts special items).bind fun code => (evaluate code).map Value.operandText := by
  rw [operand]
  cases operands facts special items <;> rfl

theorem operands_cons (i : Item) (is : List Item) : operands facts special (i :: is) =
    (i.operand facts special).bind fun code => (operands facts special is).map (code ++ ·) := by
  rw [operands]
  cases i.operand facts special <;> rfl

mutual

/-- An item has the same operand over collections that state the same. -/
theorem mapError_operand (hfacts : facts.Rearranged facts')
    (hspecial : Option.Rel Facts.Rearranged special special') : (i : Item) →
    (i.operand facts special).mapError EvalError.category =
      (i.operand facts' special').mapError EvalError.category
  | .text s => by rw [operand, operand]
  | number n => by rw [operand, operand]
  | bool b => by rw [operand, operand]
  | reference r => by
    rw [operand, operand]
    exact mapError_map_congr (Reference.mapError_resolve hfacts hspecial r) _
  | formula items s => by
    rw [operand_formula, operand_formula]
    exact mapError_bind_congr (mapError_operands hfacts hspecial items) fun _ => rfl

/-- Items have the same text over collections that state the same. -/
theorem mapError_operands (hfacts : facts.Rearranged facts')
    (hspecial : Option.Rel Facts.Rearranged special special') : (is : List Item) →
    (operands facts special is).mapError EvalError.category =
      (operands facts' special' is).mapError EvalError.category
  | [] => by rw [operands, operands]
  | i :: is => by
    rw [operands_cons, operands_cons]
    exact mapError_bind_congr (mapError_operand hfacts hspecial i) fun _ =>
      mapError_map_congr (mapError_operands hfacts hspecial is) _

end

end Item

theorem Formula.compute_eq_bind (f : Formula) :
    f.compute facts special = (Item.operands facts special f.items).bind evaluate := by
  rw [compute]
  cases Item.operands facts special f.items <;> rfl

/-- A formula has the same result over collections that state the same, or it fails for a reason of
the same category. -/
theorem Formula.mapError_compute (hfacts : facts.Rearranged facts')
    (hspecial : Option.Rel Facts.Rearranged special special') (f : Formula) :
    (f.compute facts special).mapError EvalError.category =
      (f.compute facts' special').mapError EvalError.category := by
  rw [compute_eq_bind, compute_eq_bind]
  exact mapError_bind_congr (Item.mapError_operands hfacts hspecial f.items) fun _ => rfl

end Formulas

/-! ### Results -/

namespace Facts

variable {facts facts' db db' : Facts}

/-- **The arrangement of facts is not seen.** Over collections that state the same a condition has
the same value, or the same error. A formula has the same value too, with or without facts for its
special references, or it has an error of the same category. -/
theorem Rearranged.same_results (hfacts : facts.Rearranged facts') (hdb : db.Rearranged db') :
    (∀ (s : Settings) condition, s.evaluateCondition condition (.given facts) (.given db) =
      s.evaluateCondition condition (.given facts') (.given db')) ∧
      ∀ f : Formula,
        (f.compute facts (some db)).mapError EvalError.category =
          (f.compute facts' (some db')).mapError EvalError.category ∧
        (f.compute facts none).mapError EvalError.category =
          (f.compute facts' none).mapError EvalError.category :=
  ⟨fun _ => Settings.evaluateCondition_eq_of_rearranged hfacts hdb, fun f =>
    ⟨f.mapError_compute hfacts (.some hdb), f.mapError_compute hfacts .none⟩⟩

/-- A fact that points at the fact of `textFact`. -/
def pointer (comment : Option String) : Triplet where
  pfx := "C"
  name := some "D"
  comment := comment
  bid := false
  special := false
  settings := .standard
  value := some (.reference (textFact "v").toReference)

/-- A text and a pointer to it. -/
def textFirst : Facts := (Facts.ofText "v").add (pointer none)

/-- The same facts in another order, with a comment and with a mark. -/
def textLast : Facts :=
  ((Facts.empty .standard).add (pointer (some "c"))).add { textFact "v" with bid := true }

theorem rearranged_textFirst : textFirst.Rearranged textLast where
  settings := rfl
  content := .swap _ _ _

/-- A condition has one value, and a formula fails with two messages of one category. -/
theorem same_results_textFirst :
    let f : Formula := ⟨[.reference (pointer none).toReference], .standard⟩
    textFirst.Rearranged textLast ∧
      Settings.standard.evaluateCondition "$A.B = A.B".toList (.given textLast) (.given textFirst) =
        .ok (.bool true) ∧
      (f.compute textFirst none).mapError EvalError.message =
        .error "Type error: $C.D=$A.B; is not a literal value" ∧
      (f.compute textLast none).mapError EvalError.message =
        .error "Type error: $C.D=$A.B\"c\"; is not a literal value" ∧
      (f.compute textLast none).mapError EvalError.category = .error .type := by
  intro f
  have hvalue : Settings.standard.evaluateCondition "$A.B = A.B".toList (.given textFirst)
      (.given textLast) = .ok (.bool true) := by
    decide +kernel
  have hfirst : (f.compute textFirst none).mapError EvalError.category = .error .type := by rfl
  obtain ⟨hcondition, hformula⟩ :=
    rearranged_textFirst.same_results rearranged_textFirst.symm
  refine ⟨rearranged_textFirst, (hcondition _ _).symm.trans hvalue, by rfl, by rfl,
    (hformula f).2.symm.trans hfirst⟩

end Facts

end TripletFacts
