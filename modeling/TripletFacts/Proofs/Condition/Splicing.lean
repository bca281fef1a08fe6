import TripletFacts.Proofs.Condition.Normalized
import TripletFacts.Proofs.Condition.Passes
import TripletFacts.Proofs.Expr.Variation
import TripletFacts.Proofs.Facts.Spread
import TripletFacts.Proofs.Regex.Replacing

/-!
# Texts of facts stay literals

Two runs of a condition over facts that differ in their texts only end alike: with the same error,
or with expressions that fill one template. Every pass over the condition keeps this, because it
changes code only, code has no quotes, and what it puts in is code without quotes or the literal of
a fact.

## Main definitions

* `Facts.Twin`: collections that differ in texts only.
* `EndAlike`: two runs that end alike.
* `textsOf`: the texts of the facts of two collections.
* `Template.FilledBy`: what it means for two texts to fill one template.

## Main results

* `endAlike_mapCode`, `endAlike_replaceM`: a pass over a template, and over a stretch of code.
* `Settings.endAlike_expressionText`: two runs of a condition.
* `exists_varied_tokens_of_pieces`: the tokens of two texts that fill one template.
* `Settings.texts_of_facts_stay_literals`: two runs over facts that differ in texts only.
-/

namespace TripletFacts

open Template

/-! ### Ending alike -/

/-- The places of a template have texts in both runs. -/
def Template.Bound (p q : Texts) (K : Template) : Prop :=
  ∀ x ∈ K.places, (p x).isSome = true ∧ (q x).isSome = true

/-- Two runs end alike: with the same error, or with texts that fill one template. `W` are the
literals that are written in it. -/
inductive EndAlike (p q : Texts) (W : List (List Char)) :
    Except EvalError (List Char) → Except EvalError (List Char) → Prop
  | failed (e : EvalError) : EndAlike p q W (.error e) (.error e)
  | filled {K : Template} (hK : K.WellFormed) (hW : K.literals = W) (hb : K.Bound p q) :
      EndAlike p q W (.ok (fill p K)) (.ok (fill q K))

namespace EndAlike

variable {p q : Texts} {W : List (List Char)} {r r' s s' : Except EvalError (List Char)}

/-- Both runs have the same code. -/
theorem code {t : List Char} (ht : quoteFree t = true) : EndAlike p q [] (.ok t) (.ok t) := by
  have h := filled (p := p) (q := q) (K := [.code t]) (W := []) ⟨ht, trivial⟩ rfl
    (by simp [Template.Bound, Template.places])
  simpa [fill, Piece.segment] using h

/-- Both runs have the literal of the fact at a place. -/
theorem literal {x : Place} {u v : String} (hu : p x = some u) (hv : q x = some v) :
    EndAlike p q [] (.ok (Value.str u).literal) (.ok (Value.str v).literal) := by
  have h := filled (p := p) (q := q) (K := [.spliced x]) (W := []) trivial rfl
    (by simp [Template.Bound, Template.places, hu, hv])
  simpa [fill, Piece.segment, hu, hv] using h

/-- One text after another. -/
theorem append (h : EndAlike p q [] r r') (h' : EndAlike p q W s s') :
    EndAlike p q W (r.bind fun a => s.map (a ++ ·)) (r'.bind fun a => s'.map (a ++ ·)) := by
  cases h with
  | failed e => exact .failed e
  | @filled K hK hKW hKb =>
    cases h' with
    | failed e => exact .failed e
    | @filled L hL hLW hLb =>
      have h := filled (p := p) (q := q) (K := K ++ L) (W := W) (hK.append hL hKW)
        (by rw [literals_append, hKW, hLW, List.nil_append])
        (fun x hx => by
          rw [places_append, List.mem_append] at hx
          exact hx.elim (hKb x) (hLb x))
      rw [fill_append, fill_append] at h
      exact h

/-- A literal that is written in the condition, and what follows it. -/
theorem written {t : List Char} (ht : IsClosed t) (h : EndAlike p q W r r') :
    EndAlike p q (t :: W) (r.map (t ++ ·)) (r'.map (t ++ ·)) := by
  cases h with
  | failed e => exact .failed e
  | @filled K hK hW hb =>
    exact filled (K := .written t :: K) ⟨.inl ht, hK⟩ (congrArg (t :: ·) hW) hb

/-- A literal that is written at the end of the condition. -/
theorem openEnd {t : List Char} (ht : IsOpen t) : EndAlike p q [t] (.ok t) (.ok t) := by
  have h := filled (p := p) (q := q) (K := [.written t]) (W := [t]) ⟨.inr ⟨ht, rfl⟩, trivial⟩ rfl
    (by simp [Template.Bound, Template.places])
  simpa [fill, Piece.segment] using h

/-- What ends alike without places ends with code. -/
theorem quoteFree_of_no_places {t : List Char}
    (h : EndAlike (fun _ => none) (fun _ => none) [] (.ok t) (.ok t)) : quoteFree t = true := by
  generalize hr : (Except.ok t : Except EvalError (List Char)) = r at h
  cases h with
  | failed e => cases hr
  | @filled K hK hW hb =>
    cases hr
    refine quoteFree_fill _ hK hW (List.eq_nil_iff_forall_not_mem.2 fun x hx => ?_)
    simpa using (hb x hx).1

end EndAlike

/-! ### Passes over segments -/

section Passes

variable {p q : Texts} {f g : List Char → Except EvalError (List Char)}

/-- A pass that ends alike on code ends alike on the segments of a template. -/
theorem endAlike_mapSegments {K : Template} (hK : K.WellFormed) (hb : K.Bound p q)
    (hfg : ∀ t, quoteFree t = true → EndAlike p q [] (f t) (g t)) :
    EndAlike p q K.literals (mapSegments f (K.map (Piece.segment p)))
      (mapSegments g (K.map (Piece.segment q))) := by
  induction K with
  | nil => exact .code rfl
  | cons x K ih =>
    rw [List.map_cons, List.map_cons, mapSegments_cons, mapSegments_cons]
    cases x with
    | code t => exact (hfg t hK.1).append (ih hK.2 hb)
    | written t =>
      have ih := ih hK.2 hb
      obtain ⟨hclosed | ⟨hopen, rfl⟩, -⟩ := hK
      · exact ih.written hclosed
      · simpa [mapSegments, Segment.mapCode, Piece.segment, Except.map, Except.bind, literals, pure,
          Except.pure] using EndAlike.openEnd hopen
    | spliced y =>
      obtain ⟨hu, hv⟩ := hb y (by simp [places])
      obtain ⟨u, hu⟩ := Option.isSome_iff_exists.1 hu
      obtain ⟨v, hv⟩ := Option.isSome_iff_exists.1 hv
      have hliteral := EndAlike.literal hu hv
      have ih := ih hK fun x hx => hb x (by simp_all [places])
      rw [show (Value.str u).literal = ((Piece.spliced y).segment p).text by
          simp [Piece.segment, hu],
        show (Value.str v).literal = ((Piece.spliced y).segment q).text by
          simp [Piece.segment, hv]] at hliteral
      exact hliteral.append ih

/-- A pass that ends alike on code ends alike on texts that fill one template. -/
theorem endAlike_mapCode {K : Template} (hK : K.WellFormed) (hb : K.Bound p q)
    (hfg : ∀ t, quoteFree t = true → EndAlike p q [] (f t) (g t)) :
    EndAlike p q K.literals (mapCode f (fill p K)) (mapCode g (fill q K)) := by
  have hjoin := endAlike_mapSegments hK.join (fun x hx => hb x (places_join K ▸ hx)) hfg
  rw [literals_join] at hjoin
  rw [mapCode, mapCode, segments_fill p hK, segments_fill q hK]
  exact hjoin

/-- One pass after another. -/
theorem EndAlike.bind_mapCode {W : List (List Char)} {r r' : Except EvalError (List Char)}
    (h : EndAlike p q W r r') (hfg : ∀ t, quoteFree t = true → EndAlike p q [] (f t) (g t)) :
    EndAlike p q W (r.bind (mapCode f)) (r'.bind (mapCode g)) := by
  cases h with
  | failed e => exact .failed e
  | filled hK hW hb => exact hW ▸ endAlike_mapCode hK hb hfg

end Passes

/-! ### Replacements in code -/

section Replacements

variable {p q : Texts} {f g : Match → Except EvalError (List Char)}

theorem Span.text_subset (s : Span) : s.text ⊆ s.start.after := List.take_subset _ _

theorem endAlike_replaceFrom {c : Cursor} (hc : quoteFree c.after = true) {ms : List Match}
    (hms : ∀ m ∈ ms, quoteFree m.span.stop.after = true)
    (hfg : ∀ m ∈ ms, EndAlike p q [] (f m) (g m)) :
    EndAlike p q [] (Regex.replaceFrom f c ms) (Regex.replaceFrom g c ms) := by
  induction ms generalizing c with
  | nil => exact .code hc
  | cons m ms ih =>
    simp only [List.mem_cons, forall_eq_or_imp] at hms hfg
    have hspan := quoteFree_of_subset (Span.text_subset ⟨c, m.span.start⟩) hc
    have happend := (EndAlike.code hspan).append (hfg.1.append (ih hms.1 hms.2 hfg.2))
    rw [Regex.replaceFrom_cons, Regex.replaceFrom_cons]
    exact happend

/-- Replacements that end alike do so in a stretch of code. -/
theorem endAlike_replaceM {t : List Char} (ht : quoteFree t = true) (r : Regex)
    (hfg : ∀ m, m.Inside (Cursor.start t) → EndAlike p q [] (f m) (g m)) :
    EndAlike p q [] (r.replaceM f t) (r.replaceM g t) := by
  refine endAlike_replaceFrom ht (fun m hm => ?_) fun m hm => hfg m (Regex.inside_of_mem_findAll hm)
  obtain ⟨u, v, hu, hv⟩ := (Regex.inside_of_mem_findAll hm).span
  have hafter : t = u ++ (v ++ m.span.stop.after) := by rw [← hv.after]; exact hu.after
  rw [hafter, quoteFree_append, quoteFree_append] at ht
  exact ht.2.2

end Replacements

/-! ### Twin collections -/

/-- Values that agree, except that a text may stand in the place of another one. -/
def FactValue.Twin (v w : Option FactValue) : Prop :=
  v = w ∨ ∃ s t, v = some (.literal (.str s)) ∧ w = some (.literal (.str t))

namespace Facts

/-- Collections with the same settings and keys whose values agree, except that a text may stand in
the place of another one. The order of the facts, their comments and their marks do not count. -/
structure Twin (f g : Facts) : Prop where
  settings : f.settings = g.settings
  find? : ∀ k, Option.Rel (fun t u => FactValue.Twin t.value u.value) (f.find? k) (g.find? k)

/-- The text of the fact with a key, if its value is a text. -/
def textAt (f : Facts) (k : Key) : Option String :=
  (f.find? k).bind fun t =>
    match t.value with
    | some (.literal (.str s)) => some s
    | _ => none

variable {f g : Facts}

theorem Twin.refl (f : Facts) : f.Twin f where
  settings := rfl
  find? := fun k => by
    cases f.find? k with
    | none => exact .none
    | some t => exact .some (.inl rfl)

theorem Twin.symm (h : f.Twin g) : g.Twin f where
  settings := h.settings.symm
  find? := fun k => by
    have hk := h.find? k
    generalize f.find? k = x at hk ⊢
    generalize g.find? k = y at hk ⊢
    cases hk with
    | none => exact .none
    | some hvalue =>
      rcases hvalue with heq | ⟨s, t, hs, ht⟩
      · exact .some (.inl heq.symm)
      · exact .some (.inr ⟨t, s, ht, hs⟩)

theorem Twin.isSome_find? (h : f.Twin g) (k : Key) :
    (f.find? k).isSome = (g.find? k).isSome := by
  have hk := h.find? k
  generalize f.find? k = x at hk ⊢
  generalize g.find? k = y at hk ⊢
  cases hk <;> rfl

theorem isEmpty_eq_true_iff : f.isEmpty = true ↔ ∀ k, f.find? k = none := by
  unfold Facts.isEmpty Facts.find?
  cases f.entries with
  | nil => simp
  | cons t ts =>
    simp only [List.isEmpty_cons, Bool.false_eq_true, List.find?_eq_none, false_iff,
      Classical.not_forall]
    exact ⟨t.key, t, by simp⟩

theorem Twin.isEmpty (h : f.Twin g) : f.isEmpty = g.isEmpty := by
  rw [Bool.eq_iff_iff, isEmpty_eq_true_iff, isEmpty_eq_true_iff]
  refine forall_congr' fun k => ?_
  rw [← Option.not_isSome_iff_eq_none, ← Option.not_isSome_iff_eq_none, h.isSome_find?]

theorem Twin.lookupKey (h : f.Twin g) (pfx : String) (name : Option String) :
    f.lookupKey pfx name = g.lookupKey pfx name := by
  unfold Facts.lookupKey
  rw [h.settings]

/-- Twin collections have the same facts. -/
theorem Twin.presence (h : f.Twin g) (present : Bool) :
    f.presence present = g.presence present := by
  funext m
  unfold Facts.presence containsWritten containsKey
  rw [h.lookupKey]
  cases g.lookupKey (Unicode.upper (String.ofList (m.groupText 1)))
      (some (Unicode.upper (String.ofList (m.groupText 2)))) with
  | error e => rfl
  | ok k => simp only [Except.map, h.isSome_find?]

/-- The operands that twin collections give are the same code, or the literals of their texts. -/
theorem Twin.endAlike_operandOf (h : f.Twin g) {p q : Texts} (marked : Bool)
    (hp : ∀ k, p ⟨marked, k⟩ = f.textAt k) (hq : ∀ k, q ⟨marked, k⟩ = g.textAt k)
    (pfx name written : List Char) :
    EndAlike p q [] (f.operandOf pfx name written) (g.operandOf pfx name written) := by
  unfold operandOf get
  rw [h.lookupKey]
  cases g.lookupKey (Unicode.upper (String.ofList pfx))
      (some (Unicode.upper (String.ofList name))) with
  | error e =>
    cases e <;> exact .failed _
  | ok k =>
    have hk := h.find? k
    have hp := hp k
    have hq := hq k
    unfold textAt at hp hq
    simp only [Except.bind, fetch]
    generalize f.find? k = x at hk hp ⊢
    generalize g.find? k = y at hk hq ⊢
    cases hk with
    | none => exact .failed _
    | @some t u htwin =>
      rcases htwin with heq | ⟨s, s', hs, hs'⟩
      · dsimp only
        rw [heq]
        cases hv : u.value with
        | none => exact .failed _
        | some v =>
          cases v with
          | literal v =>
            by_cases hstr : ∃ s, v = .str s
            · obtain ⟨s, rfl⟩ := hstr
              simp only [heq, hv, Option.bind_some] at hp hq
              exact .literal hp hq
            · exact .code (Value.quoteFree_operandText fun s hs => hstr ⟨s, hs⟩)
          | reference r => exact .failed _
          | formula f => exact .failed _
      · simp only [hs, hs', Option.bind_some] at hp hq ⊢
        exact .literal hp hq

end Facts

/-! ### Two runs of a condition -/

/-- The texts of the facts of two collections. -/
def textsOf (facts db : Facts) : Texts := fun x => (if x.marked then facts else db).textAt x.key

namespace Settings

variable {s : Settings} {facts facts' db db' : Facts}

/-- Whether a fact is present is said by code. -/
theorem endAlike_presence (f : Facts) (present : Bool) (m : Match) {p q : Texts} :
    EndAlike p q [] (f.presence present m) (f.presence present m) := by
  unfold Facts.presence
  cases f.containsWritten (m.groupText 1) (m.groupText 2) with
  | error e => exact .failed e
  | ok found => exact .code (quoteFree_boolText _)

theorem quoteFree_replaceM_presence {f : Facts} {present : Bool} {r : Regex} {t t' : List Char}
    (ht : quoteFree t = true) (h : r.replaceM (f.presence present) t = .ok t') :
    quoteFree t' = true :=
  EndAlike.quoteFree_of_no_places
    (h ▸ endAlike_replaceM ht r fun m _ => endAlike_presence f present m)

/-- The code that says which facts are present does not depend on texts. -/
theorem resolvePresence_eq (hfacts : facts.Twin facts') (hdb : db.Twin db') :
    s.resolvePresence facts db = s.resolvePresence facts' db' := by
  funext t
  unfold resolvePresence
  rw [hfacts.presence, hfacts.presence, hdb.presence, hdb.presence, hdb.isEmpty]

/-- Twin collections turn calls that ask for presence into the same code. -/
theorem endAlike_resolvePresence (hfacts : facts.Twin facts') (hdb : db.Twin db') {t : List Char}
    (ht : quoteFree t = true) {p q : Texts} :
    EndAlike p q [] (s.resolvePresence facts db t) (s.resolvePresence facts' db' t) := by
  rw [resolvePresence_eq hfacts hdb]
  unfold resolvePresence
  cases h₁ : (s.regex .present).replaceM (facts'.presence true) t with
  | error e => exact .failed e
  | ok t₁ =>
    have ht₁ := quoteFree_replaceM_presence ht h₁
    simp only [bind, Except.bind]
    cases h₂ : (s.regex .absent).replaceM (facts'.presence false) t₁ with
    | error e => exact .failed e
    | ok t₂ =>
      have ht₂ := quoteFree_replaceM_presence ht₁ h₂
      dsimp only
      split
      · exact .code ht₂
      · cases h₃ : (s.regex .presentBare).replaceM (db'.presence true) t₂ with
        | error e => exact .failed e
        | ok t₃ =>
          exact endAlike_replaceM (quoteFree_replaceM_presence ht₂ h₃) _ fun m _ =>
            endAlike_presence db' false m

theorem endAlike_substituteMarked (hfacts : facts.Twin facts') {t : List Char}
    (ht : quoteFree t = true) :
    EndAlike (textsOf facts db) (textsOf facts' db') [] (s.substituteMarked facts t)
      (s.substituteMarked facts' t) :=
  endAlike_replaceM ht _ fun _ _ =>
    hfacts.endAlike_operandOf true (fun _ => rfl) (fun _ => rfl) _ _ _

theorem endAlike_substituteBare (hdb : db.Twin db') {t : List Char} (ht : quoteFree t = true) :
    EndAlike (textsOf facts db) (textsOf facts' db') [] (s.substituteBare db t)
      (s.substituteBare db' t) := by
  refine endAlike_replaceM ht _ fun m hm => ?_
  have hgroup := quoteFree_of_subset (hm.groupText_subset 1) ht
  exact (EndAlike.code hgroup).append
    (hdb.endAlike_operandOf false (fun _ => rfl) (fun _ => rfl) _ _ _)

/-- Two runs over twin collections turn a template into texts that fill one template. -/
theorem endAlike_substitute (hfacts : facts.Twin facts') (hdb : db.Twin db') {K : Template}
    (hK : K.WellFormed) (hb : K.Bound (textsOf facts db) (textsOf facts' db')) :
    EndAlike (textsOf facts db) (textsOf facts' db') K.literals
      (s.substitute facts db (fill (textsOf facts db) K))
      (s.substitute facts' db' (fill (textsOf facts' db') K)) := by
  rw [substitute_eq_bind, substitute_eq_bind]
  have hpresence := endAlike_mapCode hK hb
    (f := s.resolvePresence facts db) (g := s.resolvePresence facts' db')
    fun _ ht => endAlike_resolvePresence hfacts hdb ht
  have hmarked := hpresence.bind_mapCode
    (f := s.substituteMarked facts) (g := s.substituteMarked facts')
    fun _ ht => endAlike_substituteMarked hfacts ht
  exact hmarked.bind_mapCode fun _ ht => endAlike_substituteBare hdb ht

end Settings

/-! ### The template of a condition -/

/-- The literals in a text. -/
def literalsOf (text : List Char) : List (List Char) :=
  ((segments text).filter fun seg => !seg.isCode).map Segment.text

namespace Template

theorem literals_ofSegments (ss : List Segment) :
    (ofSegments ss).literals = (ss.filter fun seg => !seg.isCode).map Segment.text := by
  induction ss with
  | nil => rfl
  | cons seg ss ih =>
    obtain ⟨isCode, t⟩ := seg
    cases isCode with
    | true => exact ih
    | false => exact congrArg (t :: ·) ih

/-- A template with its code normalized. -/
def normalize (K : Template) : Template :=
  K.map fun
    | .code t => .code (normalizeCode t)
    | .written t => .written t
    | .spliced x => .spliced x

theorem WellFormed.normalize {K : Template} (hK : K.WellFormed) : K.normalize.WellFormed := by
  induction K with
  | nil => trivial
  | cons x K ih =>
    cases x with
    | code t => exact ⟨quoteFree_normalizeCode hK.1, ih hK.2⟩
    | written t => exact ⟨hK.1.imp_right fun h => ⟨h.1, by rw [h.2]; rfl⟩, ih hK.2⟩
    | spliced y => exact ih hK

theorem literals_normalize (K : Template) : K.normalize.literals = K.literals := by
  induction K with
  | nil => rfl
  | cons x K ih =>
    cases x with
    | code t => exact ih
    | written t => exact congrArg (t :: ·) ih
    | spliced y => exact ih

theorem places_normalize (K : Template) : K.normalize.places = K.places := by
  induction K with
  | nil => rfl
  | cons x K ih =>
    cases x with
    | code t => exact ih
    | written t => exact ih
    | spliced y => exact congrArg (y :: ·) ih

theorem fill_normalize_ofSegments (p : Texts) (ss : List Segment) :
    fill p (ofSegments ss).normalize =
      ss.flatMap fun seg => if seg.isCode then normalizeCode seg.text else seg.text := by
  induction ss with
  | nil => rfl
  | cons seg ss ih =>
    obtain ⟨isCode, t⟩ := seg
    cases isCode with
    | true => exact congrArg (normalizeCode t ++ ·) ih
    | false => exact congrArg (t ++ ·) ih

end Template

/-- The template of a condition with its code normalized. -/
def conditionTemplate (condition : List Char) : Template :=
  (ofSegments (segments condition)).normalize

theorem wellFormed_conditionTemplate (condition : List Char) :
    (conditionTemplate condition).WellFormed :=
  (wellFormed_ofSegments condition).normalize

theorem literals_conditionTemplate (condition : List Char) :
    (conditionTemplate condition).literals = literalsOf condition := by
  rw [conditionTemplate, literals_normalize, literals_ofSegments, literalsOf]

theorem places_conditionTemplate (condition : List Char) :
    (conditionTemplate condition).places = [] := by
  rw [conditionTemplate, places_normalize, places_ofSegments]

theorem fill_conditionTemplate (p : Texts) (condition : List Char) :
    fill p (conditionTemplate condition) = Settings.normalizeCondition condition :=
  fill_normalize_ofSegments p _

/-- Two runs of a condition over twin collections end alike. -/
theorem Settings.endAlike_expressionText {s : Settings} {a a' b b' : FactSource}
    {facts facts' db db' : Facts} (condition : List Char) (ha : a.facts s = .ok facts)
    (ha' : a'.facts s = .ok facts') (hb : b.facts s = .ok db) (hb' : b'.facts s = .ok db')
    (hblank : a.isBlank = a'.isBlank) (hfacts : facts.Twin facts') (hdb : db.Twin db') :
    EndAlike (textsOf facts db) (textsOf facts' db') (literalsOf condition)
      (s.expressionText condition a b) (s.expressionText condition a' b') := by
  have hsubstitute := endAlike_substitute (s := s) hfacts hdb
    (wellFormed_conditionTemplate condition) (fun x hx => by simp [places_conditionTemplate] at hx)
  rw [literals_conditionTemplate, fill_conditionTemplate, fill_conditionTemplate] at hsubstitute
  unfold expressionText sourceFacts
  rw [ha, ha', hb, hb', hblank]
  split
  · exact .failed _
  · split
    · exact .failed _
    · split
      · exact .failed _
      · exact hsubstitute

/-! ### Tokens and trees -/

/-- The texts of two runs in the places of a template may stand for each other. -/
def Template.variation (p q : Texts) (K : Template) : Variation where
  text u v := ∃ x ∈ K.places, p x = some u ∧ q x = some v
  name _ _ := False
  not_connective _ _ h := h.elim
  not_negation _ _ h := h.elim
  not_constant _ _ h := h.elim

section

variable {p q : Texts} {V : Variation}

/-- The tokens of segments that are the pieces of one template. -/
theorem exists_varied_tokens_of_pieces {K : Template}
    (hV : ∀ x ∈ K.places, ∃ u v, p x = some u ∧ q x = some v ∧ V.text u v) :
    Option.Rel (List.Forall₂ (List.Forall₂ (Token.Varies V)))
      ((K.map (Piece.segment p)).mapM fun seg => tokens? seg.text)
      ((K.map (Piece.segment q)).mapM fun seg => tokens? seg.text) := by
  induction K with
  | nil => exact .some .nil
  | cons x K ih =>
    have hx : Option.Rel (List.Forall₂ (Token.Varies V)) (tokens? (x.segment p).text)
        (tokens? (x.segment q).text) := by
      cases x with
      | code t | written t =>
        simp only [Piece.segment]
        cases tokens? t with
        | none => exact .none
        | some ts => exact .some (List.forall₂_same.2 fun t _ => .same t)
      | spliced y =>
        obtain ⟨u, v, hu, hv, huv⟩ := hV y (by simp [places])
        simp only [Piece.segment, hu, hv, Option.getD_some, tokens?_literal_str]
        exact .some (.cons (.text huv) .nil)
    have ih := ih fun y hy => hV y (by
      cases x <;> simp_all [places])
    rw [List.map_cons, List.map_cons, List.mapM_cons, List.mapM_cons]
    generalize tokens? (x.segment p).text = r at hx
    generalize tokens? (x.segment q).text = r' at hx
    generalize (K.map (Piece.segment p)).mapM (fun seg => tokens? seg.text) = rs at ih
    generalize (K.map (Piece.segment q)).mapM (fun seg => tokens? seg.text) = rs' at ih
    cases hx with
    | none => exact .none
    | some hx =>
      cases ih with
      | none => exact .none
      | some ih => exact .some (.cons hx ih)

/-- The tokens of two texts that fill one template differ in the texts of its places only. -/
theorem rel_tokens?_fill {K : Template} (hK : K.WellFormed)
    (hV : ∀ x ∈ K.places, ∃ u v, p x = some u ∧ q x = some v ∧ V.text u v) :
    Option.Rel (List.Forall₂ (Token.Varies V)) (tokens? (fill p K)) (tokens? (fill q K)) := by
  have hpieces := exists_varied_tokens_of_pieces (p := p) (q := q) (K := K.join) (V := V)
    fun x hx => hV x (places_join K ▸ hx)
  rw [tokens?_eq_segments, tokens?_eq_segments, segments_fill p hK, segments_fill q hK]
  generalize (K.join.map (Piece.segment p)).mapM (fun seg => tokens? seg.text) = r at hpieces
  generalize (K.join.map (Piece.segment q)).mapM (fun seg => tokens? seg.text) = r' at hpieces
  cases hpieces with
  | none => exact .none
  | some h => exact .some (List.rel_flatten h)

end

/-- What is parsed from one of two texts that fill one template is parsed from the other one, up to
the texts of its places. -/
theorem exists_parse_fill {p q : Texts} {K : Template} (hK : K.WellFormed) (hb : K.Bound p q)
    {e : Expr} (h : Expr.parse (fill p K) = .ok e) :
    ∃ e', Expr.parse (fill q K) = .ok e' ∧ e.Varies (K.variation p q) e' := by
  have hrel := rel_tokens?_fill (V := K.variation p q) hK fun x hx => by
    obtain ⟨u, hu⟩ := Option.isSome_iff_exists.1 (hb x hx).1
    obtain ⟨v, hv⟩ := Option.isSome_iff_exists.1 (hb x hx).2
    exact ⟨u, v, hu, hv, x, hx, hu, hv⟩
  obtain ⟨ts, hts, -⟩ := Expr.parse_eq_ok_iff_tokens?.1 h
  rw [hts] at hrel
  generalize hr : tokens? (fill q K) = r at hrel
  cases hrel with
  | some hvaries => exact Expr.exists_parse_of_varies hts hr hvaries h

/-- Two texts that fill one template are both no expressions, or they are expressions that differ in
the texts of its places only. -/
theorem parse_fill_alike {p q : Texts} {K : Template} (hK : K.WellFormed) (hb : K.Bound p q) :
    (∃ e e', Expr.parse (fill p K) = .error e ∧ Expr.parse (fill q K) = .error e') ∨
      ∃ x x', Expr.parse (fill p K) = .ok x ∧ Expr.parse (fill q K) = .ok x' ∧
        x.Varies (K.variation p q) x' := by
  cases h : Expr.parse (fill p K) with
  | ok x =>
    obtain ⟨x', hx', hvaries⟩ := exists_parse_fill hK hb h
    exact .inr ⟨x, x', rfl, hx', hvaries⟩
  | error e =>
    cases h' : Expr.parse (fill q K) with
    | ok x' =>
      obtain ⟨x, hx, -⟩ := exists_parse_fill hK (fun y hy => (hb y hy).symm) h'
      rw [hx] at h
      cases h
    | error e' => exact .inl ⟨e, e', rfl, rfl⟩

/-- Two texts fill one template: its places have texts, its pieces are the segments of both texts,
and either both texts are no expressions or they are expressions that differ in the texts of the
places only. -/
structure Template.FilledBy (K : Template) (p q : Texts) (text text' : List Char) : Prop where
  bound : K.Bound p q
  fill_left : text = fill p K
  fill_right : text' = fill q K
  segments_left : segments text = K.map (Piece.segment p)
  segments_right : segments text' = K.map (Piece.segment q)
  parse : (∃ e e', Expr.parse text = .error e ∧ Expr.parse text' = .error e') ∨
    ∃ x x', Expr.parse text = .ok x ∧ Expr.parse text' = .ok x' ∧ x.Varies (K.variation p q) x'

theorem filledBy_join {p q : Texts} {K : Template} (hK : K.WellFormed) (hb : K.Bound p q) :
    K.join.FilledBy p q (fill p K) (fill q K) where
  bound := fun x hx => hb x (places_join K ▸ hx)
  fill_left := (fill_join p hK).symm
  fill_right := (fill_join q hK).symm
  segments_left := segments_fill p hK
  segments_right := segments_fill q hK
  parse := by
    have hparse := parse_fill_alike hK.join (p := p) (q := q) fun x hx => hb x (places_join K ▸ hx)
    rw [fill_join p hK, fill_join q hK] at hparse
    rcases hparse with h | ⟨x, x', hx, hx', hvaries⟩
    · exact .inl h
    · exact .inr ⟨x, x', hx, hx', hvaries⟩

/-- One of two runs of a condition is given a blank text for its first facts, and the other one is
not. The one fails because no facts are given. The other one, which has no first facts either, ends
as it does over an empty collection and keeps the literals of the condition. -/
structure Settings.OneBlank (condition : List Char) (a b a' b' : FactSource) (db' : Facts) :
    Prop where
  stated : Unicode.allBlank condition = false
  blank : a.isBlank = true
  other : a'.isBlank = false
  failed : Settings.standard.expressionText condition a b = .error .blankFacts
  ends : Settings.standard.expressionText condition a' b' =
    Settings.standard.expressionText condition (.given (.empty .standard)) b'
  keeps : ∀ text, Settings.standard.expressionText condition a' b' = .ok text →
    ∃ K : Template, K.literals = literalsOf condition ∧
      K.FilledBy (textsOf (.empty .standard) db') (textsOf (.empty .standard) db') text text

/-- What two runs that end alike hand over fills one template, with the literals of the
condition. -/
theorem EndAlike.failed_or_filledBy {p q : Texts} {W : List (List Char)}
    {r r' : Except EvalError (List Char)} (h : EndAlike p q W r r') :
    (∃ e, r = .error e ∧ r' = .error e) ∨ ∃ (K : Template) (text text' : List Char),
      K.literals = W ∧ r = .ok text ∧ r' = .ok text' ∧ K.FilledBy p q text text' := by
  cases h with
  | failed e => exact .inl ⟨e, rfl, rfl⟩
  | @filled K hK hW hbound =>
    exact .inr ⟨K.join, _, _, by rw [literals_join, hW], rfl, rfl, filledBy_join hK hbound⟩

/-- Only a blank text is blank. -/
theorem FactSource.exists_of_isBlank {a : FactSource} (h : a.isBlank = true) :
    ∃ text, a = .text text ∧ IsBlanks text := by
  cases a with
  | text text => exact ⟨text, rfl, List.all_eq_true.1 h⟩
  | given f => cases h

theorem Facts.Twin.eq_empty {f : Facts} (h : (Facts.empty .standard).Twin f) :
    f = Facts.empty .standard := by
  have hempty : f.entries.isEmpty = true := h.isEmpty.symm
  exact Facts.ext (List.isEmpty_iff.1 hempty) h.settings.symm

/-- The run that is not given a blank text ends as over an empty collection. -/
theorem Settings.oneBlank_of_twin {a a' b b' : FactSource} {facts facts' db' : Facts}
    {condition : List Char} (ha : a.facts .standard = .ok facts)
    (ha' : a'.facts .standard = .ok facts') (hb' : b'.facts .standard = .ok db')
    (hfacts : facts.Twin facts') (hstated : Unicode.allBlank condition = false)
    (hblank : a.isBlank = true) (hother : a'.isBlank = false) :
    OneBlank condition a b a' b' db' := by
  obtain ⟨text, rfl, htext⟩ := FactSource.exists_of_isBlank hblank
  obtain rfl : Facts.empty .standard = facts :=
    Except.ok.inj ((Facts.read_of_ne (ne_of_isBlanks htext)).symm.trans ha)
  obtain rfl := hfacts.eq_empty
  refine ⟨hstated, hblank, hother, ?_, ?_, fun text' htext' => ?_⟩
  · rw [expressionText, if_neg (by rw [hstated]; decide), if_pos hblank]
  · unfold expressionText sourceFacts
    rw [ha', hother]
    rfl
  · have hdb : db'.Twin db' := .refl db'
    have h := endAlike_expressionText condition ha' ha' hb' hb' rfl hfacts hdb
    rcases h.failed_or_filledBy with ⟨e, he, -⟩ | ⟨K, u, v, hK, hu, hv, hfilled⟩
    · cases htext'.symm.trans he
    · obtain rfl := Except.ok.inj (htext'.symm.trans hu)
      obtain rfl := Except.ok.inj (htext'.symm.trans hv)
      exact ⟨K, hK, hfilled⟩

/-- **Texts of facts stay literals.** Two runs of a condition over collections that differ in texts
only fail with the same error, or they hand over two texts that fill one template. The literals that
are written in this template are those of the condition, in their order and unchanged. The only
exception is that one of the runs is given a blank text for its first facts and the other run has
none in another way, such as a text without triplets. -/
theorem Settings.texts_of_facts_stay_literals {a a' b b' : FactSource}
    {facts facts' db db' : Facts} (condition : List Char)
    (ha : a.facts .standard = .ok facts) (ha' : a'.facts .standard = .ok facts')
    (hb : b.facts .standard = .ok db) (hb' : b'.facts .standard = .ok db')
    (hfacts : facts.Twin facts') (hdb : db.Twin db') :
    (∃ e, Settings.standard.expressionText condition a b = .error e ∧
      Settings.standard.expressionText condition a' b' = .error e) ∨
    (∃ (K : Template) (text text' : List Char), K.literals = literalsOf condition ∧
      Settings.standard.expressionText condition a b = .ok text ∧
      Settings.standard.expressionText condition a' b' = .ok text' ∧
      K.FilledBy (textsOf facts db) (textsOf facts' db') text text') ∨
    OneBlank condition a b a' b' db' ∨ OneBlank condition a' b' a b db := by
  by_cases hblank : a.isBlank = a'.isBlank
  · have h := endAlike_expressionText condition ha ha' hb hb' hblank hfacts hdb
    exact h.failed_or_filledBy.imp_right .inl
  · cases hstated : Unicode.allBlank condition with
    | true =>
      refine .inl ⟨.blankCondition, ?_, ?_⟩ <;> rw [expressionText, if_pos hstated]
    | false =>
      cases ha₀ : a.isBlank with
      | true =>
        have ha₀' : a'.isBlank = false := by simpa [ha₀] using hblank
        exact .inr (.inr (.inl (oneBlank_of_twin ha ha' hb' hfacts hstated ha₀ ha₀')))
      | false =>
        have ha₀' : a'.isBlank = true := by simpa [ha₀] using hblank
        exact .inr (.inr (.inr (oneBlank_of_twin ha' ha hb hfacts.symm hstated ha₀' ha₀)))

/-- The fact that `A.B` is a text. -/
def textFact (s : String) : Triplet where
  pfx := "A"
  name := some "B"
  comment := none
  bid := false
  special := false
  settings := .standard
  value := some (.literal (.str s))

/-- The collection of one fact that is a text. -/
def Facts.ofText (s : String) : Facts := (Facts.empty .standard).add (textFact s)

theorem Facts.twin_ofText (s t : String) : (Facts.ofText s).Twin (Facts.ofText t) := by
  refine ⟨rfl, fun k => ?_⟩
  have hfind : ∀ u, (Facts.ofText u).find? k =
      if (⟨"A", some "B"⟩ : Key) = k then some (textFact u) else none :=
    fun u => find?_add _ _ k
  rw [hfind, hfind]
  split
  · exact .some (.inr ⟨s, t, rfl, rfl⟩)
  · exact .none

/-- A text that would end its literal and go on as code is a text like any other one. -/
theorem Settings.text_with_quotes_stays_literal :
    ∃ (K : Template) (text text' : List Char), K.literals = ["'x y'".toList] ∧
      Settings.standard.expressionText "$A.B = 'x y'".toList (.given (.ofText "v"))
        (.given (.empty .standard)) = .ok text ∧
      Settings.standard.expressionText "$A.B = 'x y'".toList (.given (.ofText "' or True or '"))
        (.given (.empty .standard)) = .ok text' ∧
      K.FilledBy (textsOf (.ofText "v") (.empty .standard))
        (textsOf (.ofText "' or True or '") (.empty .standard)) text text' := by
  rcases @Settings.texts_of_facts_stay_literals (.given (.ofText "v"))
    (.given (.ofText "' or True or '")) (.given (.empty .standard)) (.given (.empty .standard))
    _ _ _ _ "$A.B = 'x y'".toList rfl rfl rfl rfl (Facts.twin_ofText "v" "' or True or '")
    (.refl _) with ⟨e, he, -⟩ | h | h | h
  · have hok : (Settings.standard.expressionText "$A.B = 'x y'".toList (.given (.ofText "v"))
        (.given (.empty .standard))).isOk = true := by decide +kernel
    rw [he] at hok
    cases hok
  · rwa [show literalsOf "$A.B = 'x y'".toList = ["'x y'".toList] by decide +kernel] at h
  -- no text is given in the place of facts
  · cases h.blank
  · cases h.blank

/-- A blank text is refused in the place of the first facts, and a text without triplets is not. -/
theorem Settings.not_forall_texts_of_facts_stay_literals :
    ¬∀ (a a' b b' : FactSource) (facts facts' db db' : Facts) (condition : List Char),
      a.facts .standard = .ok facts → a'.facts .standard = .ok facts' →
      b.facts .standard = .ok db → b'.facts .standard = .ok db' →
      facts.Twin facts' → db.Twin db' →
      (∃ e e', Settings.standard.expressionText condition a b = .error e ∧
        Settings.standard.expressionText condition a' b' = .error e') ∨
      ∃ text text', Settings.standard.expressionText condition a b = .ok text ∧
        Settings.standard.expressionText condition a' b' = .ok text' := by
  intro h
  have hblank : (FactSource.text []).facts .standard = .ok (Facts.empty .standard) :=
    Facts.read_of_ne (by simp)
  have hjunk : (FactSource.text ['x']).facts .standard = .ok (Facts.empty .standard) :=
    Facts.read_of_ne (by simp)
  have hfailed : Settings.standard.expressionText "1 = 1".toList (.text []) (.text []) =
      .error .blankFacts := rfl
  have hfilled : Settings.standard.expressionText "1 = 1".toList (.text ['x']) (.text []) =
      .ok "1 == 1".toList := by decide +kernel
  rcases h (.text []) (.text ['x']) (.text []) (.text []) _ _ _ _ "1 = 1".toList hblank hjunk hblank
    hblank (.refl _) (.refl _) with ⟨e, e', -, he'⟩ | ⟨text, -, htext, -⟩
  · cases hfilled.symm.trans he'
  · cases hfailed.symm.trans htext

end TripletFacts
