import TripletFacts.Proofs.Condition.SignPasses
import TripletFacts.Proofs.Expr.UnknownNames

/-!
# Connectives in code that has tokens

Replacing connectives exchanges names in code that has tokens: what a connective is called in
another language or in capital letters is no name that the expression language knows. All other
tokens stay as they are.

## Main definitions

* `Replaced`: a text with some occurrences of another one replaced.
* `connectiveWords`, `spaced`: the words of connectives, and a word between blanks.
* `HasVaried`: code whose tokens are given ones up to unknown names.
* `replaceConnectives`: code in which all connectives are replaced.

## Main results

* `replaced_replaceFrom`: what a replacement does.
* `hasVaried_replaceConnectives`: the tokens of code in which connectives are replaced.
-/

namespace TripletFacts

open TripletFacts.Expr

/-! ### Replacements -/

/-- A text with some occurrences of `old` replaced by `new`. -/
inductive Replaced (old new : List Char) : List Char → List Char → Prop
  | same (t : List Char) : Replaced old new t t
  | step (a : List Char) {b b' : List Char} (h : Replaced old new b b') :
      Replaced old new (a ++ (old ++ b)) (a ++ (new ++ b'))

section

variable {old new : List Char}

theorem Replaced.cons {t t' : List Char} (h : Replaced old new t t') (c : Char) :
    Replaced old new (c :: t) (c :: t') := by
  cases h with
  | same => exact .same _
  | step a h => exact .step (c :: a) h

theorem replaceFrom_skip (n : Nat) (cs : List Char) :
    replaceFrom old new n cs = replaceFrom old new 0 (cs.drop n) := by
  induction cs generalizing n with
  | nil => cases n <;> rfl
  | cons c cs ih =>
    cases n with
    | zero => rfl
    | succ n => exact ih n

/-- Replacing a text that is not empty replaces some occurrences of it. -/
theorem replaced_replaceFrom (hold : old ≠ []) (t : List Char) :
    Replaced old new t (replaceFrom old new 0 t) := by
  induction hn : t.length using Nat.strongRecOn generalizing t with
  | ind n ih =>
    subst hn
    cases t with
    | nil => exact .same []
    | cons c cs =>
      rw [replaceFrom]
      split
      · rename_i hprefix
        obtain ⟨rest, hrest⟩ := List.isPrefixOf_iff_prefix.1 hprefix
        obtain ⟨o, old, rfl⟩ := List.exists_cons_of_ne_nil hold
        rw [List.cons_append] at hrest
        obtain ⟨rfl, rfl⟩ := List.cons_eq_cons.1 hrest
        rw [replaceFrom_skip, List.length_cons, Nat.add_sub_cancel, List.drop_left]
        exact .step []
          (ih rest.length (by rw [List.length_cons, List.length_append]; omega) rest rfl)
      · exact (ih cs.length (by simp) cs rfl).cons c

end

/-! ### Connectives -/

/-- The words of connectives, and the words of the expression language for them. -/
def connectiveWords : List (String × String) :=
  [("или", "or"), ("ИЛИ", "or"), ("OR", "or"), ("и", "and"), ("И", "and"), ("AND", "and")]

/-- A word between blanks. -/
def spaced (word : String) : List Char := ' ' :: (word.toList ++ [' '])

/-- What is replaced are words between blanks. -/
theorem connectives_eq_spaced :
    connectives.map (fun p => (p.1.toList, p.2.toList)) =
      connectiveWords.map fun p => (spaced p.1, spaced p.2) := by
  decide

/-- A word that is one name. -/
structure IsWord (word : String) : Prop where
  tokens : tokens? word.toList = some [.ident word]
  quoteFree : quoteFree word.toList = true

/-- The words of connectives are names, and those that are replaced are not known. -/
theorem isWord_of_mem_connectiveWords {p : String × String} (hp : p ∈ connectiveWords) :
    IsWord p.1 ∧ IsWord p.2 ∧ IsUnknown p.1 ∧ IsCallable p.2 := by
  have hwords : ∀ p ∈ connectiveWords,
      (tokens? p.1.toList = some [.ident p.1] ∧ quoteFree p.1.toList = true) ∧
        (tokens? p.2.toList = some [.ident p.2] ∧ quoteFree p.2.toList = true) ∧
          IsUnknown p.1 ∧ IsCallable p.2 := by
    decide +kernel
  obtain ⟨⟨htokens, hfree⟩, ⟨htokens', hfree'⟩, h⟩ := hwords p hp
  exact ⟨⟨htokens, hfree⟩, ⟨htokens', hfree'⟩, h⟩

/-- The tokens of code with a word between blanks. -/
theorem tokens?_spaced {word : String} (hword : IsWord word) {a : List Char}
    (ha : quoteFree a = true) (b : List Char) :
    tokens? (a ++ (spaced word ++ b)) =
      (tokens? a).bind fun ts => (tokens? b).map fun us => ts ++ .ident word :: us := by
  have hblank : Unicode.isBlank ' ' = true := by decide
  rw [tokens?_append ha (by rfl), spaced, List.cons_append, tokens?_blank hblank,
    List.append_assoc, tokens?_append hword.quoteFree (by rfl), hword.tokens, List.cons_append,
    List.nil_append, tokens?_blank hblank]
  cases tokens? a <;> cases tokens? b <;> rfl

/-- A text that has the given tokens up to names that are not known. -/
def HasVaried (text : List Char) (ts : List Token) : Prop :=
  ∃ ts', tokens? text = some ts' ∧ List.Forall₂ (Token.Varies .unknown) ts ts'

/-- The tokens of code in which a connective is replaced. -/
theorem Replaced.hasVaried {p : String × String} (hp : p ∈ connectiveWords) {t t' : List Char}
    (h : Replaced (spaced p.1) (spaced p.2) t t') (ht : quoteFree t = true) {ts : List Token}
    (hts : tokens? t = some ts) : HasVaried t' ts := by
  obtain ⟨hold, hnew, hunknown, hcallable⟩ := isWord_of_mem_connectiveWords hp
  induction h generalizing ts with
  | same t => exact ⟨ts, hts, forall₂_varies_refl _ ts⟩
  | @step a b b' h ih =>
    rw [quoteFree_append, quoteFree_append] at ht
    rw [tokens?_spaced hold ht.1, Option.bind_eq_some_iff] at hts
    obtain ⟨us, hus, hrest⟩ := hts
    obtain ⟨vs, hvs, rfl⟩ := Option.map_eq_some_iff.1 hrest
    obtain ⟨ws, hws, hvaries⟩ := ih ht.2.2 hvs
    refine ⟨us ++ .ident p.2 :: ws, ?_, ?_⟩
    · rw [tokens?_spaced hnew ht.1, hus, hws]
      rfl
    · exact List.rel_append (forall₂_varies_refl _ us)
        (.cons (.name ⟨hunknown, hcallable⟩) hvaries)

theorem HasVaried.trans {t t' : List Char} {ts : List Token} (h : HasVaried t ts)
    (h' : ∀ us, tokens? t = some us → HasVaried t' us) : HasVaried t' ts := by
  obtain ⟨us, hus, hvaries⟩ := h
  obtain ⟨vs, hvs, hvaries'⟩ := h' us hus
  exact ⟨vs, hvs, forall₂_varies_trans hvaries hvaries'⟩

theorem Replaced.quoteFree {old new t t' : List Char} (h : Replaced old new t t')
    (hnew : quoteFree new = true) (ht : quoteFree t = true) : quoteFree t' = true := by
  induction h with
  | same => exact ht
  | step a h ih =>
    rw [quoteFree_append, quoteFree_append] at ht ⊢
    exact ⟨ht.1, hnew, ih ht.2.2⟩

/-- Code in which all connectives are replaced. -/
def replaceConnectives (code : List Char) : List Char :=
  connectives.foldl (fun code (old, new) => replaceText old new code) code

/-- The words between blanks are replaced one after the other. -/
theorem replaceConnectives_eq_foldl (code : List Char) : replaceConnectives code =
    connectiveWords.foldl (fun code p => replaceFrom (spaced p.1) (spaced p.2) 0 code) code := by
  have hmap : (connectives.map fun p => (p.1.toList, p.2.toList)).foldl
      (fun code p => replaceFrom p.1 p.2 0 code) code = replaceConnectives code := List.foldl_map
  rw [← hmap, connectives_eq_spaced, List.foldl_map]

/-- Code in which no connective is replaced. -/
theorem replaceConnectives_eq_self {code : List Char}
    (h : ∀ p ∈ connectiveWords, replaceFrom (spaced p.1) (spaced p.2) 0 code = code) :
    replaceConnectives code = code := by
  rw [replaceConnectives_eq_foldl]
  refine List.foldlRecOn (motive := (· = code)) connectiveWords _ rfl fun t ht p hp => ?_
  rw [ht]
  exact h p hp

/-- What every replacement of a connective keeps. -/
theorem replaceConnectives_induction {P : List Char → Prop} {code : List Char}
    (hstep : ∀ p ∈ connectiveWords, ∀ t t', Replaced (spaced p.1) (spaced p.2) t t' → P t → P t')
    (h : P code) : P (replaceConnectives code) := by
  rw [replaceConnectives_eq_foldl]
  refine List.foldlRecOn connectiveWords _ h fun t ht p hp => ?_
  exact hstep p hp t _ (replaced_replaceFrom (by simp [spaced]) t) ht

/-- The tokens of code in which connectives are replaced. -/
theorem hasVaried_replaceConnectives {code : List Char} (hq : quoteFree code = true)
    {ts : List Token} (hts : tokens? code = some ts) :
    quoteFree (replaceConnectives code) = true ∧ HasVaried (replaceConnectives code) ts := by
  refine replaceConnectives_induction (P := fun t => quoteFree t = true ∧ HasVaried t ts) ?_
    ⟨hq, ts, hts, forall₂_varies_refl _ ts⟩
  rintro p hp t t' h ⟨ht, hvaried⟩
  have hnew : quoteFree (spaced p.2) = true := by
    have := (isWord_of_mem_connectiveWords hp).2.1.quoteFree
    simp [spaced, this, isQuote]
  exact ⟨h.quoteFree hnew ht, hvaried.trans fun us hus => h.hasVaried hp ht hus⟩

end TripletFacts
