import TripletFacts.Facts.Pattern
import TripletFacts.Proofs.Regex.Ways
import TripletFacts.Proofs.Unicode.Classes

/-!
# References in a text

A reference is a word, a point and another word after the mark of references. A reference without a
mark is a word that begins with no digit, a point and another word, and it
stands at the beginning of a text or after a character that is neither a word character nor one of
the marks of references. Whether a text has one does not depend on the case of the letters of ASCII,
and is told apart before and after a blank.

## Main definitions

* `Settings.pairRegex`: the expression of two words with a point between them.
* `isLetter`, `isBoundary`: what a reference begins with, and what may stand before it.
* `HasBareReference`: texts with a reference.

## Main results

* `Settings.find?_bareReference_eq_none_iff`: the pattern finds the references.
* `hasBareReference_append_blank`: references before and after a blank.
* `hasBareReference_map_asciiLower`: references in small letters.
-/

namespace TripletFacts

/-- A word character that is not a digit. -/
def isLetter (c : Char) : Bool := Unicode.isWord c && !Unicode.isDecimalDigit c

/-- A character that may stand before a reference. -/
def isBoundary (c : Char) : Bool := !Unicode.isWord c && !(['.', '$'].contains c)

/-- The letter `l` and the word characters `w` before a point and the word character `d` after it
are a reference after the text `p`. -/
structure IsBareReference (p : List Char) (l : Char) (w : List Char) (d : Char) : Prop where
  boundary : ∀ x ∈ p.getLast?, isBoundary x = true
  letter : isLetter l = true
  word : ∀ x ∈ w, Unicode.isWord x = true
  first : Unicode.isWord d = true

/-- A text with a reference in it. -/
def HasBareReference (t : List Char) : Prop :=
  ∃ p l w d r, t = p ++ l :: (w ++ '.' :: d :: r) ∧ IsBareReference p l w d

/-! ### The pattern -/

namespace Settings

open Regex Cursor

/-- The expression of a word that is kept. -/
def wordRegex (index : Nat) : Regex := .group index (plus true (.char Unicode.isWord))

/-- The expression of two words with a point between them. -/
def pairRegex : Regex := .seq (wordRegex 1) (.seq (.literal ['.']) (wordRegex 2))

/-- Two words with a point between them, and what is kept of the first one. -/
theorem exists_of_leads_pairRegex {b a : List Char} {c' : Cursor} {g g' : Captures}
    (h : pairRegex.Leads (between b a) g c' g') :
    ∃ x w d r, a = x :: (w ++ '.' :: d :: r) ∧ Unicode.isWord x = true ∧
      (∀ y ∈ w, Unicode.isWord y = true) ∧ Unicode.isWord d = true ∧
      ∃ s s', g' = (2, s') :: (1, s) :: g ∧ s.text = x :: w := by
  obtain ⟨c₁, g₁, hfirst, h₁⟩ := leads_seq_iff.1 h
  obtain ⟨g₂, hword, rfl⟩ := leads_group_iff.1 hfirst
  obtain ⟨x, w, a₁, rfl, hx, hw, rfl, rfl⟩ := leads_plus_char_iff.1 hword
  obtain ⟨c₂, g₃, hpoint, hsecond⟩ := leads_seq_iff.1 h₁
  obtain ⟨a₂, rfl, rfl, rfl⟩ := leads_literal_iff.1 hpoint
  obtain ⟨g₄, hlast, rfl⟩ := leads_group_iff.1 hsecond
  obtain ⟨d, u, a₃, rfl, hd, -, rfl, rfl⟩ := leads_plus_char_iff.1 hlast
  exact ⟨x, w, d, u ++ a₃, rfl, hx, hw, hd, _, _, rfl, Span.text_between b (x :: w) _⟩

/-- The expression of references with a mark. -/
theorem regex_reference : standard.regex .reference = .seq (.literal ['$']) pairRegex := rfl

/-- The expression of a reference without what stands before it. -/
def referenceTail : Regex :=
  .seq (.group 2 (.seq (.char isLetter) (.star true (.char Unicode.isWord))))
    (.seq (.literal ['.']) (.group 3 (plus true (.char Unicode.isWord))))

/-- The expression of references without a mark. -/
theorem regex_bareReference : standard.regex .bareReference =
    .seq (.group 1 (.alt (.look textStart) (.char isBoundary))) referenceTail :=
  rfl

/-- The pattern leads over a reference from its first character on. -/
theorem leads_referenceTail_iff {b a : List Char} {g : Captures} :
    (∃ c' g', referenceTail.Leads (between b a) g c' g') ↔
      ∃ l w d r, a = l :: (w ++ '.' :: d :: r) ∧ isLetter l = true ∧
        (∀ x ∈ w, Unicode.isWord x = true) ∧ Unicode.isWord d = true := by
  constructor
  · rintro ⟨c', g', h⟩
    obtain ⟨c₁, g₁, hfirst, hsecond⟩ := leads_seq_iff.1 h
    obtain ⟨g₂, hword, rfl⟩ := leads_group_iff.1 hfirst
    obtain ⟨c₂, g₃, hletter, hstar⟩ := leads_seq_iff.1 hword
    obtain ⟨l, a₁, rfl, hl, rfl, rfl⟩ := leads_char_iff.1 hletter
    obtain ⟨w, a₂, rfl, hw, rfl, rfl⟩ := leads_star_char_iff.1 hstar
    obtain ⟨c₃, g₄, hpoint, hlast⟩ := leads_seq_iff.1 hsecond
    obtain ⟨a₃, rfl, rfl, rfl⟩ := leads_literal_iff.1 hpoint
    obtain ⟨g₅, hplus, rfl⟩ := leads_group_iff.1 hlast
    obtain ⟨d, u, a₄, rfl, hd, hu, rfl, rfl⟩ := leads_plus_char_iff.1 hplus
    exact ⟨l, w, d, u ++ a₄, rfl, hl, hw, hd⟩
  · rintro ⟨l, w, d, r, rfl, hl, hw, hd⟩
    exact ⟨_, _, .seq (.group (.seq (leads_char hl b _ g) (leads_star_char hw (l :: b) _ g)))
      (.seq (leads_literal ['.'] _ (d :: ([] ++ r)) _)
        (.group (leads_plus_char hd (by simp) _ r _)))⟩

/-- The pattern finds the references without a mark. -/
theorem find?_bareReference_eq_none_iff {t : List Char} :
    (standard.regex .bareReference).find? t = none ↔ ¬HasBareReference t := by
  rw [regex_bareReference]
  constructor
  · rintro hnone ⟨p, l, w, d, r, rfl, href⟩
    rw [find?_eq_none_iff] at hnone
    have htail : ∀ b g, ∃ c' g',
        referenceTail.Leads (between b (l :: (w ++ '.' :: d :: r))) g c' g' := fun b g =>
      leads_referenceTail_iff.2 ⟨l, w, d, r, rfl, href.letter, href.word, href.first⟩
    rcases p.eq_nil_or_concat with rfl | ⟨p, x, rfl⟩
    · obtain ⟨c', g', h⟩ := htail [] [(1, ⟨between [] _, between [] _⟩)]
      exact hnone [] _ rfl c' (Leads.seq (.group (.altLeft (.look (g := []) rfl))) h).matches
    · obtain ⟨c', g', h⟩ := htail (x :: p.reverse) [(1, ⟨between p.reverse _, between _ _⟩)]
      have hboundary := leads_char (href.boundary x (by simp)) p.reverse
        (l :: (w ++ '.' :: d :: r)) []
      exact hnone p _ (by simp) c'
        (Leads.seq (.group (.altRight hboundary)) h).matches
  · intro hnone
    cases hfind : (Regex.seq (.group 1 (.alt (.look textStart) (.char isBoundary)))
      referenceTail).find? t with
    | none => rfl
    | some m =>
      obtain ⟨p, q, rfl, hway⟩ := exists_of_find?_eq_some hfind
      obtain ⟨c₁, g₁, hbefore, htail⟩ := leads_seq_iff.1 hway
      obtain ⟨g₂, halt, rfl⟩ := leads_group_iff.1 hbefore
      rcases leads_alt_iff.1 halt with hstart | hboundary
      · obtain ⟨hnil, rfl, rfl⟩ := leads_look_iff.1 hstart
        obtain ⟨l, w, d, r, rfl, hl, hw, hd⟩ := leads_referenceTail_iff.1 ⟨_, _, htail⟩
        obtain rfl : p = [] := by simpa [textStart, between, previous] using hnil
        exact absurd ⟨[], l, w, d, r, rfl, by simp, hl, hw, hd⟩ hnone
      · obtain ⟨x, a, rfl, hx, rfl, rfl⟩ := leads_char_iff.1 hboundary
        obtain ⟨l, w, d, r, rfl, hl, hw, hd⟩ := leads_referenceTail_iff.1 ⟨_, _, htail⟩
        refine absurd ⟨p ++ [x], l, w, d, r, by simp, ?_, hl, hw, hd⟩ hnone
        simpa using hx

end Settings

/-! ### References in changed texts -/

/-- A text with a reference has a point. -/
theorem HasBareReference.mem_point {t : List Char} (h : HasBareReference t) : '.' ∈ t := by
  obtain ⟨p, l, w, d, r, rfl, -⟩ := h
  simp

/-- A text without blanks at the beginning of a text lies before the first blank. -/
theorem exists_eq_append_of_not_mem {c : Char} {u r x y : List Char} (h : u ++ r = x ++ c :: y)
    (hu : c ∉ u) : ∃ r', x = u ++ r' := by
  rcases List.append_eq_append_iff.1 h with ⟨v, hx, -⟩ | ⟨v, hu', hy⟩
  · exact ⟨v, hx⟩
  · cases v with
    | nil => exact ⟨[], by simpa using hu'.symm⟩
    | cons d v =>
      obtain ⟨rfl, -⟩ := List.cons_eq_cons.1 hy
      exact absurd (by simp [hu']) hu

/-- A text is cut at the first place of a character in one way only. -/
theorem eq_of_append_cons {c : Char} {u v r s : List Char} (h : u ++ c :: r = v ++ c :: s)
    (hu : c ∉ u) (hv : c ∉ v) : u = v ∧ r = s := by
  obtain ⟨x, rfl⟩ := exists_eq_append_of_not_mem h hu
  obtain ⟨y, hy⟩ := exists_eq_append_of_not_mem h.symm hv
  have hlen := congrArg List.length hy
  simp only [List.length_append] at hlen
  obtain rfl := List.eq_nil_of_length_eq_zero (show x.length = 0 by omega)
  rw [List.append_nil] at h ⊢
  exact ⟨rfl, (List.cons_eq_cons.1 (List.append_cancel_left h)).2⟩

/-- References are told apart before and after a blank. -/
theorem hasBareReference_append_blank {x y : List Char} :
    HasBareReference (x ++ ' ' :: y) ↔ HasBareReference x ∨ HasBareReference y := by
  have hblank : Unicode.isWord ' ' = false := by decide
  constructor
  · rintro ⟨p, l, w, d, r, h, href⟩
    rcases List.append_eq_append_iff.1 h with ⟨v, rfl, hv⟩ | ⟨v, rfl, hv⟩
    · -- the reference begins at the blank or after it
      cases v with
      | nil =>
        obtain ⟨rfl, -⟩ := List.cons_eq_cons.1 hv
        exact absurd href.letter (by decide)
      | cons c v =>
        obtain ⟨rfl, rfl⟩ := List.cons_eq_cons.1 hv
        refine .inr ⟨v, l, w, d, r, rfl, fun z hz => ?_, href.letter, href.word, href.first⟩
        exact href.boundary z (by simp_all [List.getLast?_append, List.getLast?_cons])
    · -- the reference begins before the blank, and no blank is in it
      have hnot : ' ' ∉ l :: (w ++ ['.', d]) := by
        intro hmem
        simp only [List.mem_cons, List.mem_append, List.not_mem_nil, or_false] at hmem
        rcases hmem with rfl | hmem | h | rfl
        · exact absurd href.letter (by decide)
        · exact absurd (href.word _ hmem) (by decide)
        · cases h
        · exact absurd href.first (by decide)
      obtain ⟨r', rfl⟩ := exists_eq_append_of_not_mem (u := l :: (w ++ ['.', d])) (r := r)
        (x := v) (y := y) (by simpa using hv) hnot
      exact .inl ⟨p, l, w, d, r', by simp, href⟩
  · rintro (⟨p, l, w, d, r, rfl, href⟩ | ⟨p, l, w, d, r, rfl, href⟩)
    · exact ⟨p, l, w, d, r ++ ' ' :: y, by simp, href⟩
    · refine ⟨x ++ ' ' :: p, l, w, d, r, by simp, fun z hz => ?_, href.letter, href.word,
        href.first⟩
      rcases p.eq_nil_or_concat with rfl | ⟨p, e, rfl⟩
      · obtain rfl : ' ' = z := by simpa using hz
        decide
      · exact href.boundary z (by simp_all [List.getLast?_append, List.getLast?_cons])

theorem isLetter_asciiLower (c : Char) : isLetter (asciiLower c) = isLetter c := by
  simp [isLetter]

theorem isBoundary_asciiLower (c : Char) : isBoundary (asciiLower c) = isBoundary c :=
  of_asciiLower (P := fun c d => isBoundary d = isBoundary c) (fun _ => rfl) (by decide) c

/-- References do not depend on the case of letters. -/
theorem hasBareReference_map_asciiLower {t : List Char} :
    HasBareReference (t.map asciiLower) ↔ HasBareReference t := by
  constructor
  · rintro ⟨p, l, w, d, r, h, href⟩
    obtain ⟨p, t₁, rfl, rfl, h₁⟩ := List.map_eq_append_iff.1 h
    obtain ⟨l, t₂, rfl, rfl, h₂⟩ := List.map_eq_cons_iff.1 h₁
    obtain ⟨w, t₃, rfl, rfl, h₃⟩ := List.map_eq_append_iff.1 h₂
    obtain ⟨point, t₄, rfl, hpoint, h₄⟩ := List.map_eq_cons_iff.1 h₃
    obtain ⟨d, r, rfl, rfl, rfl⟩ := List.map_eq_cons_iff.1 h₄
    obtain rfl : point = '.' := (asciiLower_eq_iff (by decide)).1 hpoint
    refine ⟨p, l, w, d, r, rfl, fun x hx => ?_, ?_, fun x hx => ?_, ?_⟩
    · have hlast := href.boundary (asciiLower x) (by simp_all [List.getLast?_map])
      rwa [isBoundary_asciiLower] at hlast
    · simpa [isLetter_asciiLower] using href.letter
    · simpa using href.word (asciiLower x) (List.mem_map_of_mem hx)
    · simpa using href.first
  · rintro ⟨p, l, w, d, r, rfl, href⟩
    refine ⟨p.map asciiLower, asciiLower l, w.map asciiLower, asciiLower d, r.map asciiLower,
      by simp [asciiLower], fun x hx => ?_, ?_, ?_, ?_⟩
    · rw [List.getLast?_map, Option.mem_def, Option.map_eq_some_iff] at hx
      obtain ⟨y, hy, rfl⟩ := hx
      rw [isBoundary_asciiLower]
      exact href.boundary y hy
    · rw [isLetter_asciiLower]
      exact href.letter
    · simpa using href.word
    · simpa using href.first

end TripletFacts
