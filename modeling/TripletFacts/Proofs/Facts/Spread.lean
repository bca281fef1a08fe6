import Mathlib.Data.List.Forall2
import TripletFacts.Facts.Reader
import TripletFacts.Proofs.Facts.TripletForm
import TripletFacts.Proofs.Regex.Acceptance

/-!
# Triplets with blanks between them

A search for triplets goes over blanks, and over every triplet to its own end. So it finds the
triplets of a text one after the other, and the pattern of whole texts goes over all of them.

## Main definitions

* `spread`: texts with blanks before, between and after them.

## Main results

* `Settings.keptIn_matchesIn_spread`: the triplets that are found.
* `Settings.isTripletText_iff`: which texts are triplets and nothing else.
-/

namespace TripletFacts

open Regex Cursor

/-- Texts with what stands before all of them and behind each of them. -/
def spread (before : List Char) (items : List (List Char × List Char)) : List Char :=
  before ++ items.flatMap fun i => i.1 ++ i.2

@[simp] theorem spread_nil (before : List Char) : spread before [] = before :=
  List.append_nil before

@[simp] theorem spread_cons (before : List Char) (i : List Char × List Char)
    (items : List (List Char × List Char)) :
    spread before (i :: items) = before ++ (i.1 ++ spread i.2 items) := by
  simp [spread]

/-- A text of blanks. -/
def IsBlanks (w : List Char) : Prop := ∀ x ∈ w, Unicode.isBlank x = true

instance (w : List Char) : Decidable (IsBlanks w) :=
  decidable_of_iff (w.all Unicode.isBlank = true) List.all_eq_true

/-- Triplets, each with blanks behind it. -/
def ArePlaced (items : List (Parts × List Char)) : Prop :=
  ∀ i ∈ items, i.1.Legible ∧ IsBlanks i.2

/-- Triplets as the pattern of triplets takes them, each with blanks behind it. -/
def AreTaken (items : List (Parts × List Char)) : Prop :=
  ∀ i ∈ items, i.1.Loose ∧ IsBlanks i.2

/-- The texts of triplets with what stands behind them. -/
def placedTexts (items : List (Parts × List Char)) : List (List Char × List Char) :=
  items.map fun i => (i.1.text, i.2)

theorem spread_placedTexts_cons (before : List Char) (p : Parts) (w : List Char)
    (items : List (Parts × List Char)) : spread before (placedTexts ((p, w) :: items)) =
      before ++ (p.text ++ spread w (placedTexts items)) :=
  spread_cons before _ _

theorem spread_placedTexts (before : List Char) (items : List (Parts × List Char)) :
    spread before (placedTexts items) = before ++ (items.map fun i => i.1.text ++ i.2).flatten := by
  simp [spread, placedTexts, List.flatMap_def, Function.comp_def]

namespace Settings

/-! ### Searching -/

/-- A triplet begins at its mark only. -/
theorem fails_triplet_of_ne {x : Char} (hx : x ≠ '$') (b a : List Char) :
    (standard.regex .triplet).Fails (between b (x :: a)) := by
  rw [regex_triplet]
  exact Fails.seq (fails_literal [] b (by simpa using hx))

/-- A search for triplets goes over a text in front of another one. -/
def Skips (w a : List Char) : Prop :=
  ∀ b, (standard.regex .triplet).findFrom (between b (w ++ a)) =
    (standard.regex .triplet).findFrom (between (w.reverse ++ b) a)

/-- A search goes over characters other than the mark of triplets. -/
theorem skips_of_ne {w : List Char} (hw : ∀ x ∈ w, x ≠ '$') (a : List Char) : Skips w a := fun _ =>
  findFrom_of_matchAt_eq_none fun x hx b a => (fails_triplet_of_ne (hw x hx) b a).matchAt

theorem ne_of_isBlanks {w : List Char} (hw : IsBlanks w) : ∀ x ∈ w, x ≠ '$' :=
  fun _ hx => ne_of_apply_ne Unicode.isBlank (by rw [hw _ hx]; decide)

theorem skips_blanks {w : List Char} (hw : IsBlanks w) (a : List Char) : Skips w a :=
  skips_of_ne (ne_of_isBlanks hw) a

theorem findFrom_nil (b : List Char) : (standard.regex .triplet).findFrom (between b []) = none :=
  Marks.standard.findFrom_nil b

/-- Triplets that can be told apart, with texts before, between and after them that a search goes
over. -/
def Found : List Char → List (Parts × List Char) → Prop
  | before, [] => Skips before []
  | before, (p, w) :: items =>
    Skips before (p.text ++ spread w (placedTexts items)) ∧ p.Legible ∧ Found w items

theorem found_of_arePlaced {items : List (Parts × List Char)} (h : ArePlaced items)
    {before : List Char} (hbefore : IsBlanks before) : Found before items := by
  induction items generalizing before with
  | nil => exact skips_blanks hbefore _
  | cons i items ih =>
    obtain ⟨hi, hitems⟩ := List.forall_mem_cons.1 h
    exact ⟨skips_blanks hbefore _, hi.1, ih hitems hi.2⟩

theorem Found.findAll_nil {before : List Char} (h : Found before []) (b : List Char)
    (fresh : Bool) : (standard.regex .triplet).findAll (between b before) fresh = [] := by
  have hfind := h b
  rw [List.append_nil, findFrom_nil] at hfind
  exact findAll_of_findFrom_eq_none hfind

/-- The next triplet is found, and it ends where its own text ends. -/
theorem Found.exists_findAll_cons {p : Parts} {before w : List Char}
    {items : List (Parts × List Char)} (h : Found before ((p, w) :: items)) (b : List Char)
    (fresh : Bool) :
    ∃ m, (standard.regex .triplet).findAll
        (between b (spread before (placedTexts ((p, w) :: items)))) fresh =
          m :: (standard.regex .triplet).findAll m.span.stop false ∧
      m.span.start = between (before.reverse ++ b) (p.text ++ spread w (placedTexts items)) ∧
      m.span.stop = between (p.text.reverse ++ (before.reverse ++ b))
        (spread w (placedTexts items)) ∧ p.KeptIn m.captures := by
  obtain ⟨hskips, hp, -⟩ := h
  obtain ⟨g, hkept, hway⟩ :=
    p.exists_prefers hp (before.reverse ++ b) (spread w (placedTexts items))
  have hfind := (hskips b).trans (findFrom_of_matchAt hway.matchAt)
  refine ⟨⟨⟨_, _⟩, g⟩, ?_, rfl, rfl, hkept⟩
  rw [spread_placedTexts_cons]
  refine findAll_of_findFrom hfind ?_
  simp [between, Parts.text]
  omega

/-- The triplets that are found from a position on. -/
theorem Found.keptIn_findAll {items : List (Parts × List Char)} {before : List Char}
    (h : Found before items) (b : List Char) (fresh : Bool) :
    List.Forall₂ (fun i m => i.1.KeptIn m.captures) items
      ((standard.regex .triplet).findAll
        (between b (spread before (placedTexts items))) fresh) := by
  induction items generalizing before b fresh with
  | nil =>
    rw [placedTexts, List.map_nil, spread_nil, h.findAll_nil]
    exact .nil
  | cons i items ih =>
    obtain ⟨m, hfind, -, hstop, hkept⟩ := h.exists_findAll_cons b fresh
    rw [hfind, hstop]
    exact .cons hkept (ih h.2.2 _ false)

/-- The triplets that are found in a text keep the parts of the triplets that are written in it. -/
theorem keptIn_matchesIn_spread {items : List (Parts × List Char)} (h : ArePlaced items)
    {before : List Char} (hbefore : IsBlanks before) :
    List.Forall₂ (fun i m => i.1.KeptIn m.captures) items
      ((standard.regex .triplet).matchesIn (spread before (placedTexts items))) :=
  (found_of_arePlaced h hbefore).keptIn_findAll [] true

/-- There are no triplets in a text without their mark. -/
theorem matchesIn_of_ne {text : List Char} (h : ∀ x ∈ text, x ≠ '$') :
    (standard.regex .triplet).matchesIn text = [] :=
  Found.findAll_nil (skips_of_ne h []) [] true

/-! ### Whole texts -/

/-- The expression of triplets and nothing else. -/
theorem regex_triplets : standard.regex .triplets =
    .seq (.look textStart) (.seq (.star true (.char Unicode.isBlank))
      (.seq (plus true (.seq tripletRegex (.star true (.char Unicode.isBlank))))
        (.look textEnd))) :=
  rfl

/-- Triplets with blanks behind them, one after the other. -/
theorem takes_placed : (plus true (.seq tripletRegex (.star true (.char Unicode.isBlank)))).Takes
    fun u => ∃ items, items ≠ [] ∧ AreTaken items ∧ u = spread [] (placedTexts items) := by
  refine (takes_tripletRegex.seq (takes_star_char true Unicode.isBlank)).plus.congr fun u => ?_
  simp only [spread_placedTexts, List.nil_append]
  constructor
  · rintro ⟨us, hne, hus, rfl⟩
    obtain ⟨items, hitems, rfl⟩ : ∃ items : List (Parts × List Char), AreTaken items ∧
        us = items.map fun i => i.1.text ++ i.2 := by
      clear hne
      induction us with
      | nil => exact ⟨[], by simp [AreTaken], rfl⟩
      | cons u us ih =>
        obtain ⟨⟨_, w, ⟨p, hp, rfl⟩, hw, rfl⟩, hrest⟩ := List.forall_mem_cons.1 hus
        obtain ⟨items, hitems, rfl⟩ := ih hrest
        exact ⟨(p, w) :: items, List.forall_mem_cons.2 ⟨⟨hp, hw⟩, hitems⟩, rfl⟩
    exact ⟨items, by simpa using hne, hitems, rfl⟩
  · rintro ⟨items, hne, hitems, rfl⟩
    refine ⟨items.map fun i => i.1.text ++ i.2, by simpa using hne, fun u hu => ?_, rfl⟩
    obtain ⟨⟨p, w⟩, hi, rfl⟩ := List.mem_map.1 hu
    exact ⟨p.text, w, ⟨p, (hitems _ hi).1, rfl⟩, (hitems _ hi).2, rfl⟩

/-- The pattern of whole texts goes over blanks and triplets from the beginning to the end. -/
theorem matches_triplets_iff {c c' : Cursor} : (standard.regex .triplets).Matches c c' ↔
    c.before = [] ∧ c'.after = [] ∧ ∃ before items, IsBlanks before ∧ items ≠ [] ∧
      AreTaken items ∧ c.Steps (spread before (placedTexts items)) c' := by
  have hblanks := takes_star_char true Unicode.isBlank
  simp only [regex_triplets, matches_seq_iff, matches_look_iff, hblanks _ _, takes_placed _ _]
  constructor
  · rintro ⟨_, ⟨hstart, rfl⟩, c₁, ⟨before, hbefore, hsteps⟩, c₂,
      ⟨_, ⟨items, hne, hitems, rfl⟩, hsteps'⟩, hend, rfl⟩
    refine ⟨by simpa [textStart, previous] using hstart, by simpa [textEnd, upcoming] using hend,
      before, items, hbefore, hne, hitems, ?_⟩
    have h := hsteps.trans hsteps'
    rwa [spread_placedTexts, List.nil_append, ← spread_placedTexts] at h
  · rintro ⟨hstart, hend, before, items, hbefore, hne, hitems, hsteps⟩
    rw [spread_placedTexts, steps_append_iff] at hsteps
    obtain ⟨c₁, hsteps, hsteps'⟩ := hsteps
    refine ⟨c, ⟨by simp [textStart, previous, hstart], rfl⟩, c₁, ⟨before, hbefore, hsteps⟩, c',
      ⟨_, ⟨items, hne, hitems, rfl⟩, ?_⟩, by simp [textEnd, upcoming, hend], rfl⟩
    rwa [spread_placedTexts, List.nil_append]

/-- The pattern of whole texts accepts the texts of at least one triplet, as the pattern of triplets
takes it, with blanks before, between and after them. -/
theorem isTripletText_iff {text : List Char} : standard.isTripletText text = true ↔
    ∃ before items, IsBlanks before ∧ items ≠ [] ∧ AreTaken items ∧
      text = spread before (placedTexts items) := by
  rw [isTripletText, accepts_iff]
  simp only [matches_triplets_iff]
  constructor
  · rintro ⟨p, q, c, rfl, hstart, hend, before, items, hbefore, hne, hitems, hsteps⟩
    obtain rfl : p = [] := List.reverse_eq_nil_iff.1 hstart
    have hq : q = spread before (placedTexts items) ++ c.after := hsteps.after
    rw [hend, List.append_nil] at hq
    exact ⟨before, items, hbefore, hne, hitems, hq⟩
  · rintro ⟨before, items, hbefore, hne, hitems, rfl⟩
    exact ⟨[], _, between (spread before (placedTexts items)).reverse [], rfl, rfl, rfl, before,
      items,
      hbefore, hne, hitems, (List.append_nil _).symm, (List.append_nil _).symm⟩

end Settings

/-- There are no facts in a text without the mark of triplets. -/
theorem Facts.read_of_ne {text : List Char} (h : ∀ x ∈ text, x ≠ '$') :
    Facts.read .standard text = .ok (Facts.empty .standard) := by
  rw [Facts.read, Settings.matchesIn_of_ne h]
  rfl

end TripletFacts
