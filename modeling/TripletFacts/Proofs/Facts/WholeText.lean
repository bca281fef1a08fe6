import TripletFacts.Proofs.Facts.Spread
import TripletFacts.Proofs.Regex.Unmatched

/-!
# Whole texts and the scan for triplets

Two things say that a text consists of triplets only: the pattern of whole texts accepts it, and the
scan for triplets skips nothing but blanks. What the scan goes over is accepted. The converse fails:
the pattern of whole texts tries all ways over the text, and a value without quotes may go over
marks of the end and over whatever stands between triplets, while the scan stops at the first of
these marks.

## Main definitions

* `Settings.ScansWhole`: the scan finds a triplet and skips nothing but blanks.

## Main results

* `Settings.isTripletText_of_scansWhole`: what the scan goes over is accepted.
* `Settings.scansWhole_spread`: the scan goes over triplets that can be told apart.
* `Settings.isTripletText_iff_scansWhole_iff`: where both say the same.
-/

namespace TripletFacts

open Regex Cursor

namespace Settings

/-- The scan for triplets finds at least one, and skips nothing but blanks. -/
def ScansWhole (text : List Char) : Prop :=
  (standard.regex .triplet).matchesIn text ≠ [] ∧
    IsBlanks ((standard.regex .triplet).unmatched text)

instance (text : List Char) : Decidable (ScansWhole text) := inferInstanceAs (Decidable (_ ∧ _))

/-! ### What the scan goes over -/

/-- Matches with nothing but blanks between them are triplets as the pattern takes them. -/
theorem exists_spread_of_inOrder {c : Cursor} {ms : List Match} (h : tripletRegex.InOrder c ms)
    (hblanks : IsBlanks (unmatchedFrom c ms)) :
    ∃ before items, IsBlanks before ∧ items.length = ms.length ∧ AreTaken items ∧
      c.after = spread before (placedTexts items) := by
  induction ms generalizing c with
  | nil => exact ⟨c.after, [], hblanks, rfl, by simp [AreTaken], by simp [placedTexts]⟩
  | cons m ms ih =>
    obtain ⟨⟨u, hu⟩, hm, hms⟩ := h
    rw [unmatchedFrom, hu.text, IsBlanks, List.forall_mem_append] at hblanks
    obtain ⟨before, items, hbefore, hlength, hitems, hafter⟩ := ih hms hblanks.2
    obtain ⟨_, ⟨p, hp, rfl⟩, hsteps⟩ := (takes_tripletRegex _ _).1 (leads_of_matchAt hm).2.matches
    refine ⟨u, (p, before) :: items, hblanks.1, congrArg (· + 1) hlength,
      List.forall_mem_cons.2 ⟨⟨hp, hbefore⟩, hitems⟩, ?_⟩
    rw [spread_placedTexts_cons, ← hafter, hu.after, hsteps.after]

/-- What the scan goes over is accepted. -/
theorem isTripletText_of_scansWhole {text : List Char} (h : ScansWhole text) :
    standard.isTripletText text = true := by
  obtain ⟨before, items, hbefore, hlength, hitems, htext⟩ := exists_spread_of_inOrder
    (inOrder_findAll tripletRegex (start text) true) h.2
  refine isTripletText_iff.2 ⟨before, items, hbefore, ?_, hitems, htext⟩
  rintro rfl
  exact h.1 (List.eq_nil_of_length_eq_zero hlength.symm)

/-- The scan leaves out what stands before, between and after the triplets that it finds. -/
theorem Found.unmatchedFrom_findAll {items : List (Parts × List Char)} {before : List Char}
    (h : Found before items) (b : List Char) (fresh : Bool) :
    unmatchedFrom (between b (spread before (placedTexts items)))
      ((standard.regex .triplet).findAll (between b (spread before (placedTexts items))) fresh) =
        before ++ items.flatMap Prod.snd := by
  induction items generalizing before b fresh with
  | nil =>
    rw [placedTexts, List.map_nil, spread_nil, h.findAll_nil]
    exact (List.append_nil before).symm
  | cons i items ih =>
    obtain ⟨m, hfind, hstart, hstop, -⟩ := h.exists_findAll_cons b fresh
    rw [hfind, unmatchedFrom, hstart, hstop, ih h.2.2, spread_placedTexts_cons, Span.text_between]
    rfl

/-- The scan goes over triplets that can be told apart. -/
theorem scansWhole_spread {items : List (Parts × List Char)} (hne : items ≠ [])
    (h : ArePlaced items) {before : List Char} (hbefore : IsBlanks before) :
    ScansWhole (spread before (placedTexts items)) := by
  have hfound := found_of_arePlaced h hbefore
  refine ⟨fun hnil => ?_, ?_⟩
  · have hlength := (hfound.keptIn_findAll [] true).length_eq
    rw [matchesIn, start_eq_between] at hnil
    rw [hnil] at hlength
    exact hne (List.eq_nil_of_length_eq_zero hlength)
  · rw [unmatched, matchesIn, start_eq_between, hfound.unmatchedFrom_findAll [] true]
    intro x hx
    rcases List.mem_append.1 hx with hx | hx
    · exact hbefore x hx
    · obtain ⟨i, hi, hx⟩ := List.mem_flatMap.1 hx
      exact (h i hi).2 x hx

/-! ### Where both say the same -/

/-- **The scan and the pattern of whole texts.** Both say the same of a text if the scan goes over
the whole of it, or if there are no triplets that it is made of, even where values may go over
marks of the end and over what stands between triplets. -/
theorem isTripletText_iff_scansWhole_iff (text : List Char) :
    (standard.isTripletText text = true ↔ ScansWhole text) ↔
      ScansWhole text ∨ ¬∃ before items, IsBlanks before ∧ items ≠ [] ∧ AreTaken items ∧
        text = spread before (placedTexts items) := by
  rw [← isTripletText_iff]
  constructor
  · intro h
    rw [h]
    exact Classical.em _
  · rintro (h | h)
    · exact iff_of_true (isTripletText_of_scansWhole h) h
    · exact iff_of_false h fun hscan => h (isTripletText_of_scansWhole hscan)

/-- The value of the first triplet goes over the mark of its end and over what is no triplet: the
text is accepted, and the scan skips a word of it. -/
theorem isTripletText_over_junk :
    standard.isTripletText "$A.B=1; junk $C.D=2;".toList = true ∧
      ¬ScansWhole "$A.B=1; junk $C.D=2;".toList := by
  decide +kernel

end Settings

end TripletFacts
