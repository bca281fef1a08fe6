import TripletFacts.Condition.Evaluate
import TripletFacts.Proofs.Facts.References
import TripletFacts.Proofs.Settings.Shape

/-!
# Calls that ask for presence

The patterns of references with a mark and of calls that ask for them need the mark. The patterns of
calls without a mark take any two words with a point between them, numerals too: where a text has no
reference, what such a call asks for begins with a digit, and no look-up accepts that as a prefix.

## Main definitions

* `Settings.callRegex`: the expression of a call.

## Main results

* `Settings.find?_eq_none_of_not_mem_mark`: nothing with a mark is found in a text without marks.
* `Settings.exists_of_find?_bareCall`: what a call without a mark asks for.
* `Facts.presence_of_isDecimalDigit`: a call that asks for a numeral fails.
-/

namespace TripletFacts

open Regex Cursor

/-- A blank may stand before a reference. -/
theorem isBoundary_of_isBlank {c : Char} : Unicode.isBlank c = true → isBoundary c = true :=
  Unicode.of_inRanges (P := fun c => isBoundary c = true) (by decide +kernel)

namespace Settings

/-! ### Expressions -/

/-- The characters of a text in any case. -/
def foldedRegex (s : String) : Regex :=
  s.toList.foldr (fun c r => .seq (.char fun x => Unicode.fold x == Unicode.fold c) r) .unit

/-- The expression of a call of one of two words. -/
def callRegex (word₁ word₂ : String) (argument : Regex) : Regex :=
  .seq (.look (wordBoundary false)) (.seq (.alt (foldedRegex word₁) (foldedRegex word₂))
    (.seq (.literal ['(']) (.seq (.star true (.char Unicode.isBlank))
      (.seq argument (.seq (.star true (.char Unicode.isBlank)) (.literal [')']))))))

theorem regex_present : standard.regex .present =
    callRegex "ЕСТЬ" "PRESENT" (.seq (.literal ['$']) pairRegex) := rfl

theorem regex_absent : standard.regex .absent =
    callRegex "НЕТ" "ABSENT" (.seq (.literal ['$']) pairRegex) := rfl

theorem regex_presentBare : standard.regex .presentBare =
    callRegex "ЕСТЬ" "PRESENT" pairRegex := rfl

theorem regex_absentBare : standard.regex .absentBare =
    callRegex "НЕТ" "ABSENT" pairRegex := rfl

/-! ### What is found -/

/-- What is taken for a word has its letters in any case. -/
theorem exists_of_leads_foldedRegex {word : String} {b a : List Char} {c' : Cursor}
    {g g' : Captures} (h : (foldedRegex word).Leads (between b a) g c' g') :
    ∃ u a', a = u ++ a' ∧ c' = between (u.reverse ++ b) a' ∧
      u.map Unicode.fold = word.toList.map Unicode.fold := by
  unfold foldedRegex at h
  generalize word.toList = cs at h
  induction cs generalizing b a g with
  | nil =>
    obtain ⟨rfl, rfl⟩ := leads_unit_iff.1 h
    exact ⟨[], a, rfl, rfl, rfl⟩
  | cons c cs ih =>
    obtain ⟨c₁, g₁, hchar, hrest⟩ := leads_seq_iff.1 h
    obtain ⟨x, a₁, rfl, hx, rfl, rfl⟩ := leads_char_iff.1 hchar
    obtain ⟨u, a', rfl, rfl, hu⟩ := ih hrest
    refine ⟨x :: u, a', rfl, by simp, ?_⟩
    rw [List.map_cons, List.map_cons, hu, eq_of_beq hx]

/-- The word of a call stands before a parenthesis, and the argument after it and blanks. -/
theorem exists_leads_of_leads_callRegex {word₁ word₂ : String} {argument : Regex}
    {b a : List Char} {c' : Cursor} {g g' : Captures}
    (h : (callRegex word₁ word₂ argument).Leads (between b a) g c' g') :
    ∃ u blanks a₁ g₁ c₁, a = u ++ '(' :: (blanks ++ a₁) ∧
      (∃ word ∈ [word₁, word₂], u.map Unicode.fold = word.toList.map Unicode.fold) ∧
      (∀ x ∈ blanks, Unicode.isBlank x = true) ∧
      argument.Leads (between (blanks.reverse ++ '(' :: (u.reverse ++ b)) a₁) g₁ c₁ g' := by
  obtain ⟨c₁, g₁, hlook, h₁⟩ := leads_seq_iff.1 h
  obtain ⟨-, rfl, rfl⟩ := leads_look_iff.1 hlook
  obtain ⟨c₂, g₂, hword, h₂⟩ := leads_seq_iff.1 h₁
  obtain ⟨u, a₂, rfl, rfl, hu⟩ : ∃ u a₂, a = u ++ a₂ ∧ c₂ = between (u.reverse ++ b) a₂ ∧
      ∃ word ∈ [word₁, word₂], u.map Unicode.fold = word.toList.map Unicode.fold := by
    rcases leads_alt_iff.1 hword with hword | hword
    · obtain ⟨u, a₂, rfl, rfl, hu⟩ := exists_of_leads_foldedRegex hword
      exact ⟨u, a₂, rfl, rfl, word₁, by simp, hu⟩
    · obtain ⟨u, a₂, rfl, rfl, hu⟩ := exists_of_leads_foldedRegex hword
      exact ⟨u, a₂, rfl, rfl, word₂, by simp, hu⟩
  obtain ⟨c₃, g₃, hopen, h₃⟩ := leads_seq_iff.1 h₂
  obtain ⟨a₃, rfl, rfl, rfl⟩ := leads_literal_iff.1 hopen
  obtain ⟨c₄, g₄, hblanks, h₄⟩ := leads_seq_iff.1 h₃
  obtain ⟨blanks, a₄, rfl, hchars, rfl, rfl⟩ := leads_star_char_iff.1 hblanks
  obtain ⟨c₅, g₅, hargument, h₅⟩ := leads_seq_iff.1 h₄
  obtain ⟨c₆, g₆, hblanks', hclose⟩ := leads_seq_iff.1 h₅
  rw [← between_before_after c₅] at hblanks'
  obtain ⟨u', a₆, -, -, rfl, rfl⟩ := leads_star_char_iff.1 hblanks'
  obtain ⟨a₇, -, -, rfl⟩ := leads_literal_iff.1 hclose
  exact ⟨u, blanks, a₄, _, c₅, rfl, hu, hchars, hargument⟩

/-- Nothing with a mark is found in a text without marks. -/
theorem find?_eq_none_of_not_mem_mark {t : List Char} (ht : '$' ∉ t) (shape : Shape)
    (hshape : shape ∈ [Shape.reference, .present, .absent]) :
    (standard.regex shape).find? t = none := by
  have hcall : ∀ word₁ word₂, (callRegex word₁ word₂ (.seq (.literal ['$']) pairRegex)).find? t =
      none := by
    intro word₁ word₂
    rw [find?_eq_none_iff]
    rintro p q rfl c' hmatches
    obtain ⟨g', hleads⟩ := hmatches.exists_leads []
    obtain ⟨u, blanks, a₁, g₁, c₁, rfl, -, -, hargument⟩ := exists_leads_of_leads_callRegex hleads
    obtain ⟨c₂, g₂, hmark, -⟩ := leads_seq_iff.1 hargument
    obtain ⟨a₂, rfl, -⟩ := leads_literal_iff.1 hmark
    exact ht (by simp)
  simp only [List.mem_cons, List.not_mem_nil, or_false] at hshape
  rcases hshape with rfl | rfl | rfl
  · rw [regex_reference, find?_eq_none_iff]
    rintro p q rfl c' hmatches
    obtain ⟨g', hleads⟩ := hmatches.exists_leads []
    obtain ⟨c₂, g₂, hmark, -⟩ := leads_seq_iff.1 hleads
    obtain ⟨a₂, rfl, -⟩ := leads_literal_iff.1 hmark
    exact ht (by simp)
  · rw [regex_present]
    exact hcall _ _
  · rw [regex_absent]
    exact hcall _ _

/-- Where a text has no reference, a call without a mark asks for something that begins with a
digit. -/
theorem exists_of_find?_bareCall {t : List Char} (ht : ¬HasBareReference t) {word₁ word₂ : String}
    {m : Match} (h : (callRegex word₁ word₂ pairRegex).find? t = some m) :
    ∃ x w, m.groupText 1 = x :: w ∧ Unicode.isDecimalDigit x = true := by
  obtain ⟨p, q, rfl, hleads⟩ := exists_of_find?_eq_some h
  obtain ⟨u, blanks, a₁, g₁, c₁, rfl, -, hblanks, hargument⟩ :=
    exists_leads_of_leads_callRegex hleads
  obtain ⟨x, w, d, r, rfl, hx, hw, hd, s, s', hg, htext⟩ := exists_of_leads_pairRegex hargument
  refine ⟨x, w, ?_, ?_⟩
  · rw [Match.groupText, Match.group, hg]
    exact htext
  · cases hdigit : Unicode.isDecimalDigit x with
    | true => rfl
    | false =>
      -- a letter there would begin a reference
      refine absurd ⟨p ++ (u ++ '(' :: blanks), x, w, d, r, by simp, fun y hy => ?_, ?_, hw, hd⟩ ht
      · rcases blanks.eq_nil_or_concat with rfl | ⟨blanks, z, rfl⟩
        · obtain rfl : '(' = y := by simpa using hy
          decide
        · obtain rfl : z = y := by simpa [List.getLast?_append, List.getLast?_cons] using hy
          exact isBoundary_of_isBlank (hblanks z (by simp))
      · simp [isLetter, hx, hdigit]

end Settings

/-! ### Numerals as prefixes -/

/-- Nothing that begins with a digit is accepted as a prefix. -/
theorem exists_error_of_buildPfx {s : String} {x : Char} {w : List Char} (hs : s.toList = x :: w)
    (hx : Unicode.isDecimalDigit x = true) : ∃ e, Settings.standard.buildPfx s = .error e := by
  cases hvalid : Settings.standard.validate .pfx (.str s) with
  | error e => exact ⟨e, by rw [Settings.buildPfx, hvalid]; rfl⟩
  | ok u =>
    obtain ⟨c, u, d, hshape, hcapitals, -⟩ := exists_capitals_of_validate_pfx hvalid
    obtain ⟨rfl, -⟩ := List.cons_eq_cons.1 (hs.symm.trans hshape)
    simp [isCapital_of_isDecimalDigit hx] at hcapitals

/-- A call that asks for a numeral fails. -/
theorem Facts.presence_of_isDecimalDigit {f : Facts} (hf : f.settings = .standard) (present : Bool)
    {m : Match} {x : Char} {w : List Char} (hm : m.groupText 1 = x :: w)
    (hx : Unicode.isDecimalDigit x = true) : ∃ e, f.presence present m = .error e := by
  have hs : (Unicode.upper (String.ofList (x :: w))).toList = x :: w.flatMap Unicode.upperChar := by
    rw [Unicode.upper, String.toList_ofList, String.toList_ofList, List.flatMap_cons,
      upperChar_of_isDecimalDigit hx, List.singleton_append]
  obtain ⟨e, he⟩ := exists_error_of_buildPfx hs hx
  refine ⟨.fact e, ?_⟩
  rw [presence, containsWritten, containsKey, lookupKey, hf, hm, he]
  rfl

/-! ### Replacing calls -/

namespace Settings

/-- Code in which no call asks for presence without a mark. -/
def AsksNothing (code : List Char) : Prop :=
  (standard.regex .presentBare).find? code = none ∧ (standard.regex .absentBare).find? code = none

section

variable {facts db : Facts} {code : List Char}

/-- The calls without a mark are replaced after those with a mark, if there are facts that they can
ask for. -/
theorem resolvePresence_eq_ite {u t : List Char}
    (hpresent : (standard.regex .present).replaceM (facts.presence true) code = .ok u)
    (habsent : (standard.regex .absent).replaceM (facts.presence false) u = .ok t) :
    standard.resolvePresence facts db code = if db.isEmpty then .ok t else
      ((standard.regex .presentBare).replaceM (db.presence true) t).bind
        ((standard.regex .absentBare).replaceM (db.presence false)) := by
  rw [resolvePresence, hpresent]
  change ((standard.regex .absent).replaceM (facts.presence false) u).bind _ = _
  rw [habsent]
  rfl

/-- Without marks only the calls without marks are replaced. -/
theorem resolvePresence_of_not_mem_mark (hmark : '$' ∉ code) :
    standard.resolvePresence facts db code = if db.isEmpty then .ok code else
      ((standard.regex .presentBare).replaceM (db.presence true) code).bind
        ((standard.regex .absentBare).replaceM (db.presence false)) :=
  resolvePresence_eq_ite
    (replaceM_of_find?_eq_none (find?_eq_none_of_not_mem_mark hmark .present (by simp)))
    (replaceM_of_find?_eq_none (find?_eq_none_of_not_mem_mark hmark .absent (by simp)))

/-- Code that asks for nothing is kept, and all code without marks is if there is nothing to ask
for. -/
theorem resolvePresence_eq_self (hmark : '$' ∉ code)
    (h : db.isEmpty = true ∨ AsksNothing code) :
    standard.resolvePresence facts db code = .ok code := by
  rw [resolvePresence_of_not_mem_mark hmark]
  split
  · rfl
  · obtain ⟨hpresent, habsent⟩ := h.resolve_left ‹_›
    rw [replaceM_of_find?_eq_none hpresent]
    exact replaceM_of_find?_eq_none habsent

/-- Where no reference without a mark is, every call that asks without a mark fails. -/
theorem asksNothing_of_resolvePresence (hsettings : db.settings = .standard) (hmark : '$' ∉ code)
    (hbare : ¬HasBareReference code) (hdb : db.isEmpty = false) {u : List Char}
    (h : standard.resolvePresence facts db code = .ok u) : AsksNothing code := by
  rw [resolvePresence_of_not_mem_mark hmark, hdb, if_neg Bool.false_ne_true] at h
  have hpresent : (standard.regex .presentBare).find? code = none := by
    cases hfind : (standard.regex .presentBare).find? code with
    | none => rfl
    | some m =>
      obtain ⟨x, w, hm, hx⟩ := exists_of_find?_bareCall hbare (regex_presentBare ▸ hfind)
      obtain ⟨e, he⟩ := Facts.presence_of_isDecimalDigit hsettings true hm hx
      rw [replaceM_of_find?_eq_some hfind he] at h
      cases h
  rw [replaceM_of_find?_eq_none hpresent] at h
  refine ⟨hpresent, ?_⟩
  cases hfind : (standard.regex .absentBare).find? code with
  | none => rfl
  | some m =>
    obtain ⟨x, w, hm, hx⟩ := exists_of_find?_bareCall hbare (regex_absentBare ▸ hfind)
    obtain ⟨e, he⟩ := Facts.presence_of_isDecimalDigit hsettings false hm hx
    change (standard.regex .absentBare).replaceM (db.presence false) code = .ok u at h
    rw [replaceM_of_find?_eq_some hfind he] at h
    cases h

end

end Settings

end TripletFacts
