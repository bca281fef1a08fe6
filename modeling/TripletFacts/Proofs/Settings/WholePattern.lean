import TripletFacts.Proofs.Regex.Language
import TripletFacts.Proofs.Regex.Whole
import TripletFacts.Proofs.Settings.Shape

/-!
# Patterns of fields

The pattern of a field is written between the ends of a text, so that it means a match of a whole
text. This is the case exactly if the pattern denotes an expression alone and between the ends, or
in neither place. A pattern that can be read alone denotes one between the ends unless it ends in a
comment or a limit is exceeded there. A pattern that cannot be read alone may denote one between the
ends, but only if one of its parentheses closes nothing.

## Main definitions

* `Regex.MatchesWhole`: an expression matches the whole of a text.
* `FullMatchLaw`: a field with a pattern takes what the pattern matches.

## Main results

* `Regex.accepts_whole_iff`: the tree between the ends matches whole texts.
* `fullMatchLaw_iff`: the patterns for which the law holds.
-/

namespace TripletFacts

open Regex Cursor

variable {p : String} {t w : Tree} {text : List Char}

/-! ### Whole texts -/

/-- An expression matches the whole of a text. -/
def Regex.MatchesWhole (r : Regex) (text : List Char) : Prop :=
  ∃ c, r.Matches (Cursor.start text) c ∧ c.after = []

theorem Regex.accepts_whole_iff :
    t.whole.regex.accepts text = true ↔ t.regex.MatchesWhole text := by
  have hregex : t.whole.regex =
      .seq (.look textStart) (.seq t.regex (.seq (.look textEnd) .unit)) := rfl
  rw [hregex]
  constructor
  · intro h
    obtain ⟨b, g, hleads⟩ := exists_leads_of_accepts t.regex h
    exact ⟨between b [], hleads.matches, rfl⟩
  · rintro ⟨c, hbody, hafter⟩
    refine accepts_iff.2 ⟨[], text, c, rfl,
      .seq (.look rfl) (.seq hbody (.seq (.look ?_) (.unit c)))⟩
    rw [textEnd, upcoming, hafter]
    rfl

/-! ### Expressions between the ends -/

theorem ofText?_eq_some_iff {r : Regex} : ofText? text = some r ↔
    ∃ t, Tree.read? text = some t ∧ t.nesting ≤ maxNesting ∧ t.fits = true ∧ t.regex = r := by
  rw [ofText?, Option.bind_eq_some_iff]
  simp only [Bool.and_eq_true, decide_eq_true_eq, Option.ite_none_right_eq_some, Option.some.injEq,
    and_assoc]

theorem isSome_ofText?_iff : (ofText? text).isSome = true ↔
    ∃ t, Tree.read? text = some t ∧ t.nesting ≤ maxNesting ∧ t.fits = true := by
  rw [Option.isSome_iff_exists]
  simp only [ofText?_eq_some_iff]
  exact ⟨fun ⟨_, t, hread, hnesting, hfits, _⟩ => ⟨t, hread, hnesting, hfits⟩,
    fun ⟨t, hread, hnesting, hfits⟩ => ⟨_, t, hread, hnesting, hfits, rfl⟩⟩

/-- A pattern that can be read denotes an expression between the ends unless it ends open or a limit
is exceeded. -/
theorem isSome_wholePattern?_iff (h : Tree.read? p.toList = some t) :
    (wholePattern? p).isSome = true ↔
      ¬ EndsOpen p.toList ∧ t.nesting + 2 ≤ maxNesting ∧ t.whole.fits = true := by
  rw [wholePattern?, ← wholeText, isSome_ofText?_iff, ← Tree.nesting_whole]
  constructor
  · rintro ⟨w, hw, hnesting, hfits⟩
    obtain ⟨t', ht', rfl, hopen⟩ | ⟨hnone, -⟩ := read_of_read?_wholeText hw hnesting
    · obtain rfl : t' = t := Option.some.inj (ht'.symm.trans h)
      exact ⟨hopen, hnesting, hfits⟩
    · rw [h] at hnone
      cases hnone
  · rintro ⟨hopen, hnesting, hfits⟩
    rw [Tree.nesting_whole] at hnesting
    exact ⟨t.whole, read?_wholeText_of_read? h hopen (by omega), by rwa [Tree.nesting_whole], hfits⟩

example : (ofText? "(?x)A # a".toList).isSome = true ∧
    (wholePattern? "(?x)A # a").isSome = false := by decide

/-- A pattern that cannot be read denotes an expression between the ends only if one of its
parentheses closes nothing. -/
theorem hasStrayParenthesis_of_wholePattern? (h : Tree.read? p.toList = none)
    (hwhole : (wholePattern? p).isSome = true) : HasStrayParenthesis p.toList := by
  obtain ⟨w, hw, hnesting, -⟩ := isSome_ofText?_iff.1 hwhole
  obtain ⟨t, ht, -⟩ | ⟨-, hstray⟩ := read_of_read?_wholeText hw hnesting
  · rw [h] at ht
    cases ht
  · exact hstray

/-- What a pattern denotes between the ends, if it denotes something alone. -/
theorem exists_of_wholePattern? {r r' : Regex} (h : ofText? p.toList = some r)
    (hwhole : wholePattern? p = some r') :
    ∀ text, r'.accepts text = true ↔ r.MatchesWhole text := by
  obtain ⟨t, ht, -, -, rfl⟩ := ofText?_eq_some_iff.1 h
  obtain ⟨w, hw, hnesting, -, rfl⟩ := ofText?_eq_some_iff.1 hwhole
  obtain ⟨t', ht', rfl, -⟩ | ⟨hnone, -⟩ := read_of_read?_wholeText hw hnesting
  · obtain rfl : t' = t := Option.some.inj (ht'.symm.trans ht)
    exact fun text => accepts_whole_iff
  · rw [ht] at hnone
    cases hnone

/-! ### Fields -/

/-- A field with a pattern takes the texts that the pattern matches as a whole, among those of an
allowed length, and refuses the others; it refuses the pattern if it denotes no expression. -/
def FullMatchLaw (p : String) : Prop :=
  ∀ (s : Settings) (field : Field) (text : String), (s.rules field).pattern = some p →
    .str ∈ (s.rules field).kinds → (s.rules field).HasLength text →
    match ofText? p.toList with
    | none => s.validate field (.str text) = .error (.badPattern p)
    | some r =>
      (r.MatchesWhole text.toList → s.validate field (.str text) = .ok ()) ∧
        (¬ r.MatchesWhole text.toList →
          s.validate field (.str text) = .error (.badFormat field text))

/-- A text of an allowed length is held against the pattern. -/
theorem validate_str {s : Settings} {field : Field} {text : String}
    (hp : (s.rules field).pattern = some p) (hkind : .str ∈ (s.rules field).kinds)
    (hlength : (s.rules field).HasLength text) :
    s.validate field (.str text) =
      match wholePattern? p with
      | none => .error (.badPattern p)
      | some r => if r.accepts text.toList then .ok () else .error (.badFormat field text) := by
  have hkind : (s.rules field).accepts (Candidate.str text).kind = true :=
    List.contains_iff_mem.2 hkind
  rw [Settings.validate, FieldRules.validate, if_pos hkind, FieldRules.validateText,
    if_pos hlength, hp]
  simp only [fullMatch]
  cases wholePattern? p with
  | none => rfl
  | some r => by_cases haccepts : r.accepts text.toList = true <;> simp [haccepts]

/-- The law holds if the pattern denotes an expression alone and between the ends, or in neither
place. -/
theorem fullMatchLaw_of_iff
    (h : (ofText? p.toList).isSome = true ↔ (wholePattern? p).isSome = true) : FullMatchLaw p := by
  intro s field text hp hkind hlength
  rw [validate_str hp hkind hlength]
  cases hread : ofText? p.toList with
  | none =>
    cases hwhole : wholePattern? p with
    | none => rfl
    | some r' => simp [hread, hwhole] at h
  | some r =>
    cases hwhole : wholePattern? p with
    | none => simp [hread, hwhole] at h
    | some r' =>
      have haccepts := exists_of_wholePattern? hread hwhole text.toList
      exact ⟨fun hmatches => if_pos (haccepts.2 hmatches),
        fun hmatches => if_neg fun h => hmatches (haccepts.1 h)⟩

example : FullMatchLaw "[A-Z]+\\d*" := fullMatchLaw_of_iff (iff_of_true (by decide) (by decide))

/-- The standard settings with another pattern of prefixes. -/
def withPfxPattern (p : String) : Settings :=
  { Settings.standard with pfxRules := { Settings.standard.pfxRules with pattern := some p } }

theorem isSome_iff_of_fullMatchLaw (h : FullMatchLaw p) :
    (ofText? p.toList).isSome = true ↔ (wholePattern? p).isSome = true := by
  have hkind : Kind.str ∈ ((withPfxPattern p).rules .pfx).kinds := List.mem_singleton.2 rfl
  have hlength : ((withPfxPattern p).rules .pfx).HasLength "A" :=
    show Settings.standard.pfxRules.HasLength "A" by decide
  have hlaw := h (withPfxPattern p) .pfx "A" rfl hkind hlength
  rw [validate_str rfl hkind hlength] at hlaw
  cases hread : ofText? p.toList with
  | none =>
    rw [hread] at hlaw
    cases hwhole : wholePattern? p with
    | none => rfl
    | some r' =>
      rw [hwhole] at hlaw
      dsimp only at hlaw
      split at hlaw <;> cases hlaw
  | some r =>
    rw [hread] at hlaw
    cases hwhole : wholePattern? p with
    | none =>
      rw [hwhole] at hlaw
      by_cases hmatches : r.MatchesWhole "A".toList
      · cases hlaw.1 hmatches
      · cases hlaw.2 hmatches
    | some r' => rfl

/-- The patterns that mean a match of the whole text: those that denote an expression alone and
between the ends, or in neither place. A pattern that can be read alone denotes one between the ends
unless it ends open or a limit is exceeded there; one that cannot be read alone does so only if one
of its parentheses closes nothing. -/
theorem fullMatchLaw_iff (p : String) :
    (FullMatchLaw p ↔ ((ofText? p.toList).isSome = true ↔ (wholePattern? p).isSome = true)) ∧
      (∀ t, Tree.read? p.toList = some t → ((wholePattern? p).isSome = true ↔
        ¬ EndsOpen p.toList ∧ t.nesting + 2 ≤ maxNesting ∧ t.whole.fits = true)) ∧
      (Tree.read? p.toList = none → (wholePattern? p).isSome = true →
        HasStrayParenthesis p.toList) :=
  ⟨⟨isSome_iff_of_fullMatchLaw, fullMatchLaw_of_iff⟩, fun _ => isSome_wholePattern?_iff,
    hasStrayParenthesis_of_wholePattern?⟩

/-- A pattern that denotes nothing alone, as one of its parentheses closes nothing. Between the ends
it denotes a text that begins with one letter or ends with another. -/
theorem not_fullMatchLaw_of_stray : ¬ FullMatchLaw "A)|(?:B" := by
  intro h
  have hnone : ofText? "A)|(?:B".toList = none := rfl
  have hlaw := h (withPfxPattern "A)|(?:B") .pfx "AX" rfl (List.mem_singleton.2 rfl) (by decide)
  rw [hnone] at hlaw
  have hok : (withPfxPattern "A)|(?:B").validate .pfx (.str "AX") = .ok () := by decide
  rw [hok] at hlaw
  cases hlaw

end TripletFacts
