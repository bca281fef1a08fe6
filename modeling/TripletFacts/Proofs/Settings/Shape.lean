import TripletFacts.Proofs.Outcome
import TripletFacts.Proofs.Regex.Acceptance
import TripletFacts.Proofs.Unicode.Capitals
import TripletFacts.Settings.Validate
import TripletFacts.Triplet.Build

/-!
# The shape of prefixes and names

Under the standard settings a prefix is made of capital letters of ASCII with decimal digits after
them, and a name of capital letters only.

## Main definitions

* `isCapital`: the capital letters of ASCII.

## Main results

* `exists_capitals_of_validate_pfx`: the shape of a prefix that obeys the rules.
* `exists_capitals_of_validate_name`: the shape of a name that obeys the rules.
* `validate_pfx_of_capitals`, `validate_name_of_capitals`: texts of these shapes obey the rules.
-/

namespace TripletFacts

open Regex Cursor

/-- The capital letters of ASCII. -/
def isCapital (c : Char) : Bool := decide ('A' ≤ c ∧ c ≤ 'Z')

/-! ### The patterns -/

/-- The set that the pattern `[A-Z]` denotes. -/
def capitalSet : CharSet := Items.none.set.union (CharSet.range 'A' 'Z')

/-- The set that the pattern `\d` denotes. -/
def digitSet : CharSet := CharSet.ofRanges Unicode.decimalDigitRanges

/-- The tree of the pattern of prefixes, for a whole text. -/
def pfxTree : Tree :=
  .seq [.look textStart, .hold (.seq [.loop true 1 none (.set capitalSet 1),
    .loop true 0 none (.set digitSet 0)]), .look textEnd]

/-- The tree of the pattern of names, for a whole text. -/
def nameTree : Tree :=
  .seq [.look textStart, .hold (.loop true 1 none (.set capitalSet 1)), .look textEnd]

theorem read?_pfx : Tree.read? "^(?:[A-Z]+\\d*)$".toList = some pfxTree := by rfl

theorem read?_name : Tree.read? "^(?:[A-Z]+)$".toList = some nameTree := by rfl

theorem ofText?_of_read? {text : List Char} {t : Tree} (h : Tree.read? text = some t)
    (hnesting : t.nesting ≤ maxNesting) (hfits : t.fits = true) :
    ofText? text = some t.regex := by
  rw [ofText?, h, Option.bind_some, if_pos (by simp [hnesting, hfits])]

theorem wholePattern?_pfx : wholePattern? "[A-Z]+\\d*" = some pfxTree.regex :=
  ofText?_of_read? read?_pfx (by decide) (by decide)

theorem wholePattern?_name : wholePattern? "[A-Z]+" = some nameTree.regex :=
  ofText?_of_read? read?_name (by decide) (by decide)

/-! ### Characters -/

theorem capitalSet_contains (c : Char) : capitalSet.contains c = isCapital c := by
  have hnone : Items.none.set.contains c = false := rfl
  rw [capitalSet, CharSet.contains_union, hnone, Bool.false_or, Bool.eq_iff_iff,
    CharSet.contains_range, isCapital, decide_eq_true_iff]
  exact Iff.rfl

/-- A decimal digit is in one of the ranges of decimal digits. -/
theorem covered_of_isDecimalDigit {c : Char} (h : Unicode.isDecimalDigit c = true) :
    Unicode.Covered Unicode.decimalDigitRanges c.toNat :=
  Unicode.exists_of_inRanges _ h

theorem digitSet_contains {c : Char} (h : digitSet.contains c = true) :
    Unicode.isDecimalDigit c = true := by
  rw [digitSet, CharSet.contains_ofRanges] at h
  exact Unicode.inRanges_of_within (by decide) h

/-- A decimal digit has no capital letter of its own. -/
theorem upperChar_of_isDecimalDigit {c : Char} (h : Unicode.isDecimalDigit c = true) :
    Unicode.upperChar c = [c] := by
  have hc := covered_of_isDecimalDigit h
  have hrows : Unicode.shiftOf Unicode.upperRows c.toNat = none :=
    Unicode.shiftOf_eq_none (Unicode.inRanges_of_outside (by decide) hc)
  have htexts : Unicode.upperTexts.lookup c.toNat = none := by
    have hall : ∀ r ∈ Unicode.decimalDigitRanges, ∀ t ∈ Unicode.upperTexts,
        (t.1.blt r.1 || r.2.blt t.1) = true := by decide +kernel
    obtain ⟨r, hr, hlow, hhigh⟩ := hc
    rw [List.lookup_eq_none_iff]
    intro t ht
    have := hall r hr t ht
    simp only [Bool.or_eq_true, Nat.blt_eq] at this
    simp
    omega
  rw [Unicode.upperChar, hrows, htexts]

theorem isCapital_of_isDecimalDigit {c : Char} (h : Unicode.isDecimalDigit c = true) :
    isCapital c = false := by
  have hletters : Unicode.inRanges [(65, 90)] c.toNat = false :=
    Unicode.inRanges_of_outside (by decide) (covered_of_isDecimalDigit h)
  rw [isCapital, decide_eq_false_iff_not]
  rintro ⟨hlow, hhigh⟩
  have hlow : 65 ≤ c.toNat := hlow
  have hhigh : c.toNat ≤ 90 := hhigh
  rw [Unicode.inRanges, if_neg (by omega), if_pos hhigh] at hletters
  cases hletters

theorem upperChar_of_isCapital {c : Char} (h : isCapital c = true) : Unicode.upperChar c = [c] :=
  of_capital (P := fun c => Unicode.upperChar c = [c]) (by decide) (of_decide_eq_true h)

theorem isWord_of_isCapital {c : Char} (h : isCapital c = true) : Unicode.isWord c = true :=
  of_capital (P := fun c => Unicode.isWord c = true) (by decide) (of_decide_eq_true h)

theorem isWord_of_isDecimalDigit {c : Char} (h : Unicode.isDecimalDigit c = true) :
    Unicode.isWord c = true := by
  have hc := covered_of_isDecimalDigit h
  have hword : Unicode.inRanges Unicode.plainWordRanges c.toNat = true :=
    Unicode.inRanges_of_within (by decide) hc
  have hrecent : Unicode.inRanges Unicode.recentRanges c.toNat = false :=
    Unicode.inRanges_of_outside (by decide) hc
  rw [Unicode.isWord, hword, Unicode.isRecent, hrecent, Bool.or_true]
  rfl

/-! ### Shapes -/

/-- A whole text that matches does so from its beginning to its end. -/
theorem exists_leads_of_accepts (body : Regex) {text : List Char}
    (h : (Regex.seq (.look textStart)
      (.seq body (.seq (.look textEnd) .unit))).accepts text = true) :
    ∃ b g, body.Leads (between [] text) [] (between b []) g := by
  obtain ⟨p, q, c, rfl, hmatches⟩ := accepts_iff.1 h
  obtain ⟨g, hleads⟩ := hmatches.exists_leads []
  obtain ⟨c₁, g₁, hstart, hrest⟩ := leads_seq_iff.1 hleads
  obtain ⟨hnil, rfl, rfl⟩ := leads_look_iff.1 hstart
  obtain ⟨c₂, g₂, hbody, hend⟩ := leads_seq_iff.1 hrest
  obtain ⟨c₃, g₃, hlook, -⟩ := leads_seq_iff.1 hend
  obtain ⟨hafter, -, -⟩ := leads_look_iff.1 hlook
  obtain rfl : p = [] := by simpa [textStart, between, previous] using hnil
  have hempty : c₂.after = [] := by simpa [textEnd, upcoming] using hafter
  have hend : between c₂.before [] = c₂ := by rw [← hempty, between_before_after]
  refine ⟨c₂.before, g₂, ?_⟩
  rw [hend]
  exact hbody

/-- A loop of at least one round takes at least one character. -/
theorem exists_of_leads_loop {test : Char → Bool} {b a : List Char} {c : Cursor} {g g' : Captures}
    (h : (Tree.loopRegex true 1 none (.char test)).Leads (between b a) g c g') :
    ∃ x u a', a = x :: (u ++ a') ∧ (∀ y ∈ x :: u, test y = true) ∧
      c = between ((x :: u).reverse ++ b) a' ∧ g' = g := by
  obtain ⟨c₁, g₁, hfirst, hstar⟩ := leads_seq_iff.1 h
  obtain ⟨c₂, g₂, hx, hzero⟩ := leads_times_succ_iff.1 hfirst
  obtain ⟨x, a₁, rfl, ht, rfl, rfl⟩ := leads_char_iff.1 hx
  obtain ⟨rfl, rfl⟩ := leads_times_zero_iff.1 hzero
  obtain ⟨u, a', rfl, hu, rfl, rfl⟩ := leads_star_char_iff.1 hstar
  exact ⟨x, u, a', rfl, by simpa [ht] using hu, by simp, rfl⟩

/-- A prefix that obeys the rules is made of capital letters and of digits after them. -/
theorem exists_capitals_of_validate_pfx {s : String}
    (h : Settings.standard.validate .pfx (.str s) = .ok ()) :
    ∃ x u d, s.toList = x :: (u ++ d) ∧ (∀ c ∈ x :: u, isCapital c = true) ∧
      ∀ c ∈ d, Unicode.isDecimalDigit c = true := by
  obtain ⟨-, -, hrules⟩ := FieldRules.validate_eq_ok_iff.1 h
  have hfull := (hrules s rfl).2 "[A-Z]+\\d*" rfl
  rw [fullMatch, wholePattern?_pfx, Except.ok.injEq] at hfull
  obtain ⟨b, g, hbody⟩ := exists_leads_of_accepts (.seq
    (Tree.loopRegex true 1 none (.char capitalSet.contains))
      (.seq (Tree.loopRegex true 0 none (.char digitSet.contains)) .unit)) hfull
  obtain ⟨c₁, g₁, hletters, hrest⟩ := leads_seq_iff.1 hbody
  obtain ⟨x, u, a, htext, hcapitals, rfl, rfl⟩ := exists_of_leads_loop hletters
  obtain ⟨c₂, g₂, hdigits, hunit⟩ := leads_seq_iff.1 hrest
  obtain ⟨c₃, g₃, hzero, hstar⟩ := leads_seq_iff.1 hdigits
  obtain ⟨rfl, rfl⟩ := leads_times_zero_iff.1 hzero
  obtain ⟨d, a', rfl, hd, rfl, rfl⟩ := leads_star_char_iff.1 hstar
  obtain ⟨hend, -⟩ := leads_unit_iff.1 hunit
  obtain rfl : a' = [] := congrArg Cursor.after hend.symm
  refine ⟨x, u, d, by rw [htext, List.append_nil], fun c hc => ?_, fun c hc => ?_⟩
  · rw [← capitalSet_contains]
    exact hcapitals c hc
  · exact digitSet_contains (hd c hc)

/-- A name that obeys the rules is made of capital letters. -/
theorem exists_capitals_of_validate_name {s : String}
    (h : Settings.standard.validate .name (.str s) = .ok ()) :
    ∃ x u, s.toList = x :: u ∧ ∀ c ∈ x :: u, isCapital c = true := by
  obtain ⟨-, -, hrules⟩ := FieldRules.validate_eq_ok_iff.1 h
  have hfull := (hrules s rfl).2 "[A-Z]+" rfl
  rw [fullMatch, wholePattern?_name, Except.ok.injEq] at hfull
  obtain ⟨b, g, hbody⟩ := exists_leads_of_accepts
    (Tree.loopRegex true 1 none (.char capitalSet.contains)) hfull
  obtain ⟨x, u, a, htext, hcapitals, hend, -⟩ := exists_of_leads_loop hbody
  obtain rfl : a = [] := congrArg Cursor.after hend.symm
  refine ⟨x, u, by rw [htext, List.append_nil], fun c hc => ?_⟩
  rw [← capitalSet_contains]
  exact hcapitals c hc

/-! ### Acceptance -/

/-- A whole text is accepted if the expression leads from its beginning to its end. -/
theorem accepts_of_leads {body : Regex} {text : List Char} {g : Captures}
    (h : body.Leads (between [] text) [] (between text.reverse []) g) :
    (Regex.seq (.look textStart) (.seq body (.seq (.look textEnd) .unit))).accepts text = true :=
  accepts_iff.2 ⟨[], text, _, rfl,
    (Leads.seq (.look rfl) (.seq h (.seq (.look rfl) (.unit _ _)))).matches⟩

theorem leads_loop {test : Char → Bool} {u : List Char} (hne : u ≠ [])
    (hu : ∀ y ∈ u, test y = true) (b a : List Char) (g : Captures) :
    (Tree.loopRegex true 1 none (.char test)).Leads (between b (u ++ a)) g
      (between (u.reverse ++ b) a) g := by
  obtain ⟨x, u, rfl⟩ := List.exists_cons_of_ne_nil hne
  simp only [List.mem_cons, forall_eq_or_imp] at hu
  rw [List.reverse_cons, List.append_assoc]
  exact .seq (.timesSucc (leads_char hu.1 b (u ++ a) g) (.timesZero _ _))
    (leads_star_char hu.2 (x :: b) a g)

/-- Capital letters with digits after them obey the rules of prefixes if they are not too many. -/
theorem validate_pfx_of_capitals {s : String} {u d : List Char} (hs : s.toList = u ++ d)
    (hne : u ≠ []) (hu : ∀ c ∈ u, isCapital c = true) (hd : ∀ c ∈ d, isDigit c = true)
    (hlength : Settings.standard.pfxRules.HasLength s) :
    Settings.standard.validate .pfx (.str s) = .ok () := by
  refine FieldRules.validate_eq_ok_iff.2 ⟨List.mem_singleton.2 rfl, by simp, fun t ht => ?_⟩
  obtain rfl := Candidate.str.inj ht
  refine ⟨hlength, fun p hp => ?_⟩
  obtain rfl : "[A-Z]+\\d*" = p := Option.some.inj hp
  have hdigits : ∀ c ∈ d, digitSet.contains c = true := fun c hc =>
    of_isDigit (P := fun c => digitSet.contains c = true) (by decide) (hd c hc)
  have hbody : (Regex.seq (Tree.loopRegex true 1 none (.char capitalSet.contains))
      (.seq (Tree.loopRegex true 0 none (.char digitSet.contains)) .unit)).Leads
        (between [] (u ++ d)) [] (between (u ++ d).reverse []) [] := by
    have hletters := leads_loop hne (fun c hc => (capitalSet_contains c).trans (hu c hc)) [] d []
    have hrest : (Regex.star true (.char digitSet.contains)).Leads (between u.reverse (d ++ [])) []
        (between (d.reverse ++ u.reverse) []) [] := leads_star_char hdigits u.reverse [] []
    rw [List.append_nil] at hletters hrest
    rw [List.reverse_append]
    exact .seq hletters (.seq (.seq (.timesZero _ _) hrest) (.unit _ _))
  rw [fullMatch, wholePattern?_pfx, hs]
  exact congrArg Except.ok (accepts_of_leads hbody)

/-- Capital letters obey the rules of names if they are not too many. -/
theorem validate_name_of_capitals {s : String} (hne : s.toList ≠ [])
    (hs : ∀ c ∈ s.toList, isCapital c = true) (hlength : Settings.standard.nameRules.HasLength s) :
    Settings.standard.validate .name (.str s) = .ok () := by
  refine FieldRules.validate_eq_ok_iff.2 ⟨List.mem_singleton.2 rfl, by simp, fun t ht => ?_⟩
  obtain rfl := Candidate.str.inj ht
  refine ⟨hlength, fun p hp => ?_⟩
  obtain rfl : "[A-Z]+" = p := Option.some.inj hp
  have hbody := leads_loop hne (fun c hc => (capitalSet_contains c).trans (hs c hc)) [] [] []
  rw [List.append_nil, List.append_nil] at hbody
  rw [fullMatch, wholePattern?_name]
  exact congrArg Except.ok (accepts_of_leads hbody)

example : Settings.standard.validate .pfx (.str "AB12") = .ok () := by decide

/-! ### Capital letters -/

/-- What is accepted as a prefix. -/
theorem mem_of_validate_pfx {s : String} (h : Settings.standard.validate .pfx (.str s) = .ok ())
    {c : Char} (hc : c ∈ s.toList) : isCapital c = true ∨ Unicode.isDecimalDigit c = true := by
  obtain ⟨x, u, d, htext, hcapitals, hdigits⟩ := exists_capitals_of_validate_pfx h
  rw [htext, ← List.cons_append, List.mem_append] at hc
  exact hc.imp (hcapitals c) (hdigits c)

theorem mem_of_validate_name {s : String} (h : Settings.standard.validate .name (.str s) = .ok ())
    {c : Char} (hc : c ∈ s.toList) : isCapital c = true := by
  obtain ⟨x, u, htext, hcapitals⟩ := exists_capitals_of_validate_name h
  exact hcapitals c (htext ▸ hc)

/-- A prefix that is accepted is taken as it is. -/
theorem buildPfx_of_validate {s : String}
    (h : Settings.standard.validate .pfx (.str s) = .ok ()) :
    Settings.standard.buildPfx s = .ok s := by
  rw [Settings.buildPfx, h, Except.map, Unicode.upper_eq_self]
  intro c hc
  exact (mem_of_validate_pfx h hc).elim upperChar_of_isCapital upperChar_of_isDecimalDigit

/-- A name that is accepted is taken as it is. -/
theorem buildName_of_validate {s : String}
    (h : Settings.standard.validate .name (.str s) = .ok ()) :
    Settings.standard.buildName s = .ok s := by
  rw [Settings.buildName, h, Except.map, Unicode.upper_eq_self]
  exact fun c hc => upperChar_of_isCapital (mem_of_validate_name h hc)

end TripletFacts
