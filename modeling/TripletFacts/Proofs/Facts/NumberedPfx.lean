import Mathlib.Data.List.TakeWhile
import TripletFacts.Proofs.Facts.ByPfx

/-!
# Numbered prefixes

A look-up that is not strict compares the letters of the stored prefixes with what is asked for. So
the letters of a numbered prefix find every triplet with these letters, whatever its number, and a
numbered prefix finds nothing: `E1` is found by `E`, and strictly by `E1`. The digits that are taken
away are those of ASCII. The rule for prefixes admits the digits of other scripts too, and
they stay.

## Main definitions

* `Facts.Finds`, `Facts.TakesOut`: a triplet is among those that a prefix finds, or takes out.

## Main results

* `basePfx_eq_letters_iff`: when the digits of a prefix are taken away.
* `Facts.finds_iff`, `Facts.takesOut_iff`: a prefix takes out the triplets that it finds.
* `Facts.numbered_taken`: what finds a numbered prefix and takes it out.
-/

namespace TripletFacts

/-! ### Letters and digits -/

theorem isDigit_of_isCapital {c : Char} (h : isCapital c = true) : isDigit c = false :=
  of_capital (P := fun c => isDigit c = false) (by decide) (of_decide_eq_true h)

theorem isCapital_of_isDigit {c : Char} (h : isDigit c = true) : isCapital c = false :=
  of_isDigit (P := fun c => isCapital c = false) (by decide) h

section

variable {s : String} {letters digits : List Char}

/-- What is behind the letters of a prefix is taken away if it consists of digits of ASCII. -/
theorem basePfx_eq_letters_iff (hs : s.toList = letters ++ digits)
    (hletters : ∀ c ∈ letters, isCapital c = true) :
    basePfx s = letters ↔ ∀ c ∈ digits, isDigit c = true := by
  have hkept : letters.reverse.dropWhile isDigit = letters.reverse := by
    rw [List.dropWhile_eq_self_iff]
    intro hl hdigit
    have hmem : letters.reverse[0] ∈ letters := List.mem_reverse.1 (List.getElem_mem hl)
    rw [isDigit_of_isCapital (hletters _ hmem)] at hdigit
    cases hdigit
  have hall : digits.reverse.dropWhile isDigit = [] ↔ ∀ c ∈ digits, isDigit c = true := by
    simp [List.dropWhile_eq_nil_iff]
  rw [← hall, basePfx, hs, List.reverse_append, List.dropWhile_append]
  cases hrest : digits.reverse.dropWhile isDigit with
  | nil => simp [hkept]
  | cons c cs => simp

/-- The letters of a prefix that obeys the rules obey them alone. -/
theorem validate_letters (hs : s.toList = letters ++ digits)
    (hletters : ∀ c ∈ letters, isCapital c = true) (hdigits : ∀ c ∈ digits, isCapital c = false)
    (h : Settings.standard.validate .pfx (.str s) = .ok ()) :
    Settings.standard.validate .pfx (.str (.ofList letters)) = .ok () := by
  obtain ⟨x, u, d, htext, hcapitals, -⟩ := exists_capitals_of_validate_pfx h
  obtain ⟨-, -, hrules⟩ := FieldRules.validate_eq_ok_iff.1 h
  have hne : letters ≠ [] := by
    rintro rfl
    rw [List.nil_append] at hs
    have hx : isCapital x = false := hdigits x (hs ▸ htext ▸ List.mem_cons_self)
    rw [hcapitals x List.mem_cons_self] at hx
    cases hx
  have hlength : s.length = letters.length + digits.length := by
    rw [← String.length_toList, hs, List.length_append]
  have hpos : 0 < letters.length := List.length_pos_iff.2 hne
  refine validate_pfx_of_capitals (d := []) (by simp) hne hletters (by simp) ⟨?_, ?_⟩
  · rw [String.length_ofList]
    exact hpos
  · rw [String.length_ofList]
    exact Nat.le_trans (by omega) (hrules s rfl).1.2

end

namespace Facts

variable {f : Facts} {t : Triplet} {pfx : String} {strict : Bool}

/-! ### Triplets that are found, and taken out -/

/-- A triplet is among those that a prefix finds. -/
def Finds (f : Facts) (pfx : String) (strict : Bool) (t : Triplet) : Prop :=
  ∃ g, f.withPfx pfx strict = .ok g ∧ t ∈ g.entries

/-- A triplet is not among those that stay after a prefix has been taken out. -/
def TakesOut (f : Facts) (pfx : String) (strict : Bool) (t : Triplet) : Prop :=
  ∃ h, (Store.removePfx pfx strict).on (.ofFacts f) = (.ok (), .ofFacts h) ∧ t ∉ h.entries

theorem finds_iff (ht : t ∈ f.entries) : f.Finds pfx strict t ↔
    f.settings.validate .pfx (.str pfx) = .ok () ∧ isFoundBy pfx strict t = true := by
  simp only [Finds, withPfx_eq_ok_iff]
  constructor
  · rintro ⟨_, ⟨hvalid, -, rfl⟩, hmem⟩
    exact ⟨hvalid, (List.mem_filter.1 hmem).2⟩
  · rintro ⟨hvalid, hfound⟩
    exact ⟨_, ⟨hvalid, ⟨t, ht, hfound⟩, rfl⟩, List.mem_filter.2 ⟨ht, hfound⟩⟩

/-- A prefix takes out what it finds. -/
theorem takesOut_iff (ht : t ∈ f.entries) : f.TakesOut pfx strict t ↔ f.Finds pfx strict t := by
  have hremove := Store.removePfx_ofFacts f pfx strict
  rw [withoutPfx_eq] at hremove
  simp only [TakesOut, Finds, hremove]
  cases hfound : f.withPfx pfx strict with
  | error e => simp [Except.map, Store.settle]
  | ok g =>
    obtain ⟨-, -, rfl⟩ := withPfx_eq_ok_iff.1 hfound
    have hmem : t ∈ (f.filter (isFoundBy pfx strict)).entries ↔
        t ∉ (f.filter fun t => !isFoundBy pfx strict t).entries := by
      simp [filter, restrict, ht]
    constructor
    · rintro ⟨h, hleft, hgone⟩
      have hstore : Store.ofFacts (f.filter fun t => !isFoundBy pfx strict t) = Store.ofFacts h :=
        congrArg Prod.snd hleft
      rw [← Store.triplets_ofFacts h, ← hstore, Store.triplets_ofFacts] at hgone
      exact ⟨_, rfl, hmem.2 hgone⟩
    · rintro ⟨g, hg, hfound⟩
      obtain rfl := Except.ok.inj hg
      exact ⟨_, rfl, hmem.1 hfound⟩

/-! ### Numbered prefixes -/

section

variable {letters digits : List Char}

/-- Under the standard settings a prefix that obeys the rules is looked for as it is. -/
theorem finds_iff_of_validate (hf : f.settings = .standard) (ht : t ∈ f.entries)
    (h : Settings.standard.validate .pfx (.str pfx) = .ok ()) :
    f.Finds pfx strict t ↔ pfxMatches strict pfx t.pfx = true := by
  obtain ⟨-, hupper⟩ := Settings.buildPfx_eq_ok_iff.1 (buildPfx_of_validate h)
  rw [finds_iff ht, hf, and_iff_right h, isFoundBy, hupper]

/-- The letters of a prefix find the triplets whose prefix has nothing but digits of ASCII behind
them. -/
theorem finds_letters_iff (hf : f.settings = .standard) (ht : t ∈ f.entries)
    (hvalid : Settings.standard.validate .pfx (.str t.pfx) = .ok ())
    (hpfx : t.pfx.toList = letters ++ digits) (hletters : ∀ c ∈ letters, isCapital c = true)
    (hdigits : ∀ c ∈ digits, isCapital c = false) :
    f.Finds (.ofList letters) false t ↔ ∀ c ∈ digits, isDigit c = true := by
  rw [finds_iff_of_validate hf ht (validate_letters hpfx hletters hdigits hvalid),
    ← basePfx_eq_letters_iff hpfx hletters]
  simp [pfxMatches]

/-- Not strictly, a prefix finds the triplets that have it if it has no number. -/
theorem finds_own_iff (hf : f.settings = .standard) (ht : t ∈ f.entries)
    (hvalid : Settings.standard.validate .pfx (.str t.pfx) = .ok ())
    (hpfx : t.pfx.toList = letters ++ digits) (hletters : ∀ c ∈ letters, isCapital c = true)
    (hdigits : ∀ c ∈ digits, isDigit c = true) : f.Finds t.pfx false t ↔ digits = [] := by
  have hbase : basePfx t.pfx = letters := (basePfx_eq_letters_iff hpfx hletters).2 hdigits
  rw [finds_iff_of_validate hf ht hvalid]
  simp [pfxMatches, hbase, hpfx]

/-- Under the standard settings a triplet whose prefix is made of letters and a number behind them
is found and taken out strictly by its prefix, and not strictly by the letters. Not strictly, its
prefix finds it and takes it out only if there is no number. -/
theorem numbered_taken (hf : f.settings = .standard) (ht : t ∈ f.entries)
    (hvalid : Settings.standard.validate .pfx (.str t.pfx) = .ok ())
    (hpfx : t.pfx.toList = letters ++ digits) (hletters : ∀ c ∈ letters, isCapital c = true) :
    (f.Finds t.pfx true t ∧ f.TakesOut t.pfx true t) ∧
    ((∀ c ∈ digits, isDigit c = true) →
      (f.Finds (.ofList letters) false t ∧ f.TakesOut (.ofList letters) false t) ∧
      (f.Finds t.pfx false t ↔ digits = []) ∧ (f.TakesOut t.pfx false t ↔ digits = [])) := by
  simp only [takesOut_iff ht, and_self]
  refine ⟨?_, fun hdigits => ⟨?_, ?_⟩⟩
  · rw [finds_iff_of_validate hf ht hvalid]
    simp [pfxMatches]
  · exact (finds_letters_iff hf ht hvalid hpfx hletters
      fun c hc => isCapital_of_isDigit (hdigits c hc)).2 hdigits
  · exact finds_own_iff hf ht hvalid hpfx hletters hdigits

end

/-- The triplet `E1` is found and taken out by `E`, and not by `E1` unless strictly. -/
theorem numbered_taken_one :
    threePfxs.Finds "E" false (pointerX "E1") ∧ threePfxs.TakesOut "E" false (pointerX "E1") ∧
    threePfxs.Finds "E1" true (pointerX "E1") ∧ ¬threePfxs.Finds "E1" false (pointerX "E1") := by
  have hmem : pointerX "E1" ∈ threePfxs.entries := by simp [threePfxs]
  have hpfx : (pointerX "E1").pfx.toList = ['E'] ++ ['1'] := by decide
  obtain ⟨⟨hstrict, -⟩, htaken⟩ :=
    numbered_taken rfl hmem (by decide) hpfx (List.forall_mem_singleton.2 rfl)
  obtain ⟨⟨hfound, hout⟩, hown, -⟩ := htaken (List.forall_mem_singleton.2 rfl)
  exact ⟨hfound, hout, hstrict, fun h => by simpa using hown.1 h⟩

/-- A numbered prefix does not find everything that it finds strictly. -/
theorem not_forall_numbered_found : ¬∀ (f : Facts) (t : Triplet) (letters digits : List Char),
    f.settings = .standard → t ∈ f.entries →
    Settings.standard.validate .pfx (.str t.pfx) = .ok () → t.pfx.toList = letters ++ digits →
    (∀ c ∈ letters, isCapital c = true) → (∀ c ∈ digits, Unicode.isDecimalDigit c = true) →
      (f.Finds (.ofList letters) false t ∧ f.TakesOut (.ofList letters) false t) ∧
      f.Finds t.pfx false t ∧ f.TakesOut t.pfx false t := by
  intro h
  have hmem : pointerX "E1" ∈ threePfxs.entries := by simp [threePfxs]
  have hpfx : (pointerX "E1").pfx.toList = ['E'] ++ ['1'] := by decide
  have hletters : ∀ c ∈ ['E'], isCapital c = true := List.forall_mem_singleton.2 rfl
  obtain ⟨-, hfound, -⟩ := h threePfxs (pointerX "E1") _ _ rfl hmem (by decide) hpfx hletters
    (List.forall_mem_singleton.2 rfl)
  have hnumber := (finds_own_iff rfl hmem (by decide) hpfx hletters
    (List.forall_mem_singleton.2 rfl)).1 hfound
  cases hnumber

end Facts

end TripletFacts
