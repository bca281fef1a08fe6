import TripletFacts.Facts.Compare
import TripletFacts.Proofs.Facts.RoundTrip
import TripletFacts.Proofs.Facts.WhatIsRead

/-!
# Reading the text of a collection again

The text of a collection that was read can be read again. A triplet that states nothing is written
as a reference, and a search for triplets goes over it, since no separator of a value stands behind
its name. All other triplets are found in the same order, and they are read as they were. So the
whole of the collection is read again if and only if all its triplets state something.

## Main results

* `Settings.skips_head`: a search goes over references.
* `exists_found_intercalate`: the triplets that are found in the text of a collection.
* `Facts.exists_read_text`: what is read from the text of a collection.
-/

namespace TripletFacts

open Settings Regex Cursor

/-! ### Going over references -/

namespace Settings

variable {u v w a : List Char} {before : List Char} {items : List (Parts × List Char)}

theorem Skips.append (hu : Skips u (v ++ a)) (hv : Skips v a) : Skips (u ++ v) a := by
  intro b
  rw [List.append_assoc, hu b, hv, List.reverse_append, List.append_assoc]

/-- What a search goes over may stand before what stands before the triplets. -/
theorem Found.append (h : Found before items)
    (hw : Skips w (spread before (placedTexts items))) : Found (w ++ before) items := by
  cases items with
  | nil =>
    rw [placedTexts, List.map_nil, spread_nil] at hw
    exact Skips.append (by rwa [List.append_nil]) h
  | cons i items =>
    rw [spread_placedTexts_cons] at hw
    exact ⟨hw.append h.1, h.2⟩

/-- Two ways of cutting a text behind characters of a class. -/
theorem eq_and_eq_of_append_eq {p : Char → Bool} {u u' a a' : List Char}
    (hu : ∀ x ∈ u, p x = true) (hu' : ∀ x ∈ u', p x = true) (ha : a.head?.any p = false)
    (ha' : a'.head?.any p = false) (h : u ++ a = u' ++ a') : u = u' ∧ a = a' := by
  constructor
  · rw [← takeWhile_append_of_head? hu ha, h, takeWhile_append_of_head? hu' ha']
  · rw [← dropWhile_append_of_head? hu ha, h, dropWhile_append_of_head? hu' ha']

/-- No triplet begins at a reference with no separator of a value behind it. -/
theorem matchAt_head_eq_none {pfx name : List Char} (hpfx : ∀ x ∈ pfx, Unicode.isWord x = true)
    (hname : ∀ x ∈ name, Unicode.isWord x = true) (hword : a.head?.any Unicode.isWord = false)
    (hvalue : a.head? ≠ some '=') (b : List Char) :
    (standard.regex .triplet).matchAt (between b ('$' :: (pfx ++ '.' :: (name ++ a)))) = none := by
  rw [← Option.not_isSome_iff_eq_none, matchAt_isSome_iff]
  rintro ⟨c, hc⟩
  obtain ⟨_, ⟨p, hp, rfl⟩, hsteps⟩ := (takes_tripletRegex _ _).1 hc
  obtain ⟨rest, htext, -⟩ := steps_between_iff.1 hsteps
  rw [Parts.text, List.cons_append, List.append_assoc, List.cons_append, List.append_assoc,
    List.cons_append, List.cons.injEq] at htext
  have hpoint : Unicode.isWord '.' = false := by decide
  have hequals : Unicode.isWord '=' = false := by decide
  obtain ⟨-, hbehind⟩ := eq_and_eq_of_append_eq hpfx hp.pfx.2 (by simpa using hpoint)
    (by simpa using hpoint) htext.2
  have hname' : ∀ x ∈ p.name.getD [], Unicode.isWord x = true := by
    cases hn : p.name with
    | none => simp
    | some n => exact (hp.name n hn).2
  obtain ⟨-, rfl⟩ := eq_and_eq_of_append_eq hname hname' hword (by simpa using hequals)
    (List.cons.inj hbehind).2
  exact hvalue rfl

/-- A search goes over a reference with no separator of a value behind it. -/
theorem skips_head {pfx name : List Char} (hpfx : ∀ x ∈ pfx, Unicode.isWord x = true)
    (hname : ∀ x ∈ name, Unicode.isWord x = true) (hword : a.head?.any Unicode.isWord = false)
    (hvalue : a.head? ≠ some '=') : Skips ('$' :: (pfx ++ '.' :: name)) a := by
  have hmark : Unicode.isWord '$' = false := by decide
  have hrest : Skips (pfx ++ '.' :: name) a := by
    refine skips_of_ne (fun x hx => ?_) a
    rintro rfl
    rcases List.mem_append.1 hx with hx | hx
    · exact absurd (hpfx _ hx) (by simp [hmark])
    · rcases List.mem_cons.1 hx with hx | hx
      · cases hx
      · exact absurd (hname _ hx) (by simp [hmark])
  have hfirst : Skips ['$'] (pfx ++ '.' :: name ++ a) := fun b => by
    rw [List.append_assoc]
    exact findFrom_cons_of_matchAt_eq_none (matchAt_head_eq_none hpfx hname hword hvalue b)
  exact hfirst.append hrest

end Settings

/-! ### Texts of triplets -/

namespace Triplet

variable {t : Triplet}

theorem states_iff : t.states = true ↔ t.value ≠ none ∨ t.bid = true := by
  rw [states, Bool.or_eq_true, Option.isSome_iff_ne_none]

/-- A triplet that states nothing is written as a reference. -/
theorem IsRead.text_of_not_states (h : t.IsRead) (hstates : t.states = false) :
    t.text = '$' :: (t.pfx.toList ++ '.' :: (t.name.getD "").toList) := by
  obtain ⟨hvalue, hbid⟩ := Bool.or_eq_false_iff.1 hstates
  rw [text, Option.isSome_eq_false_iff.1 hvalue |> Option.isNone_iff_eq_none.1]
  dsimp only
  rw [Reference.text, hbid, if_neg Bool.false_ne_true, Reference.head, h.notSpecial,
    h.isBuilt.settings]
  simp [standard]

theorem IsRead.writable (h : t.IsRead) : ∀ v ∈ t.value, v.Writable :=
  fun v hv => (h.value v hv).writable

theorem IsRead.renderable (h : t.IsRead) (hstates : t.states = true) : t.Renderable :=
  ⟨h.built, h.notSpecial, states_iff.1 hstates, h.writable⟩

/-- A search goes over a triplet that states nothing, at the end of a text or before a blank. -/
theorem IsRead.skips_text (h : t.IsRead) (hstates : t.states = false) {a : List Char}
    (ha : a.head? ∈ [none, some ' ']) : Skips t.text a := by
  have hword : a.head?.any Unicode.isWord = false := by
    simp only [List.mem_cons, List.not_mem_nil, or_false] at ha
    rcases ha with ha | ha <;> rw [ha] <;> decide
  have hvalue : a.head? ≠ some '=' := by
    rintro h
    rw [h] at ha
    simp at ha
  rw [h.text_of_not_states hstates]
  refine skips_head h.isBuilt.isWord_pfx.2 ?_ hword hvalue
  cases hn : t.name with
  | none => simp
  | some n => exact (h.isBuilt.isWord_name hn).2

end Triplet

/-- The texts of triplets with blanks between them: those that state something are found, and what
stands between them is gone over. -/
theorem exists_found_intercalate {ts : List Triplet} (h : ∀ t ∈ ts, t.IsRead) :
    ∃ before items, Found before items ∧
      items.map Prod.fst = (ts.filter Triplet.states).map Triplet.parts ∧
      [' '].intercalate (ts.map Triplet.text) = spread before (placedTexts items) := by
  induction ts with
  | nil => exact ⟨[], [], fun b => rfl, rfl, rfl⟩
  | cons t ts ih =>
    obtain ⟨ht, hts⟩ := List.forall_mem_cons.1 h
    obtain ⟨before, items, hfound, hparts, htext⟩ := ih hts
    -- what stands behind the triplet begins with the separator, if it is not empty
    obtain ⟨sep, hsep, hhead, htext'⟩ : ∃ sep, IsBlanks sep ∧
        (sep ++ spread before (placedTexts items)).head? ∈ [none, some ' '] ∧
        [' '].intercalate ((t :: ts).map Triplet.text) =
          t.text ++ (sep ++ spread before (placedTexts items)) := by
      rw [← htext]
      cases ts with
      | nil => exact ⟨[], by decide, by simp, by simp⟩
      | cons u ts => exact ⟨[' '], by decide, by simp, by simp [List.intercalate]⟩
    have hbehind : Found (sep ++ before) items := hfound.append (skips_blanks hsep _)
    have hspread : sep ++ spread before (placedTexts items) =
        spread (sep ++ before) (placedTexts items) := by
      rw [spread, spread, List.append_assoc]
    rw [htext', hspread]
    rw [hspread] at hhead
    cases hstates : t.states with
    | true =>
      refine ⟨[], (t.parts, sep ++ before) :: items, ⟨fun b => rfl,
        Triplet.legible_parts ht.isBuilt ht.writable, hbehind⟩, ?_, ?_⟩
      · rw [List.map_cons, hparts, List.filter_cons_of_pos hstates, List.map_cons]
      · rw [spread_placedTexts_cons, List.nil_append, Triplet.text_eq_text_parts
          ht.isBuilt.settings ht.notSpecial (Triplet.states_iff.1 hstates)]
    | false =>
      refine ⟨t.text ++ (sep ++ before), items, hbehind.append (ht.skips_text hstates hhead), ?_,
        ?_⟩
      · rw [hparts, List.filter_cons_of_neg (by simp [hstates])]
      · simp only [spread, List.append_assoc]

/-! ### Equality -/

/-- A triplet that was read is equal to itself: its floats are finite. -/
theorem Triplet.IsRead.equal_self {t : Triplet} (h : t.IsRead) : t.equal t = true := by
  rw [Triplet.equal, beq_self_eq_true, Bool.true_and]
  cases hv : t.value with
  | none => rfl
  | some v =>
    cases h.value v hv with
    | str s => exact beq_self_eq_true s
    | int i => exact beq_self_eq_true i
    | float x => exact Binary64.beq_self_of_isFinite (h.isBuilt.isFinite hv)
    | @reference r => exact beq_self_eq_true r.key

namespace Facts

theorem allEqual_self {ts : List Triplet} (h : ∀ t ∈ ts, t.IsRead) : allEqual ts ts = true := by
  induction ts with
  | nil => rfl
  | cons t ts ih =>
    obtain ⟨ht, hts⟩ := List.forall_mem_cons.1 h
    rw [allEqual, ht.equal_self, ih hts]
    rfl

theorem length_eq_of_allEqual {ts us : List Triplet} (h : allEqual ts us = true) :
    ts.length = us.length := by
  fun_induction allEqual ts us with
  | case1 => rfl
  | case2 t ts u us ih => exact congrArg (· + 1) (ih (Bool.and_eq_true_iff.1 h).2)
  | case3 => cases h

/-- A part of a collection that was read is equal to it, with regard to the order, only if it is the
whole. -/
theorem equalInOrder_filter_iff {c : Facts} (h : ∀ t ∈ c.entries, t.IsRead)
    (p : Triplet → Bool) :
    (c.filter p).equalInOrder c = true ↔ ∀ t ∈ c.entries, p t = true := by
  have hentries : (c.filter p).entries = c.entries.filter p := rfl
  rw [equalInOrder, hentries]
  constructor
  · intro hequal
    exact List.length_filter_eq_length_iff.1 (length_eq_of_allEqual hequal)
  · intro hall
    rw [List.filter_eq_self.2 hall]
    exact allEqual_self h

/-! ### Reading again -/

/-- What is read from the text of a collection that was read: its triplets that state something. -/
theorem read_text {text : List Char} {c : Facts} (h : Facts.read .standard text = .ok c) :
    Facts.read .standard c.text = .ok (c.filter Triplet.states) := by
  obtain ⟨hsettings, hread⟩ := isRead_of_read h
  obtain ⟨before, items, hfound, hparts, htext⟩ := exists_found_intercalate hread
  have hstated : ∀ t ∈ c.entries.filter Triplet.states, t.IsRead ∧ t.states = true := fun t ht =>
    ⟨hread t (List.mem_of_mem_filter ht), List.of_mem_filter ht⟩
  -- the matches keep the parts of the triplets that state something, one by one
  have hkept : List.Forall₂ (fun t m => t.parts.KeptIn m.captures)
      (c.entries.filter Triplet.states) ((standard.regex .triplet).matchesIn c.text) := by
    have hmatches : List.Forall₂ (fun p (m : Match) => p.KeptIn m.captures)
        (items.map Prod.fst) _ :=
      List.forall₂_map_left_iff.2 (hfound.keptIn_findAll [] true)
    rw [hparts, ← htext] at hmatches
    rw [Facts.text, hsettings]
    exact List.forall₂_map_left_iff.1 hmatches
  obtain ⟨us, hus, hsame⟩ := exists_mapM_readTriplet _
    (fun t ht => (hstated t ht).1.renderable (hstated t ht).2) hkept
  have husread : ∀ u ∈ us, u.IsRead := fun u hu => by
    obtain ⟨m, -, hm⟩ := exists_mem_of_mapM_eq_ok hus hu
    exact isRead_of_readTriplet hm
  obtain rfl : us = c.entries.filter Triplet.states :=
    Triplet.eq_of_forall₂_sameAs (fun t ht => (hstated t ht).1) husread hsame
  have hnodup : ((c.entries.filter Triplet.states).map Triplet.key).Nodup :=
    (c.filter Triplet.states).nodup
  rw [Facts.read, hus]
  exact congrArg Except.ok (Facts.ext (entries_addAll_of_nodup hnodup)
    ((settings_addAll _ _).trans hsettings.symm))

/-- **Reading the text of a collection again.** The text of a collection that was read is read
without an error: all triplets with a value and all requests are read as they were, in the same
order. What is read is equal to the collection, with regard to the order, if and only if these are
all its triplets, and then it has the same text. -/
theorem exists_read_text {text : List Char} {c : Facts} (h : Facts.read .standard text = .ok c) :
    ∃ c', Facts.read .standard c.text = .ok c' ∧
      c'.entries = c.entries.filter Triplet.states ∧
      (c'.equalInOrder c = true ↔ ∀ t ∈ c.entries, t.states = true) ∧
      ((∀ t ∈ c.entries, t.states = true) → c'.text = c.text) := by
  obtain ⟨-, hread⟩ := isRead_of_read h
  refine ⟨_, read_text h, rfl, equalInOrder_filter_iff hread _, fun hall => ?_⟩
  have hentries : (c.filter Triplet.states).entries = c.entries := List.filter_eq_self.2 hall
  rw [Facts.text, hentries]
  rfl

/-- A triplet without value between two that state something. -/
theorem exists_read_text_three_triplets :
    ∃ c, Facts.read .standard "$A.B='x;y'\"z\"; $C.D=; $E.=:2.50;".toList = .ok c ∧
      c.entries.map Triplet.states = [true, false, true] ∧
      ∃ c', Facts.read .standard c.text = .ok c' ∧
        c'.entries = c.entries.filter Triplet.states ∧
        (c'.equalInOrder c = true ↔ ∀ t ∈ c.entries, t.states = true) ∧
        ((∀ t ∈ c.entries, t.states = true) → c'.text = c.text) := by
  have hstates : (Facts.read .standard "$A.B='x;y'\"z\"; $C.D=; $E.=:2.50;".toList).map
      (fun c => c.entries.map Triplet.states) = .ok [true, false, true] := by decide +kernel
  obtain ⟨c, hread, hstates⟩ := map_eq_ok_iff.1 hstates
  exact ⟨c, hread, hstates, exists_read_text hread⟩

/-- A triplet that states nothing is not read again. -/
theorem not_forall_equalInOrder_of_read_text :
    ¬∀ (text : List Char) (c : Facts), Facts.read .standard text = .ok c →
      ∃ c', Facts.read .standard c.text = .ok c' ∧ c'.equalInOrder c = true ∧
        c'.text = c.text := by
  intro hall
  have hfirst : (Facts.read .standard "$A.B=;".toList).map (fun c => (c.size, c.text)) =
      .ok (1, "$A.B".toList) := by decide +kernel
  have hsecond : (Facts.read .standard "$A.B".toList).map size = .ok 0 := by decide +kernel
  obtain ⟨c, hread, hc⟩ := map_eq_ok_iff.1 hfirst
  obtain ⟨hsize, htext⟩ := Prod.mk.inj hc
  obtain ⟨c', hread', hequal, -⟩ := hall _ c hread
  rw [htext] at hread'
  obtain ⟨c'', hc'', hsize'⟩ := map_eq_ok_iff.1 hsecond
  obtain rfl : c'' = c' := Except.ok.inj (hc''.symm.trans hread')
  have hlength : c''.size = c.size := length_eq_of_allEqual hequal
  omega

end Facts

end TripletFacts
