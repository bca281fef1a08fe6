import TripletFacts.Proofs.Facts.ReadBack
import TripletFacts.Proofs.Facts.WholeText

/-!
# Writing and reading facts

What is written with blanks anywhere between the triplets is read again: the same facts in the same
order, as if the triplets had been collected without being written.

## Main definitions

* `Triplet.Renderable`: triplets that are written so that they can be read back.

## Main results

* `Facts.sameAs_addAll`: collections that state the same.
* `Facts.exists_read_spread`: facts are read back from their texts.
-/

namespace TripletFacts

open Settings

/-! ### Collections -/

theorem putEntry_sameAs {t u : Triplet} (h : t.SameAs u) {ts us : List Triplet}
    (hall : List.Forall₂ Triplet.SameAs ts us) :
    List.Forall₂ Triplet.SameAs (putEntry t ts) (putEntry u us) := by
  induction hall with
  | nil => exact .cons h .nil
  | @cons t' u' ts us hhead hall ih =>
    rw [putEntry, putEntry, h.key, hhead.key]
    split
    · exact .cons h hall
    · exact .cons hhead ih

/-- Adding triplets that state the same yields collections that state the same. -/
theorem Facts.sameAs_addAll {f g : Facts} (hfg : List.Forall₂ Triplet.SameAs f.entries g.entries)
    {ts us : List Triplet} (hall : List.Forall₂ Triplet.SameAs ts us) :
    List.Forall₂ Triplet.SameAs (f.addAll ts).entries (g.addAll us).entries := by
  induction hall generalizing f g with
  | nil => exact hfg
  | cons hhead _ ih => exact ih (f := f.add _) (g := g.add _) (putEntry_sameAs hhead hfg)

/-! ### Triplets -/

/-- Triplets that were built under the standard settings, that are not special, and that state
something: a value that can be written, or that one is asked for. -/
structure Triplet.Renderable (t : Triplet) : Prop where
  built : ∃ d : Draft, d.build standard = .ok t
  notSpecial : t.special = false
  stated : t.value ≠ none ∨ t.bid = true
  writable : ∀ v ∈ t.value, v.Writable

/-- The triplets of all matches, where every match keeps the parts of one. -/
theorem exists_mapM_readTriplet (ts : List Triplet) {ms : List Match}
    (h : ∀ t ∈ ts, t.Renderable)
    (hall : List.Forall₂ (fun t m => t.parts.KeptIn m.captures) ts ms) :
    ∃ us, ms.mapM standard.readTriplet = .ok us ∧ List.Forall₂ Triplet.SameAs ts us := by
  induction hall with
  | nil => exact ⟨[], rfl, .nil⟩
  | @cons t m ts ms hkept hall ih =>
    rw [List.forall_mem_cons] at h
    obtain ⟨us, hus, hsame⟩ := ih h.2
    obtain ⟨d, hd⟩ := h.1.built
    obtain ⟨u, hu, hsame'⟩ :=
      (Triplet.built_of_build hd).exists_readTriplet h.1.writable hkept
    refine ⟨u :: us, ?_, .cons hsame' hsame⟩
    rw [List.mapM_cons, hu, hus]
    rfl

/-- The texts of triplets are the texts of their parts. -/
theorem placedTexts_parts {items : List (Triplet × List Char)}
    (h : ∀ i ∈ items, i.1.Renderable) :
    placedTexts (items.map fun i => (i.1.parts, i.2)) = items.map fun i => (i.1.text, i.2) := by
  rw [placedTexts, List.map_map]
  refine List.map_congr_left fun i hi => ?_
  obtain ⟨d, hd⟩ := (h i hi).built
  have hbuilt := Triplet.built_of_build hd
  have htext := Triplet.text_eq_text_parts hbuilt.settings (h i hi).notSpecial (h i hi).stated
  exact congrArg (·, i.2) htext.symm

/-- **What is written is read back.** Facts are read from the texts of triplets with any blanks
before, between and after them: they are the facts of the list of the triplets, in the same order,
and each of them states the same. The text consists of triplets if there are any. -/
theorem Facts.exists_read_spread {before : List Char} {items : List (Triplet × List Char)}
    (hbefore : IsBlanks before) (hblanks : ∀ i ∈ items, IsBlanks i.2)
    (hitems : ∀ i ∈ items, i.1.Renderable) :
    ∃ f, Facts.read .standard (spread before (items.map fun i => (i.1.text, i.2))) = .ok f ∧
      List.Forall₂ Triplet.SameAs (Facts.collect (items.map Prod.fst)).entries f.entries ∧
      (items ≠ [] →
        standard.isTripletText (spread before (items.map fun i => (i.1.text, i.2))) = true) := by
  have hplaced : ArePlaced (items.map fun i => (i.1.parts, i.2)) := by
    intro i hi
    obtain ⟨⟨t, w⟩, hmem, rfl⟩ := List.mem_map.1 hi
    obtain ⟨d, hd⟩ := (hitems _ hmem).built
    exact ⟨Triplet.legible_parts (Triplet.built_of_build hd) (hitems _ hmem).writable,
      hblanks _ hmem⟩
  have hkept := keptIn_matchesIn_spread hplaced hbefore
  rw [placedTexts_parts hitems, List.forall₂_map_left_iff] at hkept
  obtain ⟨us, hus, hsame⟩ := exists_mapM_readTriplet (items.map Prod.fst)
    (by simpa using fun t w h => hitems (t, w) h)
    (List.forall₂_map_left_iff.2 hkept)
  refine ⟨(Facts.empty .standard).addAll us, ?_, ?_, fun hne => ?_⟩
  · rw [Facts.read, hus]
    rfl
  · exact Facts.sameAs_addAll .nil hsame
  · have hwhole :=
      isTripletText_of_scansWhole (scansWhole_spread (by simpa using hne) hplaced hbefore)
    rwa [placedTexts_parts hitems] at hwhole

/-- A text with quotes, a line break and what looks like another triplet, and a comment with
quotes. -/
def noteTriplet : Triplet where
  pfx := "N1"
  name := some "TEXT"
  comment := some "not \"here\""
  bid := false
  special := false
  settings := .standard
  value := some (.literal (.str "it's; $X.Y='1'\n"))

/-- A float. -/
def rateTriplet : Triplet where
  pfx := "R"
  name := some "RATE"
  comment := none
  bid := false
  special := false
  settings := .standard
  value := some (.literal (.float 2.5))

/-- A request that points at another fact. -/
def askingTriplet : Triplet where
  pfx := "R"
  name := none
  comment := none
  bid := true
  special := false
  settings := .standard
  value := some (.reference noteTriplet.toReference)

/-- Three triplets with blanks and without are read back. -/
theorem Facts.exists_read_three_triplets :
    ∃ f, Facts.read .standard
      (spread [' '] [(noteTriplet.text, []), (rateTriplet.text, ['\n', ' ']),
        (askingTriplet.text, [])]) = .ok f ∧
      List.Forall₂ Triplet.SameAs
        (Facts.collect [noteTriplet, rateTriplet, askingTriplet]).entries f.entries ∧
      standard.isTripletText (spread [' '] [(noteTriplet.text, []),
        (rateTriplet.text, ['\n', ' ']), (askingTriplet.text, [])]) = true := by
  have hnote : noteTriplet.Renderable :=
    ⟨⟨{ pfx := "N1", name := some "TEXT", value := some (.literal (.str "it's; $X.Y='1'\n")),
        comment := some "not \"here\"" }, rfl⟩, rfl, .inl (by simp [noteTriplet]), by
      rintro v hv
      obtain rfl := Option.some.inj hv
      exact .str _⟩
  have hrate : rateTriplet.Renderable :=
    ⟨⟨{ pfx := "R", name := some "RATE", value := some (.literal (.float 2.5)) }, rfl⟩, rfl,
      .inl (by simp [rateTriplet]), by
      rintro v hv
      obtain rfl := Option.some.inj hv
      exact .float _⟩
  have hasking : askingTriplet.Renderable :=
    ⟨⟨{ pfx := "R", value := some (.triplet noteTriplet.toReference.toTriplet), bid := true }, rfl⟩,
      rfl, .inr rfl, by
      rintro v hv
      obtain rfl := Option.some.inj hv
      exact .reference ⟨{ pfx := "N1", name := some "TEXT", comment := some "not \"here\"" }, rfl⟩
        (by simp [noteTriplet]) rfl rfl⟩
  obtain ⟨f, hf, hsame, hwhole⟩ := @Facts.exists_read_spread [' ']
    [(noteTriplet, []), (rateTriplet, ['\n', ' ']), (askingTriplet, [])]
    (by decide) (by decide) (by simp [hnote, hrate, hasking])
  exact ⟨f, hf, hsame, hwhole (by simp)⟩

end TripletFacts
