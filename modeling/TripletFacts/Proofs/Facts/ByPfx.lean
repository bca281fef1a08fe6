import TripletFacts.Proofs.Facts.Store

/-!
# The triplets with a prefix, and the others

What is asked for by a prefix and what is taken out by it are decided by one test of triplets, and
both operations fail if nothing passes it. So they split a collection in two: the triplets that are
found, and those that stay. As the keys of a collection are distinct, every triplet has a place in
it, and the two parts merged by these places are the collection again.

## Main definitions

* `Facts.place`: the position of a triplet in a collection.
* `Facts.SplitsInto`: a collection in two parts.
* `Facts.isFoundBy`: the test that decides what is found and what is taken out.

## Main results

* `Facts.withPfx_eq_ok_iff`, `Facts.withoutPfx_eq`: what is found, and what stays.
* `Facts.splitsInto_filter`: every test of triplets splits a collection.
* `Facts.split_by_pfx`: asking for a prefix and taking it out split a collection.
-/

namespace TripletFacts

/-- The two parts of a list in which the places grow are the list again if they are merged by the
places. -/
theorem merge_filter_not {α : Type} {place : α → Nat} {ts : List α}
    (hgrow : ts.Pairwise fun t u => place t < place u) (p : α → Bool) :
    (ts.filter p).merge (ts.filter fun t => !p t) (fun t u => decide (place t ≤ place u)) = ts := by
  let le : α → α → Bool := fun t u => decide (place t ≤ place u)
  have htrans : ∀ t u v, le t u = true → le u v = true → le t v = true := fun _ _ _ htu huv =>
    decide_eq_true (Nat.le_trans (of_decide_eq_true htu) (of_decide_eq_true huv))
  have htotal : ∀ t u, (le t u || le u t) = true := fun t u => by
    simpa [le] using Nat.le_total (place t) (place u)
  have hsorted : ts.Pairwise fun t u => le t u = true :=
    hgrow.imp fun h => decide_eq_true (Nat.le_of_lt h)
  have hmerged := List.pairwise_merge htrans htotal _ _ (hsorted.filter p)
    (hsorted.filter fun t => !p t)
  have hperm := (List.merge_perm_append le).trans (List.filter_append_perm p ts)
  have hnodup : (ts.map place).Nodup := List.pairwise_map.2 (hgrow.imp Nat.ne_of_lt)
  refine hperm.eq_of_pairwise (fun t u ht hu htu hut => ?_) hmerged hsorted
  have hplace : place t = place u :=
    Nat.le_antisymm (of_decide_eq_true htu) (of_decide_eq_true hut)
  exact List.inj_on_of_nodup_map hnodup (hperm.mem_iff.1 ht) hu hplace

namespace Facts

variable {f g h : Facts} {pfx : String} {strict : Bool}

/-! ### Two parts of a collection -/

/-- The position of the triplet with the key of a triplet. -/
def place (f : Facts) (t : Triplet) : Nat := f.keys.idxOf t.key

theorem place_getElem (f : Facts) {i : Nat} (hi : i < f.entries.length) :
    f.place f.entries[i] = i := by
  have hkeys : i < f.keys.length := by simpa [keys] using hi
  have hkey : f.entries[i].key = f.keys[i] := by simp [keys]
  rw [place, hkey]
  exact f.nodup.idxOf_getElem i hkeys

theorem pairwise_place_lt (f : Facts) : f.entries.Pairwise fun t u => f.place t < f.place u := by
  rw [List.pairwise_iff_getElem]
  intro i j hi hj hij
  rwa [f.place_getElem hi, f.place_getElem hj]

/-- A collection is made of two others, which have no key in common and keep its settings, its
triplets and their order. -/
structure SplitsInto (f g h : Facts) : Prop where
  left_settings : g.settings = f.settings
  right_settings : h.settings = f.settings
  disjoint : g.keys.Disjoint h.keys
  left_sublist : g.entries.Sublist f.entries
  right_sublist : h.entries.Sublist f.entries
  merge : g.entries.merge h.entries (fun t u => decide (f.place t ≤ f.place u)) = f.entries

/-- Every test splits a collection into the triplets that pass it and the others. -/
theorem splitsInto_filter (f : Facts) (p : Triplet → Bool) :
    f.SplitsInto (f.filter p) (f.filter fun t => !p t) where
  left_settings := rfl
  right_settings := rfl
  disjoint := by
    intro k hk hk'
    obtain ⟨t, ht, rfl⟩ := List.mem_map.1 hk
    obtain ⟨u, hu, hkey⟩ := List.mem_map.1 hk'
    obtain ⟨htmem, htp⟩ := List.mem_filter.1 ht
    obtain ⟨humem, hup⟩ := List.mem_filter.1 hu
    obtain rfl : u = t := List.inj_on_of_nodup_map f.nodup humem htmem hkey
    simp [htp] at hup
  left_sublist := List.filter_sublist
  right_sublist := List.filter_sublist
  merge := merge_filter_not f.pairwise_place_lt p

/-! ### What is found by a prefix -/

/-- Whether a triplet is found by a prefix that obeys the rules. -/
def isFoundBy (pfx : String) (strict : Bool) (t : Triplet) : Bool :=
  pfxMatches strict (Unicode.upper pfx) t.pfx

/-- What a prefix that obeys the rules finds. -/
theorem withPfx_of_validate (h : f.settings.validate .pfx (.str pfx) = .ok ()) :
    f.withPfx pfx strict = if (f.filter (isFoundBy pfx strict)).isEmpty then
      .error (.noPrefixed (Unicode.upper pfx)) else .ok (f.filter (isFoundBy pfx strict)) := by
  rw [withPfx, Settings.buildPfx_eq_ok_iff.2 ⟨h, rfl⟩]
  rfl

/-- Triplets are found by a prefix that obeys the rules if there is one that passes the test. -/
theorem withPfx_eq_ok_iff : f.withPfx pfx strict = .ok g ↔
    f.settings.validate .pfx (.str pfx) = .ok () ∧
      (∃ t ∈ f.entries, isFoundBy pfx strict t = true) ∧ f.filter (isFoundBy pfx strict) = g := by
  cases hvalid : f.settings.validate .pfx (.str pfx) with
  | error e => simp [withPfx, Settings.buildPfx_eq_error_iff.2 hvalid]
  | ok u =>
    have hempty : (f.filter (isFoundBy pfx strict)).isEmpty = true ↔
        ¬∃ t ∈ f.entries, isFoundBy pfx strict t = true := by
      simp [isEmpty, filter, restrict]
    simp only [withPfx_of_validate hvalid, hempty, true_and]
    by_cases hfound : ∃ t ∈ f.entries, isFoundBy pfx strict t = true
    · rw [if_neg (not_not_intro hfound), Except.ok.injEq, and_iff_right hfound]
    · simp [hfound]

/-- What stays behind if a prefix is taken out are the triplets without it. This fails exactly as
asking for the prefix does. -/
theorem withoutPfx_eq (f : Facts) (pfx : String) (strict : Bool) : f.withoutPfx pfx strict =
    (f.withPfx pfx strict).map fun _ => f.filter fun t => !isFoundBy pfx strict t := by
  rw [withoutPfx]
  cases hvalid : f.settings.validate .pfx (.str pfx) with
  | error e => rw [withPfx, Settings.buildPfx_eq_error_iff.2 hvalid]; rfl
  | ok u =>
    -- as many triplets stay as there were if none is found
    have hsize : (f.filter fun t => !isFoundBy pfx strict t).size = f.size ↔
        (f.filter (isFoundBy pfx strict)).isEmpty = true := by
      simp [size, isEmpty, filter, restrict]
    rw [withPfx_of_validate hvalid, Settings.buildPfx_eq_ok_iff.2 ⟨hvalid, rfl⟩]
    by_cases hnone : (f.filter (isFoundBy pfx strict)).isEmpty = true
    · rw [if_pos hnone]
      exact if_pos (hsize.2 hnone)
    · rw [if_neg hnone]
      exact if_neg (mt hsize.1 hnone)

/-- Some triplet has a prefix exactly if the prefix is found as it stands. -/
theorem containsPfx_eq_ok_true_iff :
    f.containsPfx pfx = .ok true ↔ ∃ g, f.withPfx pfx true = .ok g := by
  rw [containsPfx, map_eq_ok_iff]
  simp only [Settings.buildPfx_eq_ok_iff, withPfx_eq_ok_iff, List.any_eq_true, isFoundBy,
    pfxMatches,
    if_true]
  constructor
  · rintro ⟨_, ⟨hvalid, rfl⟩, hfound⟩
    exact ⟨_, hvalid, hfound, rfl⟩
  · rintro ⟨_, hvalid, hfound, -⟩
    exact ⟨_, ⟨hvalid, rfl⟩, hfound⟩

/-- A request without a name gets what is found by its prefix as it stands. -/
theorem satisfy_of_build {d : Draft} {s : Settings} {bid : Triplet} (h : d.build s = .ok bid)
    (hbid : d.bid = true) (hname : d.name = none ∨ d.name = some "") (f : Facts) :
    f.satisfy bid = (f.withPfx bid.pfx true).map .all := by
  obtain ⟨pfx, name, value, comment, -, hbuilt, -, -, rfl⟩ := Draft.build_eq_ok_iff.1 h
  obtain rfl : name = none := by
    rcases hname with hname | hname <;>
    · rw [hname] at hbuilt
      exact (Except.ok.inj hbuilt).symm
  rw [satisfy, if_pos hbid]

/-! ### Asking for a prefix and taking it out -/

/-- Asking for a prefix and taking it out split a collection. Both fail with the same error, and
then nothing is changed; otherwise the triplets that are found and those that stay have no key in
common, keep their order, and are the collection again if they are merged by their places. That a
collection contains a prefix means that the prefix is found as it stands, and a request without a
name that was built to this prefix gets what is found. -/
theorem split_by_pfx (f : Facts) (pfx : String) (strict : Bool) :
    (∀ e, f.withPfx pfx strict = .error e ↔
      (Store.removePfx pfx strict).on (.ofFacts f) = (.error e, .ofFacts f)) ∧
    (∀ g, f.withPfx pfx strict = .ok g →
      ∃ h, (Store.removePfx pfx strict).on (.ofFacts f) = (.ok (), .ofFacts h) ∧
        f.SplitsInto g h) ∧
    (f.containsPfx pfx = .ok true ↔ ∃ g, f.withPfx pfx true = .ok g) ∧
    ∀ (d : Draft) (s : Settings) (bid : Triplet), d.build s = .ok bid → d.bid = true →
      d.name = none ∨ d.name = some "" → bid.pfx = pfx →
        f.satisfy bid = (f.withPfx pfx true).map .all := by
  have hremove := Store.removePfx_ofFacts f pfx strict
  rw [withoutPfx_eq] at hremove
  refine ⟨fun e => ?_, fun g hg => ?_, containsPfx_eq_ok_true_iff,
    fun d s bid hbuild hbid hname hpfx => hpfx ▸ satisfy_of_build hbuild hbid hname f⟩
  · rw [hremove]
    cases f.withPfx pfx strict <;> simp [Except.map, Store.settle]
  · obtain ⟨-, -, rfl⟩ := withPfx_eq_ok_iff.1 hg
    rw [hg] at hremove
    exact ⟨_, hremove, f.splitsInto_filter _⟩

/-- A triplet with a prefix and without a value. -/
def pointerX (pfx : String) : Triplet where
  pfx := pfx
  name := some "X"
  comment := none
  bid := false
  special := false
  settings := .standard
  value := none

/-- Three triplets, two of which have a prefix with the letter `E`. -/
def threePfxs : Facts := ⟨[pointerX "E", pointerX "F", pointerX "E1"], .standard, by decide⟩

/-- The letter `E` alone finds two of the triplets, and a request for it gets one. -/
theorem split_by_pfx_letter : ∃ g h bid,
    threePfxs.withPfx "E" false = .ok g ∧ g.entries = [pointerX "E", pointerX "E1"] ∧
    (Store.removePfx "E" false).on (.ofFacts threePfxs) = (.ok (), .ofFacts h) ∧
    threePfxs.SplitsInto g h ∧
    Draft.build { pfx := "E", bid := true } .standard = .ok bid ∧
    threePfxs.satisfy bid = (threePfxs.withPfx "E" true).map .all := by
  have hfound : threePfxs.withPfx "E" false = .ok _ :=
    withPfx_eq_ok_iff.2 ⟨by decide, ⟨pointerX "E", List.mem_cons_self, by decide⟩, rfl⟩
  have hbuild : Draft.build { pfx := "E", bid := true } .standard = .ok _ :=
    Draft.build_eq_ok_iff.2 ⟨"E", none, none, none, by decide, rfl, rfl, rfl, rfl⟩
  obtain ⟨-, hsplit, -, hrequest⟩ := split_by_pfx threePfxs "E" false
  obtain ⟨h, hremoved, hparts⟩ := hsplit _ hfound
  exact ⟨_, h, _, hfound, rfl, hremoved, hparts, hbuild,
    hrequest _ _ _ hbuild rfl (.inl rfl) rfl⟩

end Facts

end TripletFacts
