import TripletFacts.Proofs.Facts.Store

/-!
# Merging collections

A collection is known by the order of its keys and by what is found under each of them. What is
merged into a collection leaves its keys where they are and brings its own new keys behind them,
while under a key that both have the triplet that is merged in takes the place of the old one. So
the order goes by the first collection and the triplets by the second one, and the laws of merging
are those of lists of keys without repetition and of alternatives.

## Main results

* `Facts.entries_eq_of_keys_eq`: the keys and what is found under them determine the triplets.
* `Facts.keys_plus`, `Facts.find?_plus`: the keys of two merged collections, and what is found.
* `Facts.plus_add`, `Facts.plus_addAll`: adding triplets before or after merging.
* `Facts.merging_laws`: the laws of merging.
-/

namespace TripletFacts.Facts

variable {f g : Facts} {k : Key} {ts : List Triplet}

/-! ### Keys and what is found under them -/

/-- What is found under the keys, in their order, are the triplets. -/
theorem filterMap_find?_keys (f : Facts) : f.keys.filterMap f.find? = f.entries := by
  have hfound : ∀ t ∈ f.entries, (f.find? ∘ Triplet.key) t = some t := fun t ht =>
    find?_eq_some_iff.2 ⟨ht, rfl⟩
  rw [keys, List.filterMap_map, List.filterMap_congr hfound]
  exact List.filterMap_some

/-- The keys and what is found under them determine the triplets. -/
theorem entries_eq_of_keys_eq (hkeys : f.keys = g.keys)
    (hfind : ∀ k ∈ g.keys, f.find? k = g.find? k) : f.entries = g.entries := by
  rw [← filterMap_find?_keys f, ← filterMap_find?_keys g, hkeys, List.filterMap_congr hfind]

/-! ### Adding triplets -/

theorem keys_add (f : Facts) (t : Triplet) :
    (f.add t).keys = if t.key ∈ f.keys then f.keys else f.keys ++ [t.key] :=
  map_key_putEntry t f.entries

/-- The keys after adding triplets with distinct keys: the new ones come last, in their order. -/
theorem keys_addAll (f : Facts) (h : (ts.map Triplet.key).Nodup) :
    (f.addAll ts).keys = f.keys ++ (ts.map Triplet.key).filter fun k => k ∉ f.keys := by
  induction ts generalizing f with
  | nil => exact (List.append_nil f.keys).symm
  | cons t ts ih =>
    rw [List.map_cons, List.nodup_cons] at h
    rw [addAll, List.foldl_cons]
    refine (ih (f.add t) h.2).trans ?_
    rw [keys_add, List.map_cons]
    by_cases ht : t.key ∈ f.keys
    · rw [if_pos ht, List.filter_cons_of_neg (by simpa using ht)]
    · -- the key is new, and it does not come again
      have hrest : ∀ k ∈ ts.map Triplet.key,
          decide (k ∉ f.keys ++ [t.key]) = decide (k ∉ f.keys) := fun k hk => by
        have hne : k ≠ t.key := fun heq => h.1 (heq ▸ hk)
        simp [hne]
      rw [if_neg ht, List.filter_cons_of_pos (by simpa using ht), List.filter_congr hrest,
        List.append_assoc, List.singleton_append]

/-- What is found after adding triplets with distinct keys: one of them, or what was there. -/
theorem find?_addAll (f : Facts) (h : (ts.map Triplet.key).Nodup) (k : Key) :
    (f.addAll ts).find? k = (ts.find? (·.key == k)).or (f.find? k) := by
  induction ts generalizing f with
  | nil => rfl
  | cons t ts ih =>
    rw [List.map_cons, List.nodup_cons] at h
    rw [addAll, List.foldl_cons]
    refine (ih (f.add t) h.2).trans ?_
    rw [find?_add]
    by_cases hk : t.key = k
    · have hnone : ts.find? (·.key == k) = none := by
        rw [List.find?_eq_none]
        exact fun u hu hkey => h.1 (hk ▸ beq_iff_eq.1 hkey ▸ List.mem_map_of_mem hu)
      rw [hnone, if_pos hk, List.find?_cons_of_pos (by simpa using hk)]
      rfl
    · rw [if_neg hk, List.find?_cons_of_neg (by simpa using hk)]

/-! ### Merging -/

@[simp] theorem settings_plus (f g : Facts) : (f.plus g).settings = f.settings :=
  settings_addAll f g.entries

/-- The keys of the first collection come first, and the new ones of the second come after them. -/
theorem keys_plus (f g : Facts) :
    (f.plus g).keys = f.keys ++ g.keys.filter fun k => k ∉ f.keys :=
  keys_addAll f g.nodup

/-- Under a key there is what the second collection has, or else what the first one has. -/
theorem find?_plus (f g : Facts) (k : Key) : (f.plus g).find? k = (g.find? k).or (f.find? k) :=
  find?_addAll f g.nodup k

/-- A triplet may be added before or after merging. -/
theorem plus_add (f g : Facts) (t : Triplet) : f.plus (g.add t) = (f.plus g).add t := by
  have hkeys : (f.plus (g.add t)).keys = ((f.plus g).add t).keys := by
    rw [keys_plus, keys_add, keys_add, keys_plus]
    by_cases hg : t.key ∈ g.keys <;> by_cases hf : t.key ∈ f.keys <;> simp [hf, hg]
  have hfind : ∀ k, (f.plus (g.add t)).find? k = ((f.plus g).add t).find? k := by
    intro k
    rw [find?_plus, find?_add, find?_add, find?_plus]
    split <;> rfl
  refine ext (entries_eq_of_keys_eq hkeys fun k _ => hfind k) ?_
  rw [settings_plus, settings_add, settings_plus]

theorem plus_addAll (f g : Facts) (ts : List Triplet) :
    f.plus (g.addAll ts) = (f.plus g).addAll ts := by
  induction ts generalizing g with
  | nil => rfl
  | cons t ts ih =>
    rw [addAll, List.foldl_cons]
    refine (ih (g.add t)).trans ?_
    rw [plus_add]
    rfl

theorem plus_assoc (f g h : Facts) : (f.plus g).plus h = f.plus (g.plus h) :=
  (plus_addAll f g h.entries).symm

theorem plus_empty (f : Facts) (s : Settings) : f.plus (empty s) = f := rfl

/-- What is merged into a collection without triplets keeps its own, in their order. -/
theorem entries_empty_plus (s : Settings) (f : Facts) : ((empty s).plus f).entries = f.entries := by
  have hkeys : ((empty s).plus f).keys = f.keys := by
    rw [keys_plus]
    exact List.filter_eq_self.2 fun k _ => rfl
  exact entries_eq_of_keys_eq hkeys fun k _ => (find?_plus _ f k).trans Option.or_none

/-- A collection that is merged into itself puts every triplet into its own place. -/
theorem plus_self (f : Facts) : f.plus f = f := by
  have hkeys : (f.plus f).keys = f.keys := by
    have hnone : f.keys.filter (fun k => k ∉ f.keys) = [] :=
      List.filter_eq_nil_iff.2 fun k hk => by simpa using hk
    rw [keys_plus, hnone, List.append_nil]
  refine ext (entries_eq_of_keys_eq hkeys fun k _ => ?_) (settings_plus f f)
  rw [find?_plus, Option.or_self]

/-- The triplets of two lists, one behind the other, are those of the first list with those of the
second one merged in. -/
theorem entries_collect_append (ts us : List Triplet) :
    (collect (ts ++ us)).entries = ((collect ts).plus (collect us)).entries := by
  -- only the settings of a collection depend on those with which it begins
  have hbegin : ∀ (s s' : Settings) (ts : List Triplet),
      ((empty s).addAll ts).entries = ((empty s').addAll ts).entries := fun s s' ts => by
    have hfold := plus_addAll (empty s) (empty s') ts
    rw [plus_empty] at hfold
    rw [← hfold, entries_empty_plus]
  have happend (s : Settings) : (empty s).addAll (ts ++ us) = ((empty s).addAll ts).addAll us :=
    List.foldl_append
  rw [collect, hbegin _ ((ts.head?.map fun t => t.settings).getD .standard), happend]
  rw [collect, collect, plus_addAll, plus_empty]

/-! ### Laws -/

/-- **The laws of merging.** Merging is associative, a collection without triplets changes nothing
on either side, and neither does the collection itself. Putting the triplets of a collection into
the table of another one, in place or as a sum, gives the table of the merged collections. Merging
the collections of two lists gives the triplets of the lists one behind the other. The keys of the
first collection come first, in their order, and the new keys of the second one behind them, in
theirs; under each of them stands the triplet of the second collection, or that of the first one if
the second has none. -/
theorem merging_laws (f g h : Facts) (s : Settings) (ts us : List Triplet) :
    (f.plus g).plus h = f.plus (g.plus h) ∧
    f.plus (empty s) = f ∧ ((empty s).plus f).entries = f.entries ∧ f.plus f = f ∧
    Store.exec (.extend (.ofFacts g)) (.ofFacts f) = (.ok none, .ofFacts (f.plus g)) ∧
    Store.exec (.plusStore (.ofFacts g)) (.ofFacts f) = (.ok none, .ofFacts (f.plus g)) ∧
    (collect (ts ++ us)).entries = ((collect ts).plus (collect us)).entries ∧
    (f.plus g).keys = f.keys ++ g.keys.filter (fun k => k ∉ f.keys) ∧
    ∀ k, (f.plus g).find? k = (g.find? k).or (f.find? k) := by
  have htable : Store.settle f (.ok (none, f.addAll (Store.ofFacts g).triplets)) =
      (.ok (none : Option Triplet), .ofFacts (f.plus g)) := by
    rw [Store.triplets_ofFacts]
    rfl
  exact ⟨plus_assoc f g h, plus_empty f s, entries_empty_plus s f, plus_self f,
    (Store.exec_ofFacts f _).trans htable, (Store.exec_ofFacts f _).trans htable,
    entries_collect_append ts us, keys_plus f g, find?_plus f g⟩

end TripletFacts.Facts
