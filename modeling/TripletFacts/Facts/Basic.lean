import TripletFacts.Triplet.Inspect

/-!
# Collections of facts

A collection holds triplets in an order, at most one for every key. A triplet that is added takes
the place of the one with its key, or comes last. A collection has settings of its own, which its
text and its look-ups use; the triplets keep theirs.

## Main definitions

* `Facts`: collections.
* `Facts.add`, `Facts.addAll`, `Facts.plus`: collections with more triplets.
* `Facts.collect`: the collection of a list.
* `Facts.text`: a collection in the notation.

## Main results

* `map_key_putEntry`, `find?_putEntry`: the keys, and the triplet with a key, after a triplet has
  been put among others.
* `Facts.find?_add`: what is found after adding a triplet.
-/

namespace TripletFacts

/-- Puts a triplet in the place of the one with its key, or at the end. -/
def putEntry (t : Triplet) : List Triplet → List Triplet
  | [] => [t]
  | u :: us => if u.key = t.key then t :: us else u :: putEntry t us

/-- What is put among others is the only new triplet. -/
theorem mem_putEntry {t u : Triplet} {us : List Triplet} (h : u ∈ putEntry t us) :
    u = t ∨ u ∈ us := by
  induction us with
  | nil => exact .inl (List.mem_singleton.1 h)
  | cons v us ih =>
    rw [putEntry] at h
    split at h
    · exact (List.mem_cons.1 h).imp_right (List.mem_cons_of_mem v)
    · rcases List.mem_cons.1 h with rfl | h
      · exact .inr List.mem_cons_self
      · exact (ih h).imp_right (List.mem_cons_of_mem v)

/-- Putting a triplet among others adds its key at the end unless it was there. -/
theorem map_key_putEntry (t : Triplet) (us : List Triplet) :
    (putEntry t us).map Triplet.key =
      if t.key ∈ us.map Triplet.key then us.map Triplet.key else us.map Triplet.key ++ [t.key] := by
  induction us with
  | nil => simp [putEntry]
  | cons u us ih =>
    by_cases h : u.key = t.key
    · simp [putEntry, h]
    · have h' : t.key ≠ u.key := fun e => h e.symm
      simp only [putEntry, h, if_false, List.map_cons, ih, List.mem_cons, h', false_or]
      split <;> simp

/-- Putting a triplet among others keeps the keys distinct. -/
theorem nodup_putEntry {t : Triplet} {us : List Triplet} (h : (us.map Triplet.key).Nodup) :
    ((putEntry t us).map Triplet.key).Nodup := by
  rw [map_key_putEntry]
  split
  · exact h
  · rename_i hn
    rw [List.nodup_append]
    refine ⟨h, by simp, fun a ha b hb => ?_⟩
    rw [List.mem_singleton] at hb
    exact fun e => hn (hb ▸ e ▸ ha)

/-- The triplet with a key after one has been put among others. -/
theorem find?_putEntry (t : Triplet) (us : List Triplet) (k : Key) :
    (putEntry t us).find? (·.key == k) =
      if t.key = k then some t else us.find? (·.key == k) := by
  induction us with
  | nil => by_cases h : t.key = k <;> simp [putEntry, h]
  | cons u us ih =>
    by_cases hu : u.key = t.key
    · by_cases h : t.key = k <;> simp [putEntry, hu, h]
    · by_cases huk : u.key = k
      · have h : t.key ≠ k := fun e => hu (huk.trans e.symm)
        rw [putEntry, if_neg hu, if_neg h]
        simp [huk]
      · by_cases h : t.key = k <;> simp [putEntry, hu, huk, ih, h]

/-- A collection of facts. -/
structure Facts where
  /-- The triplets in their order. -/
  entries : List Triplet
  settings : Settings
  /-- No two triplets have one key. -/
  nodup : (entries.map Triplet.key).Nodup

namespace Facts

/-- A collection is known by its triplets and its settings. -/
@[ext] theorem ext {f g : Facts} (hentries : f.entries = g.entries)
    (hsettings : f.settings = g.settings) : f = g := by
  cases f
  cases g
  cases hentries
  cases hsettings
  rfl

/-- The collection without triplets. -/
def empty (s : Settings) : Facts := ⟨[], s, List.nodup_nil⟩

/-- The number of triplets. -/
def size (f : Facts) : Nat := f.entries.length

/-- Whether there are no triplets. -/
def isEmpty (f : Facts) : Bool := f.entries.isEmpty

/-- The keys in the order of the triplets. -/
def keys (f : Facts) : List Key := f.entries.map Triplet.key

/-! ### Adding -/

/-- The collection with a triplet, in the place of the one with its key or at the end. -/
def add (f : Facts) (t : Triplet) : Facts :=
  ⟨putEntry t f.entries, f.settings, nodup_putEntry f.nodup⟩

/-- The collection with several triplets, added one after the other. -/
def addAll (f : Facts) (ts : List Triplet) : Facts := ts.foldl add f

/-- The collection with the triplets of another one. -/
def plus (f g : Facts) : Facts := f.addAll g.entries

/-- The collection of a list, with the settings of its first triplet. -/
def collect (ts : List Triplet) : Facts :=
  (empty ((ts.head?.map fun t => t.settings).getD .standard)).addAll ts

/-- The collection of its triplets alone: their settings take the place of its own. -/
def rebuild (f : Facts) : Facts := collect f.entries

@[simp] theorem settings_add (f : Facts) (t : Triplet) : (f.add t).settings = f.settings := rfl

@[simp] theorem settings_addAll (f : Facts) (ts : List Triplet) :
    (f.addAll ts).settings = f.settings := by
  induction ts generalizing f with
  | nil => rfl
  | cons t ts ih => exact ih (f.add t)

/-! ### Parts of a collection -/

/-- The collection with some of its triplets, in their order. -/
def restrict (f : Facts) (ts : List Triplet) (h : ts.Sublist f.entries) : Facts :=
  ⟨ts, f.settings, f.nodup.sublist (h.map _)⟩

/-- The triplets that pass a test. -/
def filter (f : Facts) (p : Triplet → Bool) : Facts :=
  f.restrict (f.entries.filter p) List.filter_sublist

/-- The triplet with a key. -/
def find? (f : Facts) (k : Key) : Option Triplet := f.entries.find? (·.key == k)

/-- What is found after adding a triplet: the triplet under its key, and all else as before. -/
theorem find?_add (f : Facts) (t : Triplet) (k : Key) :
    (f.add t).find? k = if t.key = k then some t else f.find? k := find?_putEntry t f.entries k

/-! ### Texts -/

/-- The triplets with the separator between them. -/
def text (f : Facts) : List Char :=
  f.settings.tripletSeparator.toList.intercalate (f.entries.map Triplet.text)

/-- The triplets with the names of their parts. -/
def inspect (f : Facts) : List Char :=
  "TripletString[".toList ++ commaSeparated (f.entries.map Triplet.inspect) ++ [']']

end Facts

/-! ### Sums of triplets -/

namespace Triplet

/-- The collection of a triplet and the triplets of a collection, with the settings of the
triplet. -/
def plusFacts (t : Triplet) (f : Facts) : Facts := ((Facts.empty t.settings).add t).plus f

/-- The collection of two triplets, with the settings of the first one. -/
def plus (t u : Triplet) : Facts := ((Facts.empty t.settings).add t).add u

end Triplet

end TripletFacts
