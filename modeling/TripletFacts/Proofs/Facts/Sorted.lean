import Mathlib
import TripletFacts.Facts.Compare
import TripletFacts.Proofs.Facts.OwnKey

/-!
# Equality and the order of keys

Two collections state the same if they have the same keys and if the triplets under each of them are
equal. This says nothing about an order, and it is the same from both sides, since the equality of
triplets is. That two collections are equal one by one says in addition that their keys stand in the
same order. A sorted collection has its keys in the one order in which they grow, so that for sorted
collections there is no difference.

## Main definitions

* `Key.Before`: the strict order of keys.
* `Facts.Agrees`: triplets with one key are equal.

## Main results

* `Triplet.equal_comm`: the equality of triplets is symmetric.
* `Facts.equal_iff`, `Facts.equalInOrder_iff`: what equality says of keys and triplets.
* `Facts.pairwise_before_sort`, `Facts.entries_sort_eq_of_perm`: what sorting yields.
* `Facts.equal_by_sorting`: equality is equality one by one after sorting.
-/

namespace TripletFacts

/-! ### The order of keys -/

/-- One key comes before another one: its prefix does, or the prefixes are one and it has no name,
or a name that comes first. -/
inductive Key.Before : Key → Key → Prop
  | pfx {p q : String} {m n : Option String} (h : p < q) : Before ⟨p, m⟩ ⟨q, n⟩
  | unnamed {p n : String} : Before ⟨p, none⟩ ⟨p, some n⟩
  | name {p m n : String} (h : m < n) : Before ⟨p, some m⟩ ⟨p, some n⟩

namespace Key

variable {a b c : Key}

theorem Before.irrefl : ¬a.Before a := by
  intro h
  cases h with
  | pfx h | name h => exact String.lt_irrefl _ h

theorem Before.trans (hab : a.Before b) (hbc : b.Before c) : a.Before c := by
  cases hab with
  | pfx h =>
    cases hbc with
    | pfx h' => exact .pfx (String.lt_trans h h')
    | unnamed | name _ => exact .pfx h
  | unnamed =>
    cases hbc with
    | pfx h' => exact .pfx h'
    | name _ => exact .unnamed
  | name h =>
    cases hbc with
    | pfx h' => exact .pfx h'
    | name h' => exact .name (String.lt_trans h h')

/-- Of two keys one comes before the other, unless they are one. -/
theorem before_trichotomy (a b : Key) : a.Before b ∨ a = b ∨ b.Before a := by
  obtain ⟨p, m⟩ := a
  obtain ⟨q, n⟩ := b
  rcases lt_trichotomy p q with hpq | rfl | hqp
  · exact .inl (.pfx hpq)
  · cases m with
    | none =>
      cases n with
      | none => exact .inr (.inl rfl)
      | some n => exact .inl .unnamed
    | some m =>
      cases n with
      | none => exact .inr (.inr .unnamed)
      | some n =>
        rcases lt_trichotomy m n with hmn | rfl | hnm
        · exact .inl (.name hmn)
        · exact .inr (.inl rfl)
        · exact .inr (.inr (.name hnm))
  · exact .inr (.inr (.pfx hqp))

/-- The order by which collections are sorted. -/
theorem le_iff : a.le b = true ↔ a.Before b ∨ a = b := by
  obtain ⟨p, m⟩ := a
  obtain ⟨q, n⟩ := b
  rw [le, Bool.or_eq_true, Bool.and_eq_true, beq_iff_eq, decide_eq_true_iff]
  constructor
  · rintro (hpq | ⟨rfl, hname⟩)
    · exact .inl (.pfx hpq)
    · cases m with
      | none =>
        cases n with
        | none => exact .inr rfl
        | some n => exact .inl .unnamed
      | some m =>
        cases n with
        | none => cases hname
        | some n =>
          rcases lt_trichotomy m n with hmn | rfl | hnm
          · exact .inl (.name hmn)
          · exact .inr rfl
          · exact absurd hnm (String.not_lt.2 (of_decide_eq_true hname))
  · rintro (hbefore | heq)
    · cases hbefore with
      | pfx h => exact .inl h
      | unnamed => exact .inr ⟨rfl, rfl⟩
      | name h => exact .inr ⟨rfl, decide_eq_true (String.not_lt.1 (String.lt_asymm h))⟩
    · cases heq
      refine .inr ⟨rfl, ?_⟩
      cases m with
      | none => rfl
      | some m => exact decide_eq_true (String.le_refl m)

theorem le_trans (hab : a.le b = true) (hbc : b.le c = true) : a.le c = true := by
  rw [le_iff] at *
  rcases hab with hab | rfl
  · rcases hbc with hbc | rfl
    · exact .inl (hab.trans hbc)
    · exact .inl hab
  · exact hbc

theorem le_total (a b : Key) : (a.le b || b.le a) = true := by
  rw [Bool.or_eq_true, le_iff, le_iff]
  rcases before_trichotomy a b with h | h | h
  · exact .inl (.inl h)
  · exact .inl (.inr h)
  · exact .inr (.inl h)

end Key

/-! ### Equal triplets -/

theorem Value.equal_comm (v w : Value) : v.equal w = w.equal v := by
  cases v <;> cases w <;> simp [equal, number?, BEq.comm]

namespace Item

mutual

theorem equal_comm : (i j : Item) → i.equal j = j.equal i
  | formula is s, formula js s' => by
    rw [equal, equal]
    exact allEqual_comm is js
  | .text _, j | number (.int _), j | number (.float _), j | bool _, j | reference _, j => by
    rcases j with _ | (_ | _) | _ | _ | _ <;> simp [equal, BEq.comm]
  | formula _ _, .text _ | formula _ _, number (.int _) | formula _ _, number (.float _)
  | formula _ _, bool _ | formula _ _, reference _ => by simp [equal]

theorem allEqual_comm : (is js : List Item) → allEqual is js = allEqual js is
  | [], [] => rfl
  | [], _ :: _ => by simp [allEqual]
  | _ :: _, [] => by simp [allEqual]
  | i :: is, j :: js => by
    rw [allEqual, allEqual, equal_comm i j, allEqual_comm is js]

end

end Item

theorem FactValue.equal_comm (v w : FactValue) : v.equal w = w.equal v := by
  cases v <;> cases w <;> try rfl
  case literal.literal v w => exact v.equal_comm w
  case reference.reference r s => exact BEq.comm
  case formula.formula f g => exact Item.allEqual_comm f.items g.items

/-- The equality of triplets is symmetric. -/
theorem Triplet.equal_comm (t u : Triplet) : t.equal u = u.equal t := by
  have hvalue : ∀ v w : Option FactValue,
      FactValue.optionEqual v w = FactValue.optionEqual w v := fun v w => by
    cases v <;> cases w <;> try rfl
    case some.some v w => exact v.equal_comm w
  rw [equal, equal, BEq.comm, hvalue]

theorem Triplet.key_eq_of_equal {t u : Triplet} (h : t.equal u = true) : t.key = u.key :=
  beq_iff_eq.1 (Bool.and_eq_true_iff.1 h).1

namespace Facts

variable {f g : Facts}

/-! ### Equal collections -/

/-- Triplets with one key are equal. -/
def Agrees (f g : Facts) : Prop :=
  ∀ t ∈ f.entries, ∀ u ∈ g.entries, t.key = u.key → t.equal u = true

theorem Agrees.symm (h : f.Agrees g) : g.Agrees f := fun t ht u hu hkey =>
  (t.equal_comm u).trans (h u hu t ht hkey.symm)

/-- Collections are equal if they have the same keys and agree on them. -/
theorem equal_iff : f.equal g = true ↔ f.keys.Perm g.keys ∧ f.Agrees g := by
  rw [equal, Bool.and_eq_true, beq_iff_eq, List.all_eq_true]
  constructor
  · rintro ⟨hsize, hall⟩
    have hfound : ∀ t ∈ f.entries, ∃ u, g.find? t.key = some u ∧ u.equal t = true := fun t ht =>
      (Option.any_eq_true _ _).1 (hall t ht)
    have hsubset : f.keys ⊆ g.keys := fun k hk => by
      obtain ⟨t, ht, rfl⟩ := List.mem_map.1 hk
      obtain ⟨u, hu, -⟩ := hfound t ht
      obtain ⟨hmem, hkey⟩ := find?_eq_some_iff.1 hu
      exact hkey ▸ List.mem_map_of_mem hmem
    have hlength : g.keys.length ≤ f.keys.length := by
      simp only [keys, List.length_map]
      exact Nat.le_of_eq hsize.symm
    refine ⟨(List.subperm_of_subset f.nodup hsubset).perm_of_length_le hlength, ?_⟩
    intro t ht u hu hkey
    obtain ⟨u', hu', hequal⟩ := hfound t ht
    obtain rfl : u = u' := Option.some.inj ((find?_eq_some_iff.2 ⟨hu, hkey.symm⟩).symm.trans hu')
    exact (t.equal_comm u).trans hequal
  · rintro ⟨hkeys, hagrees⟩
    refine ⟨by simpa [keys, size] using hkeys.length_eq, fun t ht => ?_⟩
    obtain ⟨u, hu, hkey⟩ := List.mem_map.1 (hkeys.mem_iff.1 (List.mem_map_of_mem ht))
    rw [find?_eq_some_iff.2 ⟨hu, hkey⟩]
    exact hagrees.symm u hu t ht hkey

theorem equal_comm (f g : Facts) : f.equal g = g.equal f := by
  rw [Bool.eq_iff_iff, equal_iff, equal_iff]
  exact ⟨fun ⟨hkeys, h⟩ => ⟨hkeys.symm, h.symm⟩, fun ⟨hkeys, h⟩ => ⟨hkeys.symm, h.symm⟩⟩

/-- Lists of triplets with distinct keys are equal one by one if they have the same keys in the same
order and if triplets with one key are equal. -/
theorem allEqual_iff {ts us : List Triplet} (h : (ts.map Triplet.key).Nodup) :
    allEqual ts us = true ↔ ts.map Triplet.key = us.map Triplet.key ∧
      ∀ t ∈ ts, ∀ u ∈ us, t.key = u.key → t.equal u = true := by
  induction ts generalizing us with
  | nil =>
    cases us with
    | nil => exact ⟨fun _ => ⟨rfl, fun _ ht => absurd ht List.not_mem_nil⟩, fun _ => rfl⟩
    | cons u us => exact ⟨Bool.noConfusion, fun h => absurd h.1 (List.cons_ne_nil _ _).symm⟩
  | cons t ts ih =>
    cases us with
    | nil => exact ⟨Bool.noConfusion, fun h => absurd h.1 (List.cons_ne_nil _ _)⟩
    | cons u us =>
      rw [List.map_cons, List.nodup_cons] at h
      rw [allEqual, Bool.and_eq_true, ih h.2, List.map_cons, List.map_cons, List.cons.injEq]
      constructor
      · rintro ⟨hequal, hkeys, hall⟩
        have hkey := Triplet.key_eq_of_equal hequal
        refine ⟨⟨hkey, hkeys⟩, fun t' ht u' hu hkey' => ?_⟩
        -- the first triplet of one list has no key of the rest of the other one
        rcases List.mem_cons.1 ht with rfl | ht <;> rcases List.mem_cons.1 hu with rfl | hu
        · exact hequal
        · exact absurd (hkeys ▸ hkey' ▸ List.mem_map_of_mem hu) h.1
        · exact absurd (hkey ▸ hkey' ▸ List.mem_map_of_mem ht) h.1
        · exact hall t' ht u' hu hkey'
      · rintro ⟨⟨hkey, hkeys⟩, hall⟩
        exact ⟨hall t List.mem_cons_self u List.mem_cons_self hkey, hkeys, fun t' ht u' hu =>
          hall t' (List.mem_cons_of_mem t ht) u' (List.mem_cons_of_mem u hu)⟩

/-- Collections are equal one by one if they have the same keys in the same order and agree on
them. -/
theorem equalInOrder_iff : f.equalInOrder g = true ↔ f.keys = g.keys ∧ f.Agrees g :=
  allEqual_iff f.nodup

/-! ### Sorted collections -/

theorem sort_perm (f : Facts) : f.sort.entries.Perm f.entries := List.mergeSort_perm _ _

/-- The keys of a sorted collection grow. -/
theorem pairwise_before_sort (f : Facts) :
    f.sort.entries.Pairwise fun t u => t.key.Before u.key := by
  have htrans (t u v : Triplet) : t.key.le u.key = true → u.key.le v.key = true →
      t.key.le v.key = true := Key.le_trans
  have htotal (t u : Triplet) : (t.key.le u.key || u.key.le t.key) = true :=
    Key.le_total t.key u.key
  have hle : f.sort.entries.Pairwise fun t u => t.key.le u.key = true :=
    List.pairwise_mergeSort htrans htotal f.entries
  have hne : f.sort.entries.Pairwise fun t u => t.key ≠ u.key := List.pairwise_map.1 f.sort.nodup
  exact (hle.and hne).imp fun ⟨hle, hne⟩ => (Key.le_iff.1 hle).resolve_right hne

theorem pairwise_before_keys_sort (f : Facts) : f.sort.keys.Pairwise Key.Before :=
  List.pairwise_map.2 f.pairwise_before_sort

/-- Sorting forgets the order in which the triplets were. -/
theorem entries_sort_eq_of_perm (h : f.entries.Perm g.entries) :
    f.sort.entries = g.sort.entries := by
  refine List.Perm.eq_of_pairwise (fun t u _ _ htu hut => ?_) f.pairwise_before_sort
    g.pairwise_before_sort (f.sort_perm.trans (h.trans g.sort_perm.symm))
  exact absurd (htu.trans hut) Key.Before.irrefl

/-- Sorted collections have the same keys in the same order if they have the same keys. -/
theorem keys_sort_eq_iff : f.sort.keys = g.sort.keys ↔ f.keys.Perm g.keys := by
  have hf : f.sort.keys.Perm f.keys := f.sort_perm.map Triplet.key
  have hg : g.sort.keys.Perm g.keys := g.sort_perm.map Triplet.key
  constructor
  · intro h
    exact hf.symm.trans (h ▸ hg)
  · intro h
    refine List.Perm.eq_of_pairwise (fun a b _ _ hab hba => ?_) f.pairwise_before_keys_sort
      g.pairwise_before_keys_sort (hf.trans (h.trans hg.symm))
    exact absurd (hab.trans hba) Key.Before.irrefl

/-- Sorting does not change on what collections agree. -/
theorem agrees_sort_iff : f.sort.Agrees g.sort ↔ f.Agrees g := by
  simp only [Agrees, f.sort_perm.mem_iff, g.sort_perm.mem_iff]

/-- Equality is equality one by one after sorting. -/
theorem equal_eq_equalInOrder_sort (f g : Facts) : f.equal g = f.sort.equalInOrder g.sort := by
  rw [Bool.eq_iff_iff, equal_iff, equalInOrder_iff, keys_sort_eq_iff, agrees_sort_iff]

theorem equal_of_equalInOrder (h : f.equalInOrder g = true) : f.equal g = true := by
  obtain ⟨hkeys, hagrees⟩ := equalInOrder_iff.1 h
  exact equal_iff.2 ⟨hkeys ▸ .refl _, hagrees⟩

/-- **Equality and sorting.** Whether collections are equal does not depend on the side from which
they are compared, and they are equal exactly if they are equal one by one after sorting; those that
are equal one by one are equal. Sorting keeps all triplets as they are, and the settings. Afterwards
the keys grow, and nothing is left of the order in which the triplets were. -/
theorem equal_by_sorting (f g : Facts) :
    f.equal g = g.equal f ∧
    f.equal g = f.sort.equalInOrder g.sort ∧
    (f.equalInOrder g = true → f.equal g = true) ∧
    f.sort.entries.Perm f.entries ∧ f.sort.settings = f.settings ∧
    f.sort.entries.Pairwise (fun t u => t.key.Before u.key) ∧
    (f.entries.Perm g.entries → f.sort.entries = g.sort.entries) :=
  ⟨equal_comm f g, equal_eq_equalInOrder_sort f g, equal_of_equalInOrder, f.sort_perm, rfl,
    f.pairwise_before_sort, entries_sort_eq_of_perm⟩

/-- A triplet with a literal. -/
def stating (pfx : String) (name : Option String) (v : Value) : Triplet where
  pfx := pfx
  name := name
  comment := none
  bid := false
  special := false
  settings := .standard
  value := some (.literal v)

/-- Integers under three keys that do not grow. -/
def unsortedInts : Facts :=
  ⟨[stating "B" (some "X") (.int 1), stating "A" (some "X") (.int 2), stating "A" none (.int 3)],
    .standard, by decide⟩

/-- The same numbers as floats, in the same order. -/
def unsortedFloats : Facts :=
  ⟨[stating "B" (some "X") (.float 1), stating "A" (some "X") (.float 2),
    stating "A" none (.float 3)], .standard, by decide⟩

/-- The integers from the last one to the first one. -/
def reversedInts : Facts := ⟨unsortedInts.entries.reverse, .standard, by decide⟩

/-- Integers are equal to floats, in every order, and sorting puts the key without a name first. -/
theorem equal_by_sorting_three :
    unsortedInts.equalInOrder unsortedFloats = true ∧
    unsortedInts.equal unsortedFloats = true ∧
    unsortedInts.entries.Perm reversedInts.entries ∧
    unsortedInts.sort.entries = reversedInts.sort.entries ∧
    unsortedInts.sort.keys = [⟨"A", none⟩, ⟨"A", some "X"⟩, ⟨"B", some "X"⟩] := by
  have hequal : unsortedInts.equalInOrder unsortedFloats = true := by decide +kernel
  have hperm : unsortedInts.entries.Perm reversedInts.entries :=
    (List.reverse_perm unsortedInts.entries).symm
  obtain ⟨-, -, hunordered, -⟩ := equal_by_sorting unsortedInts unsortedFloats
  obtain ⟨-, -, -, -, -, -, hsorted⟩ := equal_by_sorting unsortedInts reversedInts
  exact ⟨hequal, hunordered hequal, hperm, hsorted hperm, by cbv⟩

end Facts

end TripletFacts
