import TripletFacts.Proofs.Facts.Sorted
import TripletFacts.Proofs.Facts.Store

/-!
# Operations by position

An index cuts a collection into what stands before a triplet, the triplet and what stands after it;
a range cuts it into three lists. The operations by position answer the middle part or leave the
outer parts, wherever there is such a cut, and otherwise fail and change nothing.

Positions are words of 64 bits. The position of an index is the sum of a size and a negative number,
which fits, and a bound of a range that has no number after it stays as it is. The numbers that are
missed by this are greater than the size of every collection, so that it makes no difference which
of them a bound stands for.

## Main definitions

* `Facts.wordPosition?`: the position of an index, computed with words.
* `Range.lower`, `Range.upper`: the positions of a range as numbers without a limit.
* `Facts.SplitsAt`, `Facts.Cuts`: collections in parts.

## Main results

* `Facts.exists_wordPosition?_eq`: the computation with words is exact.
* `Range.within_iff`: the limit of the bounds makes no difference.
* `Facts.positional_laws`: what the operations by position answer and leave.
-/

namespace TripletFacts

/-! ### Words -/

/-- A number as a word without a sign, if it fits. -/
def word? (n : Int) : Option UInt64 :=
  if 0 ≤ n ∧ n < UInt64.size then some (.ofNat n.toNat) else none

/-- The number that an index stands for in a collection of some size, if it fits: a negative index
is added to the size. -/
def signedPosition? (length index : Int64) : Option Int64 :=
  if index.toInt < 0 then int64? (length.toInt + index.toInt) else some index

/-- The position that an index stands for in a collection of some size, computed with words: the
size becomes a signed word, the index is counted from the beginning, and it becomes a word without a
sign if it is in range. The outer `none` says that one of these numbers does not fit. -/
def Facts.wordPosition? (size : UInt64) (index : Int64) : Option (Option UInt64) :=
  (int64? size.toNat).bind fun length =>
    (signedPosition? length index).bind fun pos =>
      if pos.toInt < 0 ∨ length.toInt ≤ pos.toInt then some none else (word? pos.toInt).map some

theorem exists_int64?_eq {n : Int} (hlow : Int64.minValue.toInt ≤ n)
    (hhigh : n ≤ Int64.maxValue.toInt) : ∃ i, int64? n = some i ∧ i.toInt = n := by
  refine ⟨Int64.ofInt n, if_pos ⟨hlow, hhigh⟩, ?_⟩
  exact Int64.toInt_ofInt_of_le hlow (Int.lt_add_one_iff.2 hhigh)

theorem exists_word?_eq {n : Nat} (h : n < UInt64.size) :
    ∃ w, word? n = some w ∧ w.toNat = n := by
  refine ⟨.ofNat n, if_pos ⟨by omega, by omega⟩, ?_⟩
  exact UInt64.toNat_ofNat_of_lt' h

namespace Facts

variable {f : Facts} {index : Int} {before after : List Triplet} {t : Triplet}

/-- Every step of the computation with words is exact, in collections whose size is a signed
word. -/
theorem exists_wordPosition?_eq (hsize : f.size ≤ Int64.maxValue.toInt) (index : Int64) :
    ∃ p, wordPosition? (.ofNat f.size) index = some p ∧
      p.map UInt64.toNat = f.position? index.toInt := by
  have hmin : Int64.minValue.toInt ≤ index.toInt := Int64.le_iff_toInt_le.1 index.minValue_le
  have hmax : index.toInt ≤ Int64.maxValue.toInt := Int64.le_iff_toInt_le.1 index.le_maxValue
  have hzero : Int64.minValue.toInt ≤ 0 := by decide
  have hword : Int64.maxValue.toInt < UInt64.size := by decide
  have hnat : (UInt64.ofNat f.size).toNat = f.size := UInt64.toNat_ofNat_of_lt' (by omega)
  obtain ⟨length, hlength, hval⟩ := exists_int64?_eq (n := f.size) (by omega) hsize
  obtain ⟨pos, hpos, hsum⟩ : ∃ pos, signedPosition? length index = some pos ∧
      pos.toInt = if index.toInt < 0 then (f.size : Int) + index.toInt else index.toInt := by
    rw [signedPosition?, hval]
    split
    · exact exists_int64?_eq (by omega) (by omega)
    · exact ⟨index, rfl, rfl⟩
  rw [wordPosition?, hnat, hlength, Option.bind_some, hpos, Option.bind_some, position?, ← hsum,
    hval]
  by_cases h : 0 ≤ pos.toInt ∧ pos.toInt < f.size
  · obtain ⟨w, hw, hwval⟩ := exists_word?_eq (n := pos.toInt.toNat) (by omega)
    rw [Int.toNat_of_nonneg h.1] at hw
    rw [if_neg (by omega), hw, if_pos h, ← hwval]
    exact ⟨some w, rfl, rfl⟩
  · rw [if_pos (by omega), if_neg h]
    exact ⟨none, rfl, rfl⟩

/-! ### Single positions -/

/-- A collection in three parts, one of them a triplet, and the index of the triplet, counted from
the beginning or from the end. -/
structure SplitsAt (f : Facts) (index : Int) (before : List Triplet) (t : Triplet)
    (after : List Triplet) : Prop where
  entries : f.entries = before ++ t :: after
  index : index = before.length ∨ index = -(after.length + 1)

theorem SplitsAt.size (h : f.SplitsAt index before t after) :
    f.size = before.length + (after.length + 1) := by
  rw [Facts.size, h.entries, List.length_append, List.length_cons]

theorem exists_splitsAt (hlow : -(f.size : Int) ≤ index) (hhigh : index < f.size) :
    ∃ before t after, f.SplitsAt index before t after := by
  obtain ⟨pos, hpos, hindex⟩ : ∃ pos < f.size, index = pos ∨ index = pos - (f.size : Int) := by
    by_cases h : 0 ≤ index
    · exact ⟨index.toNat, by omega, by omega⟩
    · exact ⟨(f.size + index).toNat, by omega, by omega⟩
  refine ⟨f.entries.take pos, f.entries[pos], f.entries.drop (pos + 1), ?_, ?_⟩
  · rw [← List.drop_eq_getElem_cons hpos, List.take_append_drop]
  · rw [List.length_take, List.length_drop]
    change _ = ((min pos f.size : Nat) : Int) ∨ _ = -(((f.size - (pos + 1) : Nat) : Int) + 1)
    omega

/-- The triplet of a cut is the one at its index. -/
theorem SplitsAt.locate (h : f.SplitsAt index before t after) :
    f.locate index = .ok (before.length, t) := by
  have hsize := h.size
  have hindex : (if index < 0 then (f.size : Int) + index else index) = before.length := by
    rcases h.index with h | h <;> split <;> omega
  have hpos : f.position? index = some before.length := by
    rw [position?, hindex, if_pos (by omega), Int.toNat_natCast]
  have hget : f.entries[before.length]? = some t := by
    rw [h.entries, List.getElem?_append_right le_rfl, Nat.sub_self]
    rfl
  rw [Facts.locate, hpos, Option.bind_some, hget]
  rfl

theorem SplitsAt.nth (h : f.SplitsAt index before t after) : f.nth index = .ok t := by
  rw [Facts.nth, h.locate]
  rfl

/-- Taking the triplet of a cut out leaves the parts before and after it. -/
theorem SplitsAt.exists_removeNth_eq (h : f.SplitsAt index before t after) :
    ∃ rest : Facts, f.removeNth index = .ok (t, rest) ∧ rest.entries = before ++ after ∧
      rest.settings = f.settings := by
  have herase : f.entries.eraseIdx before.length = before ++ after := by
    rw [h.entries, List.eraseIdx_append_of_length_le le_rfl, Nat.sub_self]
    rfl
  rw [removeNth, h.locate]
  exact ⟨_, rfl, herase, rfl⟩

/-- There is no position for an index out of range. -/
theorem locate_eq_error (h : ¬(-(f.size : Int) ≤ index ∧ index < f.size)) :
    f.locate index = .error (.badIndex index f.size) := by
  have hpos : f.position? index = none := by
    rw [position?]
    split <;> exact if_neg (by omega)
  rw [locate, hpos]
  rfl

/-- What the operations at an index answer and leave. -/
structure IndexLaw (f : Facts) (index : Int64) : Prop where
  /-- The position is computed with words, and every step is exact. -/
  position : ∃ p, wordPosition? (.ofNat f.size) index = some p ∧
    p.map UInt64.toNat = f.position? index.toInt
  /-- An index in range is that of a triplet, which is answered; taking it out leaves the others. -/
  inside : -(f.size : Int) ≤ index.toInt → index.toInt < f.size → ∃ before t after rest,
    f.SplitsAt index.toInt before t after ∧ f.nth index.toInt = .ok t ∧
    f.removeNth index.toInt = .ok (t, rest) ∧
    rest.entries = before ++ after ∧ rest.settings = f.settings ∧
    (Store.removeNth index.toInt).on (.ofFacts f) = (.ok t, .ofFacts rest)
  /-- An index counts from the beginning or from the end. -/
  fromEnd : 0 ≤ index.toInt → index.toInt < f.size →
    f.nth index.toInt = f.nth (index.toInt - f.size) ∧
    f.removeNth index.toInt = f.removeNth (index.toInt - f.size)
  /-- An index out of range is refused, and the table stays as it is. -/
  outside : ¬(-(f.size : Int) ≤ index.toInt ∧ index.toInt < f.size) →
    ∃ e : FactError, e.category = .index ∧ f.nth index.toInt = .error e ∧
      f.removeNth index.toInt = .error e ∧
      (Store.removeNth index.toInt).on (.ofFacts f) = (.error e, .ofFacts f)

theorem indexLaw (hsize : f.size ≤ Int64.maxValue.toInt) (index : Int64) : f.IndexLaw index where
  position := exists_wordPosition?_eq hsize index
  inside hlow hhigh := by
    obtain ⟨before, t, after, hsplits⟩ := exists_splitsAt hlow hhigh
    obtain ⟨rest, hremove, hrest, hsettings⟩ := hsplits.exists_removeNth_eq
    refine ⟨before, t, after, rest, hsplits, hsplits.nth, hremove, hrest, hsettings, ?_⟩
    rw [Store.removeNth_ofFacts, hremove]
    rfl
  fromEnd hlow hhigh := by
    obtain ⟨before, t, after, hsplits⟩ := exists_splitsAt (by omega) hhigh
    have hend : f.SplitsAt (index.toInt - f.size) before t after := by
      have hlength := hsplits.size
      refine ⟨hsplits.entries, .inr ?_⟩
      rcases hsplits.index with h | h <;> omega
    rw [nth, nth, removeNth, removeNth, hsplits.locate, hend.locate]
    exact ⟨rfl, rfl⟩
  outside h := by
    have hlocate := locate_eq_error h
    refine ⟨.badIndex index.toInt f.size, rfl, ?_, ?_, ?_⟩
    · rw [nth, hlocate]
      rfl
    · rw [removeNth, hlocate]
      rfl
    · rw [Store.removeNth_ofFacts, removeNth, hlocate]
      rfl

end Facts

/-! ### Ranges -/

namespace Range

variable {r : Range} {size : Nat}

/-- The first position of a range, as a number without a limit. -/
def lower (r : Range) : Nat :=
  match r.start with
  | .unbounded => 0
  | .included n => n.toNat
  | .excluded n => n.toNat + 1

/-- The position after the last one of a range, as a number without a limit. -/
def upper (r : Range) (size : Nat) : Nat :=
  match r.stop with
  | .unbounded => size
  | .included n => n.toNat + 1
  | .excluded n => n.toNat

/-- A range that lies in a collection of some size. -/
def Within (r : Range) (size : Nat) : Prop := r.lower ≤ r.upper size ∧ r.upper size ≤ size

theorem first_eq (r : Range) : r.first = min r.lower (UInt64.size - 1) := by
  rw [first, lower]
  cases r.start with
  | unbounded => rfl
  | included n => exact (Nat.min_eq_left (Nat.le_sub_one_of_lt n.toNat_lt)).symm
  | excluded n => rfl

theorem last_eq (r : Range) (hsize : size < UInt64.size) :
    r.last size = min (r.upper size) (UInt64.size - 1) := by
  rw [last, upper]
  cases r.stop with
  | unbounded => exact (Nat.min_eq_left (Nat.le_sub_one_of_lt hsize)).symm
  | included n => rfl
  | excluded n => exact (Nat.min_eq_left (Nat.le_sub_one_of_lt n.toNat_lt)).symm

/-- In collections with fewer triplets than there are words, the limit of the bounds makes no
difference. -/
theorem within_iff (r : Range) (hsize : size < UInt64.size - 1) :
    r.first ≤ r.last size ∧ r.last size ≤ size ↔ r.Within size := by
  rw [first_eq, last_eq r (by omega), Within]
  omega

theorem Within.first_eq_lower (h : r.Within size) (hsize : size < UInt64.size) :
    r.first = r.lower := by
  obtain ⟨hle, hupper⟩ := h
  rw [first_eq]
  omega

theorem Within.last_eq_upper (h : r.Within size) (hsize : size < UInt64.size) :
    r.last size = r.upper size := by
  obtain ⟨-, hupper⟩ := h
  rw [last_eq r hsize]
  omega

end Range

namespace Facts

variable {f : Facts} {r : Range} {before mid after : List Triplet}

/-- A collection in three parts, and a range: that of the middle part. -/
structure Cuts (f : Facts) (r : Range) (before mid after : List Triplet) : Prop where
  entries : f.entries = before ++ mid ++ after
  lower : before.length = r.lower
  upper : (before ++ mid).length = r.upper f.size

theorem exists_cuts (h : r.Within f.size) : ∃ before mid after, f.Cuts r before mid after := by
  obtain ⟨hle, hupper⟩ := h
  have htake : f.entries.take r.lower ++ (f.entries.take (r.upper f.size)).drop r.lower =
      f.entries.take (r.upper f.size) := by
    rw [← Nat.min_eq_left hle, ← List.take_take, Nat.min_eq_left hle, List.take_append_drop]
  refine ⟨f.entries.take r.lower, (f.entries.take (r.upper f.size)).drop r.lower,
    f.entries.drop (r.upper f.size), ?_, ?_, ?_⟩
  · rw [htake, List.take_append_drop]
  · exact List.length_take_of_le (hle.trans hupper)
  · rw [htake]
    exact List.length_take_of_le hupper

theorem Cuts.within (h : f.Cuts r before mid after) : r.Within f.size := by
  rw [Range.Within, ← h.lower, ← h.upper, size, h.entries]
  simp

/-- The middle part of a cut is the slice, and the outer parts are left. -/
theorem Cuts.exists_slice_eq (h : f.Cuts r before mid after) (hsize : f.size < UInt64.size - 1) :
    ∃ part rest : Facts, f.slice r = .ok part ∧ part.entries = mid ∧
      part.settings = f.settings ∧ f.removeSlice r = .ok rest ∧ rest.entries = before ++ after ∧
      rest.settings = f.settings := by
  have hfirst : r.first = before.length :=
    (h.within.first_eq_lower (by omega)).trans h.lower.symm
  have hlast : r.last f.size = (before ++ mid).length :=
    (h.within.last_eq_upper (by omega)).trans h.upper.symm
  have hmid : (f.entries.take (r.last f.size)).drop r.first = mid := by
    rw [hlast, hfirst, h.entries, List.take_left, List.drop_left]
  have hrest : dropBetween r.first (r.last f.size) f.entries = before ++ after := by
    rw [dropBetween, hlast, hfirst, h.entries, List.drop_left, List.append_assoc, List.take_left]
  have hresolve : f.resolve r = .ok ⟨(r.first, r.last f.size), (r.within_iff hsize).2 h.within⟩ :=
    dif_pos _
  rw [slice, removeSlice, hresolve]
  exact ⟨_, _, rfl, hmid, rfl, rfl, hrest, rfl⟩

/-- What the operations on a range answer and leave. -/
structure RangeLaw (f : Facts) (r : Range) : Prop where
  /-- The bounds are words. -/
  words : r.first < UInt64.size ∧ r.last f.size < UInt64.size
  /-- A range in the collection cuts it: the middle part is answered, or the outer ones are left. -/
  inside : r.Within f.size → ∃ before mid after part rest, f.Cuts r before mid after ∧
    f.slice r = .ok part ∧ part.entries = mid ∧ part.settings = f.settings ∧
    f.removeSlice r = .ok rest ∧ rest.entries = before ++ after ∧ rest.settings = f.settings ∧
    (Store.removeSlice r).on (.ofFacts f) = (.ok (), .ofFacts rest)
  /-- Another range is refused, and the table stays as it is. -/
  outside : ¬r.Within f.size → ∃ e : FactError, e.category = .index ∧ f.slice r = .error e ∧
    f.removeSlice r = .error e ∧ (Store.removeSlice r).on (.ofFacts f) = (.error e, .ofFacts f)

theorem rangeLaw (hsize : f.size < UInt64.size - 1) (r : Range) : f.RangeLaw r where
  words := by
    rw [r.first_eq, r.last_eq (by omega)]
    omega
  inside h := by
    obtain ⟨before, mid, after, hcuts⟩ := exists_cuts h
    obtain ⟨part, rest, hslice, hmid, hpart, hremove, hrest, hsettings⟩ :=
      hcuts.exists_slice_eq hsize
    refine ⟨before, mid, after, part, rest, hcuts, hslice, hmid, hpart, hremove, hrest, hsettings,
      ?_⟩
    rw [Store.removeSlice_ofFacts, hremove]
    rfl
  outside h := by
    have hresolve : f.resolve r = .error (.badRange r.first (r.last f.size) f.size) :=
      dif_neg fun hle => h ((r.within_iff hsize).1 hle)
    refine ⟨.badRange r.first (r.last f.size) f.size, rfl, ?_, ?_, ?_⟩
    · rw [slice, hresolve]
      rfl
    · rw [removeSlice, hresolve]
      rfl
    · rw [Store.removeSlice_ofFacts, removeSlice, hresolve]
      rfl

/-- **Operations by position.** In a collection whose size is a signed word, every index in range is
that of a triplet, counted from the beginning or from the end, and every range in the collection
cuts it into three parts; the operations answer the middle part or leave the outer ones. Every other
index and every other range is refused, and changes nothing. No step goes beyond the words. -/
theorem positional_laws (f : Facts) (hsize : f.size ≤ Int64.maxValue.toInt) (index : Int64)
    (r : Range) : f.IndexLaw index ∧ f.RangeLaw r := by
  have hwords : Int64.maxValue.toInt < ((UInt64.size - 1 : Nat) : Int) := by decide
  exact ⟨indexLaw hsize index, rangeLaw (by omega) r⟩

/-- The greatest word. -/
def lastWord : UInt64 := .ofNat (UInt64.size - 1)

/-- The last of three triplets is found from both sides and taken out of the table. A range that
begins after the greatest word is refused. -/
theorem positional_laws_three :
    unsortedInts.size ≤ Int64.maxValue.toInt ∧
    unsortedInts.nth 2 = .ok (stating "A" none (.int 3)) ∧
    unsortedInts.nth 2 = unsortedInts.nth (-1) ∧
    (∃ rest, (Store.removeNth 2).on (.ofFacts unsortedInts) =
      (.ok (stating "A" none (.int 3)), .ofFacts rest)) ∧
    ∃ e, e.category = .index ∧
      (Store.removeSlice ⟨.excluded lastWord, .unbounded⟩).on (.ofFacts unsortedInts) =
        (.error e, .ofFacts unsortedInts) := by
  have hsize : unsortedInts.size ≤ Int64.maxValue.toInt := by decide
  have hlast : unsortedInts.nth 2 = .ok (stating "A" none (.int 3)) := rfl
  obtain ⟨hindex, hrange⟩ := positional_laws unsortedInts hsize 2 ⟨.excluded lastWord, .unbounded⟩
  obtain ⟨-, t, -, rest, -, hnth, -, -, -, htaken⟩ := hindex.inside (by decide) (by decide)
  obtain rfl := Except.ok.inj (hlast.symm.trans hnth)
  obtain ⟨hend, -⟩ := hindex.fromEnd (by decide) (by decide)
  obtain ⟨e, hcategory, -, -, hkept⟩ := hrange.outside fun h => absurd h.1 (by decide)
  exact ⟨hsize, hlast, hend, ⟨rest, htaken⟩, e, hcategory, hkept⟩

end Facts

end TripletFacts
