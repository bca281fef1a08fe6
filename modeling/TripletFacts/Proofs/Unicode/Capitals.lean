import TripletFacts.Proofs.Unicode.Classes
import TripletFacts.Unicode.Case

/-!
# Texts in capital letters

A character in capital letters is made of characters that are their own capital letters, also where
it has several of them (`ß` gives `SS`). A text in capital letters is therefore not changed any
more when it is put into capital letters again.

The tables are held against each other: no row shifts a code point onto one that is shifted itself
or that has a text of several letters. Rows of every other code point interleave with the rows of
their own images, so that parity has to be looked at as well.

## Main definitions

* `Unicode.Unshifted`: code points with no capital letter but themselves.
* `Unicode.misses`: whether the images of one row avoid the code points of another.

## Main results

* `Unicode.unshifted_of_shiftOf`, `Unicode.unshifted_of_lookup`: what the tables assign has no other
  capital letter.
* `Unicode.upper_upper`: putting into capital letters twice is doing it once.
-/

namespace TripletFacts.Unicode

/-- A code point for which neither table has a capital letter. -/
def Unshifted (n : Nat) : Prop := shiftOf upperRows n = none ∧ upperTexts.lookup n = none

instance (n : Nat) : Decidable (Unshifted n) := inferInstanceAs (Decidable (_ ∧ _))

theorem upperChar_of_unshifted {c : Char} (h : Unshifted c.toNat) : upperChar c = [c] := by
  rw [upperChar, h.1, h.2]

/-- A code point that is no character stands for the first one. -/
theorem toNat_ofNat (n : Nat) : (Char.ofNat n).toNat = n ∨ (Char.ofNat n).toNat = 0 := by
  rw [Char.ofNat]
  by_cases h : n.isValidChar
  · rw [dif_pos h]
    exact .inl rfl
  · rw [dif_neg h]
    exact .inr rfl

theorem upperChar_ofNat {n : Nat} (h : Unshifted n) :
    upperChar (Char.ofNat n) = [Char.ofNat n] := by
  apply upperChar_of_unshifted
  rcases toNat_ofNat n with hn | hn
  · rwa [hn]
  · rw [hn]
    decide +kernel

/-! ### Rows of shifted characters -/

/-- The images of a row are not among the code points of another row: they lie before it or behind
it, or they are every other code point, and the wrong ones. -/
def misses (r q : ShiftRow) : Bool :=
  (r.2.2.2 + (r.2.1 - r.1)).blt q.1 || q.2.1.blt r.2.2.2 ||
    ((r.2.2.1.beq 2 || r.1.beq r.2.1) && q.2.2.1.beq 2 && ((r.2.2.2 + q.1) % 2).beq 1)

theorem not_mem_row_of_misses {r q : ShiftRow} (h : misses r q = true) {i : Nat}
    (hi : r.1 + i ≤ r.2.1) (hstep : i % r.2.2.1 = 0) :
    ¬(q.1 ≤ r.2.2.2 + i ∧ r.2.2.2 + i ≤ q.2.1 ∧ (r.2.2.2 + i - q.1) % q.2.2.1 = 0) := by
  rintro ⟨hlow, hhigh, hq⟩
  simp only [misses, Bool.or_eq_true, Bool.and_eq_true, Nat.blt_eq, Nat.beq_eq] at h
  rcases h with (h | h) | ⟨⟨hr, htwo⟩, hparity⟩
  · omega
  · omega
  · have heven : i % 2 = 0 := by
      rcases hr with hr | hr
      · rwa [hr] at hstep
      · rw [show i = 0 by omega]
    rw [htwo] at hq
    omega

/-- What a table of shifted ranges assigns comes from one of its rows. -/
theorem exists_of_shiftOf {n m : Nat} : {rows : List ShiftRow} → shiftOf rows n = some m →
    ∃ r ∈ rows, ∃ i, r.1 + i ≤ r.2.1 ∧ i % r.2.2.1 = 0 ∧ n = r.1 + i ∧ m = r.2.2.2 + i
  | (lo, hi, step, image) :: rows, h => by
    rw [shiftOf] at h
    split at h
    · cases h
    · rename_i hlo
      split at h
      · rename_i hin
        obtain rfl := Option.some.inj h
        exact ⟨_, List.mem_cons_self, n - lo, by dsimp only; omega, hin.2, by dsimp only; omega,
          rfl⟩
      · obtain ⟨r, hr, hm⟩ := exists_of_shiftOf h
        exact ⟨r, List.mem_cons_of_mem _ hr, hm⟩

/-- A table shifts nothing that is in none of its rows. -/
theorem shiftOf_eq_none_of_forall {n : Nat} : {rows : List ShiftRow} →
    (∀ q ∈ rows, ¬(q.1 ≤ n ∧ n ≤ q.2.1 ∧ (n - q.1) % q.2.2.1 = 0)) → shiftOf rows n = none
  | [], _ => rfl
  | (lo, hi, step, image) :: rows, h => by
    rw [shiftOf]
    split
    · rfl
    · rename_i hlo
      rw [if_neg fun hin => h _ List.mem_cons_self ⟨Nat.le_of_not_lt hlo, hin⟩]
      exact shiftOf_eq_none_of_forall fun q hq => h q (List.mem_cons_of_mem _ hq)

theorem misses_upperRows : (upperRows.all fun r => upperRows.all (misses r)) = true := by
  decide +kernel

theorem upperRows_miss_upperTexts : (upperRows.all fun r => upperTexts.all fun t =>
    (r.2.2.2 + (r.2.1 - r.1)).blt t.1 || t.1.blt r.2.2.2) = true := by
  decide +kernel

/-- What a row assigns has no other capital letter. -/
theorem unshifted_of_shiftOf {n m : Nat} (h : shiftOf upperRows n = some m) : Unshifted m := by
  obtain ⟨r, hr, i, hi, hstep, -, rfl⟩ := exists_of_shiftOf h
  constructor
  · have hmisses := List.all_eq_true.1 (List.all_eq_true.1 misses_upperRows r hr)
    exact shiftOf_eq_none_of_forall fun q hq => not_mem_row_of_misses (hmisses q hq) hi hstep
  · have hmisses := List.all_eq_true.1 (List.all_eq_true.1 upperRows_miss_upperTexts r hr)
    rw [List.lookup_eq_none_iff]
    intro t ht
    have := hmisses t ht
    simp only [Bool.or_eq_true, Nat.blt_eq] at this
    simp only [bne_iff_ne, ne_eq]
    omega

/-! ### Texts of several letters -/

theorem unshifted_upperTexts : ∀ t ∈ upperTexts, ∀ m ∈ t.2, Unshifted m := by decide +kernel

/-- The letters of a text that the second table assigns have no other capital letters. -/
theorem unshifted_of_lookup {n : Nat} {ms : List Nat} (h : upperTexts.lookup n = some ms) :
    ∀ m ∈ ms, Unshifted m := by
  obtain ⟨l₁, l₂, heq, -⟩ := List.lookup_eq_some_iff.1 h
  exact unshifted_upperTexts (n, ms) (heq ▸ List.mem_append_right _ List.mem_cons_self)

/-! ### Texts -/

/-- The characters of a character in capital letters are their own capital letters. -/
theorem upperChar_of_mem_upperChar {c d : Char} (h : d ∈ upperChar c) : upperChar d = [d] := by
  unfold upperChar at h
  split at h
  · rename_i n hn
    obtain rfl := List.mem_singleton.1 h
    exact upperChar_ofNat (unshifted_of_shiftOf hn)
  · rename_i hrows
    split at h
    · rename_i ns hns
      obtain ⟨n, hn, rfl⟩ := List.mem_map.1 h
      exact upperChar_ofNat (unshifted_of_lookup hns n hn)
    · rename_i htexts
      obtain rfl := List.mem_singleton.1 h
      exact upperChar_of_unshifted ⟨hrows, htexts⟩

/-- A text whose characters are their own capital letters. -/
theorem upper_eq_self {s : String} (h : ∀ c ∈ s.toList, upperChar c = [c]) : upper s = s := by
  have hmap : ∀ cs : List Char, (∀ c ∈ cs, upperChar c = [c]) → cs.flatMap upperChar = cs := by
    intro cs hcs
    induction cs with
    | nil => rfl
    | cons c cs ih =>
      simp only [List.mem_cons, forall_eq_or_imp] at hcs
      rw [List.flatMap_cons, hcs.1, ih hcs.2, List.singleton_append]
  rw [upper, hmap _ h, String.ofList_toList]

/-- A text in capital letters is not changed when it is put into capital letters again. -/
theorem upper_upper (s : String) : upper (upper s) = upper s := by
  refine upper_eq_self fun d hd => ?_
  rw [upper, String.toList_ofList] at hd
  obtain ⟨c, -, hdc⟩ := List.mem_flatMap.1 hd
  exact upperChar_of_mem_upperChar hdc

end TripletFacts.Unicode
