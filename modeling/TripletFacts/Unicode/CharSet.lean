import TripletFacts.Unicode.Ranges

/-!
# Sets of characters

A set of characters is kept as ranges of code points in ascending order, with a gap between any
two of them, so that a set is written in one way only. Sets are closed under union, complement and
what follows from these.

## Main definitions

* `Unicode.Ascending`: ranges in ascending order with gaps.
* `CharSet`: sets of characters.
* `CharSet.contains`: whether a character is in a set.
* `CharSet.insert`, `CharSet.union`, `CharSet.compl`, `CharSet.inter`, `CharSet.diff`,
  `CharSet.symmDiff`: operations.

## Main results

* `CharSet.contains_union`, `CharSet.contains_compl` and their companions: what the operations
  contain.
-/

namespace TripletFacts

namespace Unicode

/-! ### Ascending ranges -/

/-- Ranges ascend with a gap between any two of them, and none is empty. -/
def Ascending : List (Nat × Nat) → Prop
  | [] => True
  | r :: rest => r.1 ≤ r.2 ∧ (∀ s ∈ rest, r.2 + 1 < s.1) ∧ Ascending rest

/-- A code point lies in one of the ranges. -/
def Covered (ranges : List (Nat × Nat)) (n : Nat) : Prop := ∃ r ∈ ranges, r.1 ≤ n ∧ n ≤ r.2

@[simp] theorem covered_nil (n : Nat) : ¬Covered [] n := by simp [Covered]

@[simp] theorem covered_cons (r : Nat × Nat) (rest : List (Nat × Nat)) (n : Nat) :
    Covered (r :: rest) n ↔ (r.1 ≤ n ∧ n ≤ r.2) ∨ Covered rest n := by simp [Covered]

/-- The look-up in an ascending table finds all ranges. -/
theorem inRanges_iff {n : Nat} :
    {ranges : List (Nat × Nat)} → Ascending ranges → (inRanges ranges n = true ↔ Covered ranges n)
  | [], _ => by simp [inRanges]
  | (lo, hi) :: rest, h => by
      obtain ⟨hle, hgap, hrest⟩ := h
      have ih := inRanges_iff (n := n) hrest
      simp only [inRanges, covered_cons]
      split
      · rename_i hlo
        simp only [Bool.false_eq_true, false_iff]
        rintro (⟨h₁, _⟩ | ⟨s, hs, h₁, _⟩)
        · omega
        · have := hgap s hs
          simp only at this hle
          omega
      · split
        · simp
          omega
        · rw [ih]
          constructor
          · exact Or.inr
          · rintro (⟨_, h⟩ | h)
            · omega
            · exact h

/-! ### Insertion -/

/-- Ranges with one more range; what it touches is joined with it. -/
def insertRange (lo hi : Nat) : List (Nat × Nat) → List (Nat × Nat)
  | [] => [(lo, hi)]
  | (a, b) :: rest =>
    if hi + 1 < a then (lo, hi) :: (a, b) :: rest
    else if b + 1 < lo then (a, b) :: insertRange lo hi rest
    else insertRange (min lo a) (max hi b) rest

theorem lt_of_mem_insertRange {m : Nat} :
    {lo hi : Nat} → {ranges : List (Nat × Nat)} → m < lo → (∀ s ∈ ranges, m < s.1) →
      ∀ s ∈ insertRange lo hi ranges, m < s.1
  | lo, hi, [], hlo, _, s, hs => by simp_all [insertRange]
  | lo, hi, (a, b) :: rest, hlo, h, s, hs => by
      have ha : m < a := h (a, b) (by simp)
      have hrest : ∀ s ∈ rest, m < s.1 := fun s hs => h s (List.mem_cons_of_mem _ hs)
      unfold insertRange at hs
      split at hs
      · rcases List.mem_cons.1 hs with rfl | hs
        · exact hlo
        · exact h s hs
      · split at hs
        · rcases List.mem_cons.1 hs with rfl | hs
          · exact ha
          · exact lt_of_mem_insertRange hlo hrest s hs
        · exact lt_of_mem_insertRange (by omega) hrest s hs

theorem ascending_insertRange :
    {lo hi : Nat} → {ranges : List (Nat × Nat)} → lo ≤ hi → Ascending ranges →
      Ascending (insertRange lo hi ranges)
  | lo, hi, [], hle, _ => by simp [insertRange, Ascending, hle]
  | lo, hi, (a, b) :: rest, hle, h => by
      obtain ⟨hab, hgap, hrest⟩ := h
      simp only at hab hgap
      unfold insertRange
      split
      · refine ⟨hle, fun s hs => ?_, hab, hgap, hrest⟩
        rcases List.mem_cons.1 hs with rfl | hs
        · assumption
        · have := hgap s hs
          simp only
          omega
      · split
        · exact ⟨hab, lt_of_mem_insertRange (by assumption) hgap,
            ascending_insertRange hle hrest⟩
        · exact ascending_insertRange (by omega) hrest

theorem covered_insertRange {n : Nat} :
    {lo hi : Nat} → {ranges : List (Nat × Nat)} → lo ≤ hi → Ascending ranges →
      (Covered (insertRange lo hi ranges) n ↔ (lo ≤ n ∧ n ≤ hi) ∨ Covered ranges n)
  | lo, hi, [], _, _ => by simp [insertRange]
  | lo, hi, (a, b) :: rest, hle, h => by
      obtain ⟨hab, _, hrest⟩ := h
      simp only at hab
      unfold insertRange
      split
      · simp
      · split
        · rw [covered_cons, covered_insertRange hle hrest, covered_cons]
          simp only
          exact or_left_comm
        · rw [covered_insertRange (by omega) hrest, covered_cons, ← or_assoc]
          simp only
          refine or_congr_left ⟨fun h => ?_, fun h => ?_⟩ <;> omega

/-! ### Gaps -/

/-- The greatest code point. -/
def lastCodePoint : Nat := 0x10ffff

/-- The ranges of code points from `n` on that are in none of the ranges. -/
def gapsFrom (n : Nat) : List (Nat × Nat) → List (Nat × Nat)
  | [] => if n ≤ lastCodePoint then [(n, lastCodePoint)] else []
  | (lo, hi) :: rest =>
    if n < lo then (n, lo - 1) :: gapsFrom (hi + 1) rest
    else gapsFrom (max n (hi + 1)) rest

theorem le_of_mem_gapsFrom :
    {n : Nat} → {ranges : List (Nat × Nat)} → Ascending ranges → ∀ s ∈ gapsFrom n ranges, n ≤ s.1
  | n, [], _, s, hs => by
      unfold gapsFrom at hs
      split at hs <;> simp_all
  | n, (lo, hi) :: rest, h, s, hs => by
      obtain ⟨hle, hgap, hrest⟩ := h
      simp only at hle
      unfold gapsFrom at hs
      split at hs
      · rcases List.mem_cons.1 hs with rfl | hs
        · exact Nat.le_refl _
        · have := le_of_mem_gapsFrom hrest s hs
          omega
      · have := le_of_mem_gapsFrom hrest s hs
        omega

theorem ascending_gapsFrom :
    {n : Nat} → {ranges : List (Nat × Nat)} → Ascending ranges → Ascending (gapsFrom n ranges)
  | n, [], _ => by
      unfold gapsFrom
      split
      · simp [Ascending]
        omega
      · exact trivial
  | n, (lo, hi) :: rest, h => by
      obtain ⟨hle, hgap, hrest⟩ := h
      simp only at hle
      unfold gapsFrom
      split
      · refine ⟨?_, fun s hs => ?_, ascending_gapsFrom hrest⟩
        · simp only
          omega
        · have := le_of_mem_gapsFrom hrest s hs
          simp only
          omega
      · exact ascending_gapsFrom hrest

theorem covered_gapsFrom {m : Nat} (hm : m ≤ lastCodePoint) :
    {n : Nat} → {ranges : List (Nat × Nat)} → Ascending ranges →
      (Covered (gapsFrom n ranges) m ↔ n ≤ m ∧ ¬Covered ranges m)
  | n, [], _ => by
      unfold gapsFrom
      split
      · simp [hm]
      · simp
        omega
  | n, (lo, hi) :: rest, h => by
      obtain ⟨hle, hgap, hrest⟩ := h
      simp only at hle hgap
      have hlow : m ≤ hi + 1 → ¬Covered rest m := by
        rintro hmh ⟨s, hs, h₁, _⟩
        have := hgap s hs
        omega
      unfold gapsFrom
      split
      · rw [covered_cons, covered_gapsFrom hm hrest, covered_cons]
        simp only
        by_cases hc : Covered rest m
        · have : ¬m ≤ hi + 1 := fun h => hlow h hc
          simp only [hc, not_true_eq_false, and_false, or_false, or_true, iff_false]
          omega
        · simp only [hc, not_false_eq_true, and_true, or_false]
          omega
      · rw [covered_gapsFrom hm hrest, covered_cons]
        simp only
        by_cases hc : Covered rest m
        · simp [hc]
        · simp only [hc, not_false_eq_true, and_true, or_false]
          omega

end Unicode

/-! ### Sets -/

/-- A set of characters. -/
structure CharSet where
  ranges : List (Nat × Nat)
  ascending : Unicode.Ascending ranges

namespace CharSet

open Unicode

/-- Whether a character is in a set. -/
def contains (s : CharSet) (c : Char) : Bool := inRanges s.ranges c.toNat

theorem contains_iff (s : CharSet) (c : Char) :
    s.contains c = true ↔ Covered s.ranges c.toNat := inRanges_iff s.ascending

/-- No character. -/
def empty : CharSet := ⟨[], trivial⟩

@[simp] theorem contains_empty (c : Char) : empty.contains c = false := rfl

/-- A set and the characters from one code point to another. -/
def insert (s : CharSet) (lo hi : Nat) : CharSet :=
  if h : lo ≤ hi then ⟨insertRange lo hi s.ranges, ascending_insertRange h s.ascending⟩ else s

theorem contains_insert (s : CharSet) (lo hi : Nat) (c : Char) :
    (s.insert lo hi).contains c = true ↔
      (lo ≤ c.toNat ∧ c.toNat ≤ hi) ∨ s.contains c = true := by
  rw [contains_iff, contains_iff]
  unfold insert
  split
  · exact covered_insertRange (by assumption) s.ascending
  · constructor
    · exact Or.inr
    · rintro (h | h)
      · omega
      · exact h

/-- The characters from one to another. -/
def range (a b : Char) : CharSet := empty.insert a.toNat b.toNat

/-- One character. -/
def single (c : Char) : CharSet := range c c

/-- The characters in the ranges of a table. -/
def ofRanges (table : List (Nat × Nat)) : CharSet :=
  table.foldr (fun r s => s.insert r.1 r.2) empty

/-- The characters of either set. -/
def union (s t : CharSet) : CharSet := s.ranges.foldr (fun r u => u.insert r.1 r.2) t

/-- All other characters. -/
def compl (s : CharSet) : CharSet := ⟨gapsFrom 0 s.ranges, ascending_gapsFrom s.ascending⟩

/-- The characters of both sets. -/
def inter (s t : CharSet) : CharSet := (s.compl.union t.compl).compl

/-- The characters of the first set that are not in the second one. -/
def diff (s t : CharSet) : CharSet := (s.compl.union t).compl

/-- The characters of exactly one of two sets. -/
def symmDiff (s t : CharSet) : CharSet := (s.diff t).union (t.diff s)

theorem contains_foldr_insert (t : CharSet) (c : Char) :
    (table : List (Nat × Nat)) →
      ((table.foldr (fun r u => u.insert r.1 r.2) t).contains c = true ↔
        Covered table c.toNat ∨ t.contains c = true)
  | [] => by simp
  | r :: rest => by
      rw [List.foldr_cons, contains_insert, contains_foldr_insert t c rest, covered_cons, or_assoc]

/-- A table of ranges in any order gives the characters that it covers. -/
theorem contains_ofRanges (table : List (Nat × Nat)) (c : Char) :
    (ofRanges table).contains c = true ↔ Covered table c.toNat := by
  rw [ofRanges, contains_foldr_insert]
  simp

theorem contains_range (a b c : Char) :
    (range a b).contains c = true ↔ a.toNat ≤ c.toNat ∧ c.toNat ≤ b.toNat := by
  rw [range, contains_insert]
  simp

theorem contains_union (s t : CharSet) (c : Char) :
    (s.union t).contains c = (s.contains c || t.contains c) := by
  rw [Bool.eq_iff_iff, Bool.or_eq_true, union, contains_foldr_insert, contains_iff s]

theorem toNat_le_lastCodePoint (c : Char) : c.toNat ≤ lastCodePoint := by
  have h := c.valid
  simp only [UInt32.isValidChar, Nat.isValidChar] at h
  simp only [Char.toNat, lastCodePoint]
  omega

theorem contains_compl (s : CharSet) (c : Char) : s.compl.contains c = !s.contains c := by
  rw [Bool.eq_iff_iff, contains_iff, compl,
    covered_gapsFrom (toNat_le_lastCodePoint c) s.ascending, ← contains_iff]
  simp

theorem contains_inter (s t : CharSet) (c : Char) :
    (s.inter t).contains c = (s.contains c && t.contains c) := by
  simp [inter, contains_compl, contains_union]

theorem contains_diff (s t : CharSet) (c : Char) :
    (s.diff t).contains c = (s.contains c && !t.contains c) := by
  simp [diff, contains_compl, contains_union]

theorem contains_symmDiff (s t : CharSet) (c : Char) :
    (s.symmDiff t).contains c = (s.contains c != t.contains c) := by
  rw [symmDiff, contains_union, contains_diff, contains_diff]
  cases s.contains c <;> cases t.contains c <;> rfl

/-- The characters that a set has, from the least one on, if they are one only. -/
def single? (s : CharSet) : Option Nat :=
  match s.ranges with
  | [(lo, hi)] => if lo = hi then some lo else none
  | _ => none

end CharSet

end TripletFacts
