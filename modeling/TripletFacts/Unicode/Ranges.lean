/-!
# Sets of characters given by ranges

The properties of characters that the notation depends on are given by tables of code point ranges
in ascending order. This file holds the look-up in such a table.

## Main definitions

* `Unicode.inRanges`: whether a code point lies in one of the ranges of an ascending table.
* `Unicode.shiftOf`: the code point that a table of shifted ranges assigns to a code point.

## Main results

* `Unicode.exists_of_inRanges`: a look-up succeeds only inside a range of the table.
-/

namespace TripletFacts.Unicode

/-- Whether `n` lies in one of the ranges of an ascending table; the search ends at the first
range above `n`. -/
def inRanges : List (Nat × Nat) → Nat → Bool
  | [], _ => false
  | (lo, hi) :: rest, n => if n < lo then false else if n ≤ hi then true else inRanges rest n

/-- A look-up succeeds only inside a range of the table. -/
theorem exists_of_inRanges {n : Nat} :
    (table : List (Nat × Nat)) → inRanges table n = true → ∃ r ∈ table, r.1 ≤ n ∧ n ≤ r.2
  | [], h => by simp [inRanges] at h
  | (lo, hi) :: rest, h => by
      unfold inRanges at h
      split at h
      · simp at h
      · rename_i hlo
        split at h
        · rename_i hhi
          exact ⟨(lo, hi), by simp, Nat.le_of_not_lt hlo, hhi⟩
        · obtain ⟨r, hr, hn⟩ := exists_of_inRanges rest h
          exact ⟨r, List.mem_cons_of_mem _ hr, hn⟩

/-- A row `(lo, hi, step, image)` shifts the code points `lo, lo + step, …, hi`: it assigns `image`
to `lo`. The rows ascend, but the code points of neighbouring rows may interleave. -/
abbrev ShiftRow := Nat × Nat × Nat × Nat

/-- The code point that a table of shifted ranges assigns to `n`, if it has a row for `n`. -/
def shiftOf : List ShiftRow → Nat → Option Nat
  | [], _ => none
  | (lo, hi, step, image) :: rest, n =>
    if n < lo then none
    else if n ≤ hi ∧ (n - lo) % step = 0 then some (image + (n - lo))
    else shiftOf rest n

end TripletFacts.Unicode
