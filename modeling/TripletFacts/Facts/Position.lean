import TripletFacts.Error
import TripletFacts.Facts.Basic

/-!
# Facts by position

Positions are counted from zero; a negative position counts from the end. A range of positions has
bounds of 64 bits, each included, excluded or absent; the number after the greatest one is that
number itself, so that nothing wraps around.

## Main definitions

* `Facts.nth`, `Facts.removeNth`: the triplet at a position, and the collection without it.
* `Range`: ranges of positions.
* `Facts.slice`, `Facts.removeSlice`: the triplets in a range, and the others.
-/

namespace TripletFacts

/-! ### Single positions -/

namespace Facts

/-- The position from the beginning that an index stands for, if there is a triplet. -/
def position? (f : Facts) (index : Int) : Option Nat :=
  let pos := if index < 0 then f.size + index else index
  if 0 ≤ pos ∧ pos < f.size then some pos.toNat else none

/-- The triplet at an index, and its position. -/
def locate (f : Facts) (index : Int) : Except FactError (Nat × Triplet) :=
  match (f.position? index).bind fun pos => f.entries[pos]?.map fun t => (pos, t) with
  | some found => .ok found
  | none => .error (.badIndex index f.size)

/-- The triplet at an index. -/
def nth (f : Facts) (index : Int) : Except FactError Triplet := (f.locate index).map (·.2)

/-- The triplet at an index, and the collection without it. -/
def removeNth (f : Facts) (index : Int) : Except FactError (Triplet × Facts) :=
  (f.locate index).map fun (pos, t) =>
    (t, f.restrict (f.entries.eraseIdx pos) (List.eraseIdx_sublist _ _))

end Facts

/-! ### Ranges -/

/-- A bound of a range. -/
inductive Bound where
  | unbounded
  | included (n : UInt64)
  | excluded (n : UInt64)

/-- A range of positions. -/
structure Range where
  start : Bound
  stop : Bound

/-- The number after a given one, at most the greatest number of 64 bits. -/
def saturatingSucc (n : UInt64) : Nat := min (n.toNat + 1) (UInt64.size - 1)

/-- The first position of a range. -/
def Range.first (r : Range) : Nat :=
  match r.start with
  | .unbounded => 0
  | .included n => n.toNat
  | .excluded n => saturatingSucc n

/-- The position after the last one of a range in a collection of some size. -/
def Range.last (r : Range) (size : Nat) : Nat :=
  match r.stop with
  | .unbounded => size
  | .included n => saturatingSucc n
  | .excluded n => n.toNat

/-- A list without the elements between two positions. -/
def dropBetween {α : Type} (first last : Nat) (l : List α) : List α := l.take first ++ l.drop last

theorem dropBetween_sublist {α : Type} {first last : Nat} (h : first ≤ last) (l : List α) :
    (dropBetween first last l).Sublist l := by
  have hd : l.drop last = (l.drop first).drop (last - first) := by
    rw [List.drop_drop, Nat.add_sub_cancel' h]
  have hs := (List.Sublist.refl (l.take first)).append
    (List.drop_sublist (last - first) (l.drop first))
  rw [← hd, List.take_append_drop] at hs
  exact hs

namespace Facts

/-- The positions of a range, which have to lie in the collection. -/
def resolve (f : Facts) (r : Range) :
    Except FactError { p : Nat × Nat // p.1 ≤ p.2 ∧ p.2 ≤ f.size } :=
  if h : r.first ≤ r.last f.size ∧ r.last f.size ≤ f.size then .ok ⟨(r.first, r.last f.size), h⟩
  else .error (.badRange r.first (r.last f.size) f.size)

/-- The triplets in a range. -/
def slice (f : Facts) (r : Range) : Except FactError Facts :=
  (f.resolve r).map fun p =>
    f.restrict ((f.entries.take p.1.2).drop p.1.1)
      ((List.drop_sublist _ _).trans (List.take_sublist _ _))

/-- The triplets outside of a range. -/
def removeSlice (f : Facts) (r : Range) : Except FactError Facts :=
  (f.resolve r).map fun p =>
    f.restrict (dropBetween p.1.1 p.1.2 f.entries) (dropBetween_sublist p.2.1 _)

end Facts

end TripletFacts
