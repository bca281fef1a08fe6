import TripletFacts.Error
import TripletFacts.Facts.Basic

/-!
# Order and equality of facts

Keys are ordered by their prefixes and then by their names, character by character; a key without
name comes before those with one. Two collections are equal if they state the same, whatever the
order of their triplets.

## Main definitions

* `Key.le`, `Facts.sort`: the order of keys, and a collection in this order.
* `Facts.index`: the position of a triplet.
* `Facts.equal`, `Facts.equalInOrder`: equality, and equality that depends on the order.
-/

namespace TripletFacts

/-- The order of names: an absent one comes first. -/
def nameLe : Option String → Option String → Bool
  | none, _ => true
  | some _, none => false
  | some a, some b => decide (a ≤ b)

/-- The order of keys. -/
def Key.le (a b : Key) : Bool :=
  decide (a.pfx < b.pfx) || (a.pfx == b.pfx && nameLe a.name b.name)

namespace Facts

/-- The collection in the order of its keys. -/
def sort (f : Facts) : Facts :=
  ⟨f.entries.mergeSort fun t u => t.key.le u.key, f.settings,
    (((List.mergeSort_perm _ _).map _).nodup_iff).2 f.nodup⟩

/-- The position of the first triplet that is equal to a given one. -/
def index (f : Facts) (t : Triplet) : Except FactError Nat :=
  match f.entries.findIdx? (·.equal t) with
  | some i => .ok i
  | none => .error (.notStored (String.ofList t.text))

/-- Whether two collections state the same. -/
def equal (f g : Facts) : Bool :=
  f.size == g.size && f.entries.all fun t => (g.find? t.key).any fun u => u.equal t

/-- Whether lists of triplets are equal one by one. -/
def allEqual : List Triplet → List Triplet → Bool
  | [], [] => true
  | t :: ts, u :: us => t.equal u && allEqual ts us
  | _, _ => false

/-- Whether two collections state the same in the same order. -/
def equalInOrder (f g : Facts) : Bool := allEqual f.entries g.entries

end Facts

end TripletFacts
