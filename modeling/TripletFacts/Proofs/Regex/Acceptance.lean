import TripletFacts.Proofs.Regex.Ways
import TripletFacts.Regex.Accept

/-!
# What is accepted

Sets of positions that are computed from the right to the left are those from which an expression
leads into a given set. A loop is computed by adding positions until nothing new is found; as every
useful round moves on, no more rounds are needed than there are positions.

## Main definitions

* `Cursor.at`: the position in a text after a number of characters.
* `Regex.Has`: a position is in a set of positions.
* `Regex.Chain`: a number of steps of a relation.
* `Regex.Computes`: a function on sets of positions goes back over a relation.

## Main results

* `Regex.Computes.grow`, `Regex.Computes.repeatStep`: loops.
* `Regex.computes_pre`: an expression goes back over what it matches.
* `Regex.accepts_iff`: a text is accepted if the expression leads anywhere in it.
-/

namespace TripletFacts

/-- The position in a text after `i` characters. -/
def Cursor.at (text : List Char) (i : Nat) : Cursor :=
  Cursor.between (text.take i).reverse (text.drop i)

namespace Regex

open Cursor

/-! ### Sets of positions -/

/-- The position `i` is in a set of positions. -/
def Has (set : List Bool) (i : Nat) : Prop := set[i]? = some true

theorem Has.lt_length {set : List Bool} {i : Nat} (h : Has set i) : i < set.length := by
  obtain ⟨hlt, -⟩ := List.getElem?_eq_some_iff.1 h
  exact hlt

theorem has_zipWith_or {s t : List Bool} (hst : s.length = t.length) (i : Nat) :
    Has (List.zipWith (· || ·) s t) i ↔ Has s i ∨ Has t i := by
  unfold Has
  rw [List.getElem?_zipWith]
  by_cases hi : i < s.length
  · rw [List.getElem?_eq_getElem hi, List.getElem?_eq_getElem (hst ▸ hi)]
    simp
  · rw [List.getElem?_eq_none (by omega), List.getElem?_eq_none (by omega)]
    simp

/-! ### Loops -/

section

variable {R : Nat → Nat → Prop} {step : List Bool → List Bool} {size : Nat}

/-- A number of steps of a relation. -/
def Chain (R : Nat → Nat → Prop) : Nat → Nat → Nat → Prop
  | 0, i, j => i = j
  | m + 1, i, j => ∃ k, R i k ∧ Chain R m k j

/-- The last step of a chain. -/
theorem chain_succ_iff (m i j : Nat) : Chain R (m + 1) i j ↔ ∃ k, Chain R m i k ∧ R k j := by
  induction m generalizing i with
  | zero =>
    constructor
    · rintro ⟨k, hik, rfl⟩
      exact ⟨i, rfl, hik⟩
    · rintro ⟨k, rfl, hkj⟩
      exact ⟨j, hkj, rfl⟩
  | succ m ih =>
    constructor
    · rintro ⟨k, hik, hkj⟩
      obtain ⟨l, hkl, hlj⟩ := (ih k).1 hkj
      exact ⟨l, ⟨k, hik, hkl⟩, hlj⟩
    · rintro ⟨l, ⟨k, hik, hkl⟩, hlj⟩
      exact ⟨k, hik, (ih k).2 ⟨l, hkl, hlj⟩⟩

/-- Where no step moves back, the steps that stay can be left out of a chain. -/
theorem Chain.exists_le (hR : ∀ i k, R i k → i ≤ k) {m i j : Nat} (h : Chain R m i j) :
    i ≤ j ∧ ∃ m' ≤ j - i, Chain R m' i j := by
  induction m generalizing i with
  | zero => exact ⟨Nat.le_of_eq h, 0, Nat.zero_le _, h⟩
  | succ m ih =>
    obtain ⟨k, hik, hkj⟩ := h
    obtain ⟨hle, m', hm', hchain⟩ := ih hkj
    have hik' := hR i k hik
    refine ⟨Nat.le_trans hik' hle, ?_⟩
    by_cases heq : i = k
    · exact ⟨m', by omega, heq ▸ hchain⟩
    · exact ⟨m' + 1, by omega, k, hik, hchain⟩

theorem length_grow (hstep : ∀ set, set.length = size → (step set).length = size) (n : Nat)
    (set : List Bool) (h : set.length = size) : (grow step n set).length = size := by
  induction n generalizing set with
  | zero => exact h
  | succ n ih =>
    unfold grow
    dsimp only
    split
    · exact h
    · exact ih _ (by simp [h, hstep set h])

theorem length_repeatStep (hstep : ∀ set, set.length = size → (step set).length = size) (n : Nat)
    (set : List Bool) (h : set.length = size) : (repeatStep step n set).length = size := by
  induction n generalizing set with
  | zero => exact h
  | succ n ih =>
    unfold repeatStep
    dsimp only
    split
    · exact h
    · exact ih _ (hstep set h)

/-- A function on sets of positions goes back over a relation: it gives the positions that are
related to a position of the set. -/
structure Computes (size : Nat) (step : List Bool → List Bool) (R : Nat → Nat → Prop) : Prop where
  length : ∀ set, set.length = size → (step set).length = size
  has : ∀ set, set.length = size → ∀ i, Has (step set) i ↔ ∃ j, R i j ∧ Has set j

/-- Adding positions until nothing new is found goes back over short chains. -/
theorem Computes.grow (h : Computes size step R) (n : Nat) :
    Computes size (grow step n) fun i j => ∃ m ≤ n, Chain R m i j := by
  refine ⟨length_grow h.length n, ?_⟩
  induction n with
  | zero =>
    intro set hset i
    constructor
    · exact fun hi => ⟨i, ⟨0, Nat.le_refl 0, rfl⟩, hi⟩
    · rintro ⟨j, ⟨m, hm, hchain⟩, hj⟩
      obtain rfl := Nat.le_zero.1 hm
      obtain rfl : i = j := hchain
      exact hj
  | succ n ih =>
    intro set hset i
    have hstep := h.length set hset
    have hlarger : ∀ i, Has (List.zipWith (· || ·) set (step set)) i ↔
        Has set i ∨ ∃ j, R i j ∧ Has set j := fun i => by
      rw [has_zipWith_or (by omega), h.has set hset]
    unfold Regex.grow
    dsimp only
    split
    · -- nothing new is found, and so no chain leads into the set from outside
      rename_i heq
      have heq := eq_of_beq heq
      rw [heq] at hlarger
      constructor
      · exact fun hi => ⟨i, ⟨0, Nat.zero_le _, rfl⟩, hi⟩
      · rintro ⟨j, ⟨m, -, hchain⟩, hj⟩
        clear ih
        induction m generalizing i with
        | zero =>
          obtain rfl : i = j := hchain
          exact hj
        | succ m ihm =>
          obtain ⟨k, hik, hkj⟩ := hchain
          exact (hlarger i).2 (.inr ⟨k, hik, ihm k hkj⟩)
    · rw [ih _ (by simp [hset, hstep])]
      constructor
      · rintro ⟨j, ⟨m, hm, hchain⟩, hj⟩
        rcases (hlarger j).1 hj with hj | ⟨k, hjk, hk⟩
        · exact ⟨j, ⟨m, by omega, hchain⟩, hj⟩
        · exact ⟨k, ⟨m + 1, by omega, (chain_succ_iff m i k).2 ⟨j, hchain, hjk⟩⟩, hk⟩
      · rintro ⟨j, ⟨m, hm, hchain⟩, hj⟩
        cases m with
        | zero => exact ⟨j, ⟨0, Nat.zero_le _, hchain⟩, (hlarger j).2 (.inl hj)⟩
        | succ m =>
          obtain ⟨k, hik, hkj⟩ := (chain_succ_iff m i j).1 hchain
          exact ⟨k, ⟨m, by omega, hik⟩, (hlarger k).2 (.inr ⟨j, hkj, hj⟩)⟩

/-- Making a step a number of times goes back over chains of this length. -/
theorem Computes.repeatStep (h : Computes size step R) (n : Nat) :
    Computes size (repeatStep step n) (Chain R n) := by
  refine ⟨length_repeatStep h.length n, ?_⟩
  induction n with
  | zero =>
    intro set hset i
    constructor
    · exact fun hi => ⟨i, rfl, hi⟩
    · rintro ⟨j, hij, hj⟩
      obtain rfl : i = j := hij
      exact hj
  | succ n ih =>
    intro set hset i
    have hhas := h.has set hset
    have hnext : ∀ n i, (∃ j, Chain R (n + 1) i j ∧ Has set j) ↔
        ∃ j, Chain R n i j ∧ Has (step set) j := by
      intro n i
      constructor
      · rintro ⟨j, hchain, hj⟩
        obtain ⟨k, hik, hkj⟩ := (chain_succ_iff n i j).1 hchain
        exact ⟨k, hik, (hhas k).2 ⟨j, hkj, hj⟩⟩
      · rintro ⟨k, hik, hk⟩
        obtain ⟨j, hkj, hj⟩ := (hhas k).1 hk
        exact ⟨j, (chain_succ_iff n i j).2 ⟨k, hik, hkj⟩, hj⟩
    unfold Regex.repeatStep
    dsimp only
    split
    · -- a step that changes nothing can be made any number of times
      rename_i heq
      have heq := eq_of_beq heq
      rw [heq] at hnext
      clear ih
      induction n with
      | zero =>
        rw [hnext]
        constructor
        · exact fun hi => ⟨i, rfl, hi⟩
        · rintro ⟨j, hij, hj⟩
          obtain rfl : i = j := hij
          exact hj
      | succ n ihn => exact ihn.trans (hnext (n + 1) i).symm
    · rw [ih _ (h.length set hset), hnext]

end

/-! ### Positions in a text -/

theorem at_append (p q : List Char) :
    Cursor.at (p ++ q) p.length = between p.reverse q := by
  rw [Cursor.at, List.take_left, List.drop_left]

section

variable {text : List Char} {i j : Nat}

theorem upcoming_at (text : List Char) (i : Nat) : (Cursor.at text i).upcoming = text[i]? := by
  simp [Cursor.at, between, upcoming]

theorem next?_at (hi : i < text.length) :
    (Cursor.at text i).next? = some (Cursor.at text (i + 1)) := by
  unfold Cursor.at
  rw [List.drop_eq_getElem_cons hi, List.take_succ_eq_append_getElem hi, List.reverse_append]
  rfl

theorem at_injective (hi : i ≤ text.length) (hj : j ≤ text.length)
    (h : Cursor.at text i = Cursor.at text j) : i = j := by
  have hleft := congrArg Cursor.left h
  simp only [Cursor.at, between, List.length_drop] at hleft
  omega

/-- What is reached from a position in a text is a position in the text that is not before it. -/
theorem exists_at_of_matches {r : Regex} {c : Cursor} (hi : i ≤ text.length)
    (h : r.Matches (Cursor.at text i) c) : ∃ j, i ≤ j ∧ j ≤ text.length ∧ c = Cursor.at text j := by
  obtain ⟨u, hu⟩ := h.exists_steps
  obtain ⟨a, ha, rfl⟩ := steps_between_iff.1 hu
  have htext : text = (text.take i ++ u) ++ a := by
    rw [List.append_assoc, ← ha, List.take_append_drop]
  have hlength : (text.take i ++ u).length = i + u.length := by
    rw [List.length_append, List.length_take, Nat.min_eq_left hi]
  refine ⟨i + u.length, by omega, ?_, ?_⟩
  · have := congrArg List.length htext
    rw [List.length_append, hlength] at this
    omega
  · have hat := at_append (text.take i ++ u) a
    rw [hlength, ← htext, List.reverse_append] at hat
    exact hat.symm

/-- The characters around the positions after some text. -/
theorem getElem?_places_append (p q : List Char) {k : Nat} (hk : k ≤ q.length) :
    (places p.getLast? q)[k]? = some ((Cursor.at (p ++ q) (p.length + k)).previous,
      (Cursor.at (p ++ q) (p.length + k)).upcoming) := by
  induction q generalizing p k with
  | nil =>
    obtain rfl := Nat.le_zero.1 hk
    rw [Nat.add_zero, at_append]
    simp [places, between, previous, upcoming]
  | cons c q ih =>
    cases k with
    | zero =>
      rw [Nat.add_zero, at_append]
      simp [places, between, previous, upcoming]
    | succ k =>
      have hrest := ih (p ++ [c]) (Nat.le_of_succ_le_succ hk)
      rw [List.getLast?_concat] at hrest
      rw [places, List.getElem?_cons_succ, hrest]
      simp [Nat.add_comm, Nat.add_left_comm]

theorem getElem?_places (hi : i ≤ text.length) : (places none text)[i]? =
    some ((Cursor.at text i).previous, (Cursor.at text i).upcoming) := by
  simpa using getElem?_places_append [] text hi

theorem length_places (previous : Option Char) (text : List Char) :
    (places previous text).length = text.length + 1 := by
  induction text generalizing previous with
  | nil => rfl
  | cons c text ih => rw [places, List.length_cons, ih, List.length_cons]

end

/-! ### Expressions -/

/-- The expression leads from the position `i` of a text to the position `j`. -/
structure Reaches (r : Regex) (text : List Char) (i j : Nat) : Prop where
  left : i ≤ text.length
  right : j ≤ text.length
  way : r.Matches (Cursor.at text i) (Cursor.at text j)

section

variable {text : List Char} {i j : Nat} {r s : Regex}

theorem Reaches.le (h : r.Reaches text i j) : i ≤ j := by
  obtain ⟨k, hik, hk, heq⟩ := exists_at_of_matches h.left h.way
  rwa [at_injective h.right hk heq]

theorem reaches_unit_iff : Regex.unit.Reaches text i j ↔ i ≤ text.length ∧ i = j := by
  constructor
  · rintro ⟨hi, hj, h⟩
    generalize hc : Cursor.at text j = c at h
    cases h with
    | unit => exact ⟨hi, at_injective hi hj hc.symm⟩
  · rintro ⟨hi, rfl⟩
    exact ⟨hi, hi, .unit _⟩

theorem reaches_seq_iff : (Regex.seq r s).Reaches text i j ↔
    ∃ k, r.Reaches text i k ∧ s.Reaches text k j := by
  constructor
  · rintro ⟨hi, hj, h⟩
    cases h with
    | seq hr hs =>
      obtain ⟨k, -, hk, rfl⟩ := exists_at_of_matches hi hr
      exact ⟨k, ⟨hi, hk, hr⟩, ⟨hk, hj, hs⟩⟩
  · rintro ⟨k, hr, hs⟩
    exact ⟨hr.left, hs.right, .seq hr.way hs.way⟩

theorem reaches_alt_iff : (Regex.alt r s).Reaches text i j ↔
    r.Reaches text i j ∨ s.Reaches text i j := by
  constructor
  · rintro ⟨hi, hj, h⟩
    cases h with
    | altLeft hr => exact .inl ⟨hi, hj, hr⟩
    | altRight hs => exact .inr ⟨hi, hj, hs⟩
  · rintro (h | h)
    · exact ⟨h.left, h.right, .altLeft h.way⟩
    · exact ⟨h.left, h.right, .altRight h.way⟩

theorem reaches_group_iff {index : Nat} : (Regex.group index r).Reaches text i j ↔
    r.Reaches text i j := by
  constructor
  · rintro ⟨hi, hj, h⟩
    cases h with
    | group h => exact ⟨hi, hj, h⟩
  · rintro ⟨hi, hj, h⟩
    exact ⟨hi, hj, .group h⟩

theorem reaches_char_iff {test : Char → Bool} : (Regex.char test).Reaches text i j ↔
    text[i]?.any test = true ∧ j = i + 1 := by
  constructor
  · rintro ⟨hi, hj, h⟩
    generalize hc : Cursor.at text j = c at h
    cases h with
    | char hn hx ht =>
      rw [upcoming_at] at hx
      obtain ⟨hlt, -⟩ := List.getElem?_eq_some_iff.1 hx
      rw [next?_at hlt, Option.some.injEq, ← hc] at hn
      exact ⟨by rw [hx]; exact ht, (at_injective hlt hj hn).symm⟩
  · rintro ⟨ht, rfl⟩
    obtain ⟨x, hx, ht⟩ := (Option.any_eq_true _ _).1 ht
    obtain ⟨hlt, -⟩ := List.getElem?_eq_some_iff.1 hx
    exact ⟨Nat.le_of_lt hlt, hlt, .char (next?_at hlt) ((upcoming_at text i).trans hx) ht⟩

theorem reaches_look_iff {test : Option Char → Option Char → Bool} :
    (Regex.look test).Reaches text i j ↔ i ≤ text.length ∧ i = j ∧
      test (Cursor.at text i).previous (Cursor.at text i).upcoming = true := by
  constructor
  · rintro ⟨hi, hj, h⟩
    generalize hc : Cursor.at text j = c at h
    cases h with
    | look ht => exact ⟨hi, at_injective hi hj hc.symm, ht⟩
  · rintro ⟨hi, rfl, ht⟩
    exact ⟨hi, hi, .look ht⟩

theorem reaches_star_iff {greedy : Bool} : (Regex.star greedy r).Reaches text i j ↔
    i ≤ text.length ∧ ∃ m, Chain (r.Reaches text) m i j := by
  constructor
  · rintro ⟨hi, hj, h⟩
    refine ⟨hi, ?_⟩
    generalize hc : Cursor.at text i = c at h
    generalize hd : Cursor.at text j = d at h
    generalize hloop : Regex.star greedy r = loop at h
    induction h generalizing i with
    | stop =>
      cases hloop
      exact ⟨0, at_injective hi hj (hc.trans hd.symm)⟩
    | again hr hs _ ih =>
      cases hloop
      subst hc
      obtain ⟨k, -, hk, rfl⟩ := exists_at_of_matches hi hr
      obtain ⟨m, hm⟩ := ih hk rfl hd rfl
      exact ⟨m + 1, k, ⟨hi, hk, hr⟩, hm⟩
    | unit | char | look | seq | altLeft | altRight | group | timesZero | timesSucc | upToStop |
      upToAgain => cases hloop
  · rintro ⟨hi, m, hm⟩
    induction m generalizing i with
    | zero =>
      obtain rfl : i = j := hm
      exact ⟨hi, hi, .stop _⟩
    | succ m ih =>
      obtain ⟨k, hik, hkj⟩ := hm
      have hrest := ih hik.right hkj
      exact ⟨hi, hrest.right, .again hik.way hrest.way⟩

theorem reaches_times_iff {n : Nat} : (Regex.times n r).Reaches text i j ↔
    i ≤ text.length ∧ Chain (r.Reaches text) n i j := by
  induction n generalizing i with
  | zero =>
    constructor
    · rintro ⟨hi, hj, h⟩
      generalize hc : Cursor.at text j = c at h
      cases h with
      | timesZero => exact ⟨hi, at_injective hi hj hc.symm⟩
    · rintro ⟨hi, hij⟩
      obtain rfl : i = j := hij
      exact ⟨hi, hi, .timesZero _⟩
  | succ n ih =>
    constructor
    · rintro ⟨hi, hj, h⟩
      cases h with
      | timesSucc hr hs =>
        obtain ⟨k, -, hk, rfl⟩ := exists_at_of_matches hi hr
        exact ⟨hi, k, ⟨hi, hk, hr⟩, (ih.1 ⟨hk, hj, hs⟩).2⟩
    · rintro ⟨hi, k, hik, hkj⟩
      have hrest := ih.2 ⟨hik.right, hkj⟩
      exact ⟨hi, hrest.right, .timesSucc hik.way hrest.way⟩

theorem reaches_upTo_iff {greedy : Bool} {n : Nat} : (Regex.upTo greedy n r).Reaches text i j ↔
    i ≤ text.length ∧ ∃ m ≤ n, Chain (r.Reaches text) m i j := by
  constructor
  · rintro ⟨hi, hj, h⟩
    refine ⟨hi, ?_⟩
    generalize hc : Cursor.at text i = c at h
    generalize hd : Cursor.at text j = d at h
    generalize hloop : Regex.upTo greedy n r = loop at h
    induction h generalizing i n with
    | upToStop =>
      cases hloop
      exact ⟨0, Nat.zero_le _, at_injective hi hj (hc.trans hd.symm)⟩
    | upToAgain hr hs _ ih =>
      cases hloop
      subst hc
      obtain ⟨k, -, hk, rfl⟩ := exists_at_of_matches hi hr
      obtain ⟨m, hm, hchain⟩ := ih hk rfl hd rfl
      exact ⟨m + 1, by omega, k, ⟨hi, hk, hr⟩, hchain⟩
    | unit | char | look | seq | altLeft | altRight | group | timesZero | timesSucc | stop |
      again => cases hloop
  · rintro ⟨hi, m, hm, hchain⟩
    induction m generalizing i n with
    | zero =>
      obtain rfl : i = j := hchain
      exact ⟨hi, hi, .upToStop _⟩
    | succ m ih =>
      obtain ⟨k, hik, hkj⟩ := hchain
      obtain ⟨n, rfl⟩ := Nat.exists_eq_add_of_lt (Nat.lt_of_lt_of_le (Nat.succ_pos m) hm)
      rw [Nat.zero_add] at hm ⊢
      have hrest := ih (n := n) hik.right (by omega) hkj
      exact ⟨hi, hrest.right, .upToAgain hik.way hrest.way⟩

end

/-! ### Acceptance -/

theorem Computes.congr {size : Nat} {step : List Bool → List Bool} {R R' : Nat → Nat → Prop}
    (h : Computes size step R) (hR : ∀ i j, j < size → (R i j ↔ R' i j)) :
    Computes size step R' := by
  refine ⟨h.length, fun set hset i => ?_⟩
  rw [h.has set hset]
  constructor
  · rintro ⟨j, hij, hj⟩
    exact ⟨j, (hR i j (hset ▸ hj.lt_length)).1 hij, hj⟩
  · rintro ⟨j, hij, hj⟩
    exact ⟨j, (hR i j (hset ▸ hj.lt_length)).2 hij, hj⟩

theorem Computes.comp {size : Nat} {step step' : List Bool → List Bool} {R R' : Nat → Nat → Prop}
    (h : Computes size step R) (h' : Computes size step' R') :
    Computes size (fun set => step (step' set)) fun i j => ∃ k, R i k ∧ R' k j := by
  refine ⟨fun set hset => h.length _ (h'.length set hset), fun set hset i => ?_⟩
  rw [h.has _ (h'.length set hset)]
  constructor
  · rintro ⟨k, hik, hk⟩
    obtain ⟨j, hkj, hj⟩ := (h'.has set hset k).1 hk
    exact ⟨j, ⟨k, hik, hkj⟩, hj⟩
  · rintro ⟨j, ⟨k, hik, hkj⟩, hj⟩
    exact ⟨k, hik, (h'.has set hset k).2 ⟨j, hkj, hj⟩⟩

section

variable (text : List Char)

theorem computes_unit :
    Computes (text.length + 1) (unit.pre (places none text)) (unit.Reaches text) := by
  refine ⟨fun set hset => hset, fun set hset i => ?_⟩
  constructor
  · intro hi
    have hlt : i < set.length := hi.lt_length
    exact ⟨i, reaches_unit_iff.2 ⟨by omega, rfl⟩, hi⟩
  · rintro ⟨j, hij, hj⟩
    obtain ⟨-, rfl⟩ := reaches_unit_iff.1 hij
    exact hj

theorem computes_look (test : Option Char → Option Char → Bool) :
    Computes (text.length + 1) ((look test).pre (places none text))
      ((look test).Reaches text) := by
  refine ⟨fun set hset => by simp [pre, length_places, hset], fun set hset i => ?_⟩
  have hset' : ∀ i, Has ((look test).pre (places none text) set) i ↔ i ≤ text.length ∧
      test (Cursor.at text i).previous (Cursor.at text i).upcoming = true ∧ Has set i := by
    intro i
    unfold Has
    rw [pre, List.getElem?_zipWith]
    by_cases hi : i ≤ text.length
    · rw [getElem?_places hi, List.getElem?_eq_getElem (by omega)]
      simp [hi]
    · rw [List.getElem?_eq_none (by rw [length_places]; omega)]
      simp [hi]
  rw [hset']
  constructor
  · rintro ⟨hi, ht, h⟩
    exact ⟨i, reaches_look_iff.2 ⟨hi, rfl, ht⟩, h⟩
  · rintro ⟨j, hij, hj⟩
    obtain ⟨hi, rfl, ht⟩ := reaches_look_iff.1 hij
    exact ⟨hi, ht, hj⟩

theorem computes_char (test : Char → Bool) :
    Computes (text.length + 1) ((char test).pre (places none text))
      ((char test).Reaches text) := by
  refine ⟨fun set hset => by simp [pre, length_places, hset], fun set hset i => ?_⟩
  have hset' : Has ((char test).pre (places none text) set) i ↔
      text[i]?.any test = true ∧ Has set (i + 1) := by
    unfold Has
    rw [pre, List.getElem?_zipWith]
    by_cases hi : i < text.length
    · rw [getElem?_places (Nat.le_of_lt hi), upcoming_at,
        List.getElem?_append_left (by rw [List.length_drop]; omega), List.getElem?_drop,
        Nat.add_comm 1 i, List.getElem?_eq_getElem (show i + 1 < set.length by omega)]
      simp
    · have hnone : text[i]? = none := List.getElem?_eq_none (by omega)
      by_cases heq : i = text.length
      · rw [getElem?_places (Nat.le_of_eq heq), upcoming_at, hnone]
        cases (set.drop 1 ++ [false])[i]? <;> simp
      · rw [List.getElem?_eq_none (by rw [length_places]; omega), hnone]
        simp
  rw [hset']
  constructor
  · rintro ⟨ht, h⟩
    exact ⟨i + 1, reaches_char_iff.2 ⟨ht, rfl⟩, h⟩
  · rintro ⟨j, hij, hj⟩
    obtain ⟨ht, rfl⟩ := reaches_char_iff.1 hij
    exact ⟨ht, hj⟩

theorem computes_alt {left right : Regex}
    (hleft : Computes (text.length + 1) (left.pre (places none text)) (left.Reaches text))
    (hright : Computes (text.length + 1) (right.pre (places none text)) (right.Reaches text)) :
    Computes (text.length + 1) ((alt left right).pre (places none text))
      ((alt left right).Reaches text) := by
  refine ⟨fun set hset => ?_, fun set hset i => ?_⟩
  · simp [pre, hleft.length set hset, hright.length set hset]
  · rw [pre, has_zipWith_or (by rw [hleft.length set hset, hright.length set hset]),
      hleft.has set hset, hright.has set hset]
    simp only [reaches_alt_iff, or_and_right, exists_or]

end

/-- An expression goes back over what it matches. -/
theorem computes_pre (text : List Char) : (r : Regex) →
    Computes (text.length + 1) (r.pre (places none text)) (r.Reaches text)
  | unit => computes_unit text
  | char test => computes_char text test
  | look test => computes_look text test
  | seq first second =>
    ((computes_pre text first).comp (computes_pre text second)).congr fun _ _ _ =>
      reaches_seq_iff.symm
  | alt left right => computes_alt text (computes_pre text left) (computes_pre text right)
  | group _ body => (computes_pre text body).congr fun _ _ _ => reaches_group_iff.symm
  | star _ body => by
    refine Computes.congr (R := fun i j => ∃ m ≤ (places none text).length,
      Chain (body.Reaches text) m i j) ((computes_pre text body).grow _) fun i j hj => ?_
    rw [reaches_star_iff]
    constructor
    · rintro ⟨m, -, hm⟩
      have hle := (hm.exists_le fun _ _ h => h.le).1
      exact ⟨by omega, m, hm⟩
    · rintro ⟨hi, m, hm⟩
      obtain ⟨-, m', hm', hchain⟩ := hm.exists_le fun _ _ h => h.le
      exact ⟨m', by rw [length_places]; omega, hchain⟩
  | times count body => by
    refine Computes.congr ((computes_pre text body).repeatStep count) fun i j hj => ?_
    rw [reaches_times_iff]
    constructor
    · intro hm
      have hle := (hm.exists_le fun _ _ h => h.le).1
      exact ⟨by omega, hm⟩
    · exact And.right
  | upTo _ count body => by
    refine Computes.congr ((computes_pre text body).grow count) fun i j hj => ?_
    rw [reaches_upTo_iff]
    constructor
    · rintro ⟨m, hm, hchain⟩
      have hle := (hchain.exists_le fun _ _ h => h.le).1
      exact ⟨by omega, m, hm, hchain⟩
    · exact And.right

/-- A text is accepted if the expression leads from somewhere in it to anywhere. -/
theorem accepts_iff {r : Regex} {text : List Char} : r.accepts text = true ↔
    ∃ p q c, text = p ++ q ∧ r.Matches (between p.reverse q) c := by
  have hfull : (List.replicate (text.length + 1) true).length = text.length + 1 :=
    List.length_replicate
  have hhas := (computes_pre text r).has _ hfull
  have hany : ∀ set : List Bool, set.any id = true ↔ ∃ i, Has set i := by
    intro set
    rw [List.any_eq_true]
    constructor
    · rintro ⟨b, hb, rfl⟩
      exact List.mem_iff_getElem?.1 hb
    · rintro ⟨i, hi⟩
      exact ⟨true, List.mem_of_getElem? hi, rfl⟩
  rw [accepts, length_places, hany]
  constructor
  · rintro ⟨i, hi⟩
    obtain ⟨j, hij, -⟩ := (hhas i).1 hi
    exact ⟨text.take i, text.drop i, _, (List.take_append_drop i text).symm, hij.way⟩
  · rintro ⟨p, q, c, rfl, hc⟩
    have hp : p.length ≤ (p ++ q).length := by simp
    rw [← at_append] at hc
    obtain ⟨j, hpj, hj, rfl⟩ := exists_at_of_matches hp hc
    refine ⟨p.length, (hhas p.length).2 ⟨j, ⟨hp, hj, hc⟩, ?_⟩⟩
    exact List.getElem?_replicate_of_lt (by omega)

end Regex

end TripletFacts
