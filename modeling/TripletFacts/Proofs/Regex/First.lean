import TripletFacts.Proofs.Regex.Ways

/-!
# The preferred way of an expression

Which of the ways of an expression is taken depends on the rest of the work. A greedy loop over a
stretch of characters takes all of it if the rest of the work succeeds behind the stretch; a lazy
loop takes all of it if the rest of the work fails everywhere before that.

## Main definitions

* `Regex.Prefers`: the way that is taken if the rest of the work succeeds behind it.
* `Regex.Fails`: an expression leads nowhere from a position.

## Main results

* `Regex.run_literal`, `Regex.run_plus_greedy`, `Regex.run_star_lazy`: what is taken.
* `Regex.run_literal_eq_none`, `Regex.run_alt_of_none`: what is left aside.
* `Regex.findFrom_of_matchAt_eq_none`: a search goes over characters at which nothing begins.
-/

namespace TripletFacts.Regex

open Cursor

section Run

variable {α : Type} {k : Cursor → Captures → Option α} {x : α} {b a u : List Char} {g : Captures}
  {test : Char → Bool} {left right : Regex} {c : Cursor}

/-! ### Characters -/

theorem run_char_cons (d : Char) : (Regex.char test).run (between b (d :: a)) g k =
    if test d then k (between (d :: b) a) g else none :=
  rfl

theorem run_char_nil : (Regex.char test).run (between b []) g k = none := rfl

theorem run_seq (c : Cursor) : (Regex.seq left right).run c g k =
    left.run c g fun c' g' => right.run c' g' k :=
  rfl

/-- A literal takes its text. -/
theorem run_literal (text : List Char) : (literal text).run (between b (text ++ a)) g k =
    k (between (text.reverse ++ b) a) g := by
  fun_induction literal text generalizing b with
  | case1 => rfl
  | case2 d => rw [List.singleton_append, run_char_cons, if_pos (beq_self_eq_true d)]; rfl
  | case3 d text hne ih =>
    rw [run_seq, List.cons_append, run_char_cons, if_pos (beq_self_eq_true d), ih]
    simp

/-- A literal takes nothing where another character stands. -/
theorem run_literal_eq_none {d : Char} (text : List Char) (h : a.head? ≠ some d) :
    (literal (d :: text)).run (between b a) g k = none := by
  have hchar : ∀ k : Cursor → Captures → Option α,
      (Regex.char (· == d)).run (between b a) g k = none := by
    intro k
    cases a with
    | nil => exact run_char_nil
    | cons e a =>
      rw [run_char_cons, if_neg]
      simpa using h
  cases text with
  | nil => exact hchar k
  | cons e text =>
    rw [literal, run_seq]
    · exact hchar _
    · exact List.cons_ne_nil e text

/-! ### Choices -/

theorem run_alt_of_some (h : left.run c g k = some x) :
    (Regex.alt left right).run c g k = some x := by
  rw [run, h]
  rfl

theorem run_alt_of_none (h : left.run c g k = none) :
    (Regex.alt left right).run c g k = right.run c g k := by
  rw [run, h]
  rfl

/-- What may be left aside is tried if the rest of the work fails without it. -/
theorem run_skip_of_none {s : Regex} (h : s.run c g k = none) :
    (Regex.seq (.alt .unit right) s).run c g k = right.run c g fun c' g' => s.run c' g' k := by
  have hunit : Regex.unit.run c g (fun c' g' => s.run c' g' k) = none := h
  exact run_alt_of_none hunit

/-! ### Loops -/

theorem rounds_stop {greedy : Bool} (h : ∀ k : Cursor → Captures → Option α,
    (Regex.char test).run c g k = none) : rounds greedy (Regex.char test).run c g k = k c g := by
  rw [rounds]
  cases greedy with
  | true => simp [h]
  | false => cases k c g <;> simp [h]

/-- A round over a character that passes the test. -/
theorem run_round {greedy : Bool} {d : Char} (hd : test d = true) :
    ((Regex.char test).run (between b (d :: a)) g fun c' g' =>
      if _h : c'.left < (between b (d :: a)).left then
        rounds greedy (Regex.char test).run c' g' k
      else none) = rounds greedy (Regex.char test).run (between (d :: b) a) g k := by
  have hlt : (between (d :: b) a).left < (between b (d :: a)).left := Nat.lt_succ_self a.length
  rw [run_char_cons, if_pos hd, dif_pos hlt]

theorem rounds_cons_greedy {d : Char} (hd : test d = true) :
    rounds true (Regex.char test).run (between b (d :: a)) g k =
      (rounds true (Regex.char test).run (between (d :: b) a) g k).orElse
        fun _ => k (between b (d :: a)) g := by
  rw [rounds]
  simp only [run_round hd, if_true]

theorem rounds_cons_lazy {d : Char} (hd : test d = true) :
    rounds false (Regex.char test).run (between b (d :: a)) g k =
      (k (between b (d :: a)) g).orElse
        fun _ => rounds false (Regex.char test).run (between (d :: b) a) g k := by
  rw [rounds]
  simp only [run_round hd, Bool.false_eq_true, if_false]

/-- A greedy loop takes all characters that pass its test. -/
theorem run_star_greedy (hu : ∀ y ∈ u, test y = true) (ha : a.head?.any test = false)
    (hk : k (between (u.reverse ++ b) a) g = some x) :
    (Regex.star true (.char test)).run (between b (u ++ a)) g k = some x := by
  change rounds true (Regex.char test).run _ _ _ = _
  induction u generalizing b with
  | nil =>
    rw [List.nil_append, rounds_stop]
    · exact hk
    · intro k
      cases a with
      | nil => exact run_char_nil
      | cons d a =>
        rw [run_char_cons, if_neg]
        simpa using ha
  | cons d u ih =>
    simp only [List.mem_cons, forall_eq_or_imp] at hu
    rw [List.cons_append, rounds_cons_greedy hu.1, ih hu.2 (by simpa using hk)]
    rfl

theorem run_plus_greedy (hne : u ≠ []) (hu : ∀ y ∈ u, test y = true)
    (ha : a.head?.any test = false) (hk : k (between (u.reverse ++ b) a) g = some x) :
    (plus true (.char test)).run (between b (u ++ a)) g k = some x := by
  obtain ⟨d, u, rfl⟩ := List.exists_cons_of_ne_nil hne
  simp only [List.mem_cons, forall_eq_or_imp] at hu
  rw [plus, run_seq, List.cons_append, run_char_cons, if_pos hu.1]
  exact run_star_greedy hu.2 ha (by simpa using hk)

/-- A lazy loop takes characters as long as the rest of the work fails. -/
theorem run_star_lazy (hu : ∀ y ∈ u, test y = true)
    (hfail : ∀ p d q, u = p ++ d :: q → k (between (p.reverse ++ b) (d :: (q ++ a))) g = none)
    (hk : k (between (u.reverse ++ b) a) g = some x) :
    (Regex.star false (.char test)).run (between b (u ++ a)) g k = some x := by
  change rounds false (Regex.char test).run _ _ _ = _
  induction u generalizing b with
  | nil =>
    have hk : k (between b a) g = some x := hk
    rw [List.nil_append, rounds]
    simp [hk]
  | cons d u ih =>
    simp only [List.mem_cons, forall_eq_or_imp] at hu
    have hfirst : k (between b (d :: (u ++ a))) g = none := hfail [] d u rfl
    rw [List.cons_append, rounds_cons_lazy hu.1, hfirst]
    exact ih hu.2 (fun p e q hq => by simpa using hfail (d :: p) e q (by rw [hq]; rfl))
      (by simpa using hk)

end Run

/-! ### Preferred ways -/

/-- The way that is taken from `c` to `c'` if the rest of the work succeeds behind it. -/
structure Prefers (r : Regex) (c : Cursor) (g : Captures) (c' : Cursor) (g' : Captures) : Prop where
  run : ∀ {α : Type} (k : Cursor → Captures → Option α) (x : α), k c' g' = some x →
    r.run c g k = some x

/-- An expression leads nowhere from a position. -/
structure Fails (r : Regex) (c : Cursor) : Prop where
  run : ∀ {α : Type} (g : Captures) (k : Cursor → Captures → Option α), r.run c g k = none

section

variable {r s : Regex} {c c₁ c' : Cursor} {g g₁ g' : Captures}

theorem Prefers.matchAt (h : r.Prefers c [] c' g') : r.matchAt c = some ⟨⟨c, c'⟩, g'⟩ :=
  h.run _ _ rfl

theorem Fails.matchAt (h : r.Fails c) : r.matchAt c = none := h.run _ _

theorem prefers_literal (text b a : List Char) (g : Captures) :
    (literal text).Prefers (between b (text ++ a)) g (between (text.reverse ++ b) a) g :=
  ⟨fun _ _ hk => (run_literal text).trans hk⟩

theorem prefers_look {test : Option Char → Option Char → Bool} {c : Cursor}
    (h : test c.previous c.upcoming = true) (g : Captures) : (Regex.look test).Prefers c g c g :=
  ⟨fun _ _ hk => (if_pos h).trans hk⟩

theorem prefers_char {test : Char → Bool} {x : Char} (hx : test x = true) (b a : List Char)
    (g : Captures) : (Regex.char test).Prefers (between b (x :: a)) g (between (x :: b) a) g :=
  ⟨fun _ _ hk => (run_char_cons x).trans ((if_pos hx).trans hk)⟩

theorem prefers_star {test : Char → Bool} {b a u : List Char} (hu : ∀ y ∈ u, test y = true)
    (ha : a.head?.any test = false) (g : Captures) :
    (Regex.star true (.char test)).Prefers (between b (u ++ a)) g (between (u.reverse ++ b) a) g :=
  ⟨fun _ _ hk => run_star_greedy hu ha hk⟩

theorem prefers_plus {test : Char → Bool} {b a u : List Char} (hne : u ≠ [])
    (hu : ∀ y ∈ u, test y = true) (ha : a.head?.any test = false) (g : Captures) :
    (plus true (.char test)).Prefers (between b (u ++ a)) g (between (u.reverse ++ b) a) g :=
  ⟨fun _ _ hk => run_plus_greedy hne hu ha hk⟩

theorem Prefers.seq (hr : r.Prefers c g c₁ g₁) (hs : s.Prefers c₁ g₁ c' g') :
    (Regex.seq r s).Prefers c g c' g' :=
  ⟨fun k x hk => hr.run (fun c g => s.run c g k) x (hs.run k x hk)⟩

theorem Prefers.group {index : Nat} (hr : r.Prefers c g c' g') :
    (Regex.group index r).Prefers c g c' ((index, ⟨c, c'⟩) :: g') :=
  ⟨fun _ x hk => hr.run _ x hk⟩

/-- A choice takes its left side if the rest of the work succeeds behind it. -/
theorem Prefers.altLeft {left right : Regex} (h : left.Prefers c g c' g') :
    (Regex.alt left right).Prefers c g c' g' :=
  ⟨fun k x hk => run_alt_of_some (h.run k x hk)⟩

/-- A choice in a group takes its right side if the rest of the work fails behind the left one. -/
theorem Prefers.groupAltRight {left right : Regex} {index : Nat}
    (hleft : (Regex.seq (.group index left) s).Fails c)
    (hright : (Regex.seq (.group index right) s).Prefers c g c' g') :
    (Regex.seq (.group index (.alt left right)) s).Prefers c g c' g' :=
  ⟨fun k x hk => (run_alt_of_none (hleft.run g k)).trans (hright.run k x hk)⟩

/-- What may be left aside is left aside if the rest can be taken. -/
theorem Prefers.skip (hs : s.Prefers c g c' g') : (Regex.seq (.alt .unit r) s).Prefers c g c' g' :=
  ⟨fun k x hk => run_alt_of_some (hs.run k x hk)⟩

/-- What may be left aside is taken if the rest cannot be taken without it. -/
theorem Prefers.take (hfail : s.Fails c) (hr : r.Prefers c g c₁ g₁) (hs : s.Prefers c₁ g₁ c' g') :
    (Regex.seq (.alt .unit r) s).Prefers c g c' g' :=
  ⟨fun k x hk => (run_skip_of_none (hfail.run g k)).trans
    (hr.run (fun c g => s.run c g k) x (hs.run k x hk))⟩

theorem fails_literal {d : Char} {a : List Char} (text b : List Char) (h : a.head? ≠ some d) :
    (literal (d :: text)).Fails (between b a) :=
  ⟨fun _ _ => run_literal_eq_none text h⟩

/-- An expression without a way leads nowhere. -/
theorem Fails.of_not_leads (h : ∀ g c' g', ¬r.Leads c g c' g') : r.Fails c := by
  refine ⟨fun {_} g k => ?_⟩
  cases hrun : r.run c g k with
  | none => rfl
  | some x =>
    obtain ⟨c', g', hway, -⟩ := sound_run r c g k x hrun
    exact absurd hway (h g c' g')

theorem Fails.seq (hr : r.Fails c) : (Regex.seq r s).Fails c := ⟨fun g _ => hr.run g _⟩

end

/-! ### Searches -/

variable {r : Regex} {b a u : List Char} {m : Match}

theorem findFrom_of_matchAt {c : Cursor} (h : r.matchAt c = some m) : r.findFrom c = some m := by
  rw [findFrom, h]

theorem findFrom_cons_of_matchAt_eq_none {x : Char} (h : r.matchAt (between b (x :: a)) = none) :
    r.findFrom (between b (x :: a)) = r.findFrom (between (x :: b) a) := by
  rw [findFrom, h]
  rfl

/-- A search goes over characters at which nothing begins. -/
theorem findFrom_of_matchAt_eq_none
    (h : ∀ x ∈ u, ∀ b a, r.matchAt (between b (x :: a)) = none) :
    r.findFrom (between b (u ++ a)) = r.findFrom (between (u.reverse ++ b) a) := by
  induction u generalizing b with
  | nil => rfl
  | cons x u ih =>
    simp only [List.mem_cons, forall_eq_or_imp] at h
    rw [List.cons_append, findFrom_cons_of_matchAt_eq_none (h.1 b _), ih h.2, List.reverse_cons,
      List.append_assoc]
    rfl

/-- The first match of all, and the others after it. -/
theorem findAll_of_findFrom {c : Cursor} {fresh : Bool} (h : r.findFrom c = some m)
    (hlt : m.span.stop.left < c.left) : r.findAll c fresh = m :: r.findAll m.span.stop false := by
  rw [findAll, h]
  simp [hlt]

/-- What is preferred at the beginning of a text is found first, and the search goes on behind
it. -/
theorem matchesIn_append {g : Captures} (hu : u ≠ [])
    (h : r.Prefers (between [] (u ++ a)) [] (between u.reverse a) g) :
    r.matchesIn (u ++ a) = ⟨⟨between [] (u ++ a), between u.reverse a⟩, g⟩ ::
      r.findAll (between u.reverse a) false := by
  have hlength : 0 < u.length := List.length_pos_iff.2 hu
  rw [matchesIn, start_eq_between]
  refine findAll_of_findFrom (findFrom_of_matchAt h.matchAt) ?_
  simp only [between, List.length_append]
  omega

theorem findAll_of_findFrom_eq_none {c : Cursor} {fresh : Bool} (h : r.findFrom c = none) :
    r.findAll c fresh = [] := by
  rw [findAll, h]

end TripletFacts.Regex
