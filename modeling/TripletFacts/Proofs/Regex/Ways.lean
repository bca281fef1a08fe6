import TripletFacts.Proofs.Regex.Reach

/-!
# Ways of an expression through a text

Where an expression leads is told by its shape: a test takes a character, a loop of a test takes
some characters, and one expression after the other takes what both of them take. Positions are
written as the text around them.

## Main results

* `Regex.leads_char_iff`, `Regex.leads_literal_iff`, `Regex.leads_star_char_iff`,
  `Regex.leads_plus_char_iff`, `Regex.leads_seq_iff` and their companions: the ways of an
  expression.
* `Regex.find?_eq_none_iff`, `Regex.exists_of_find?_eq_some`: what a search finds.
* `Regex.replaceM_of_find?_eq_none`, `Regex.replaceM_of_find?_eq_some`: replacing nothing, and
  replacing that fails.
-/

namespace TripletFacts

namespace Cursor

theorem between_before_after (c : Cursor) : between c.before c.after = c :=
  Cursor.ext rfl rfl c.left_eq.symm

theorem start_eq_between (text : List Char) : start text = between [] text := rfl

/-- A position that is reached from the one with the given characters around it. -/
theorem steps_between_iff {b a u : List Char} {c : Cursor} :
    (between b a).Steps u c ↔ ∃ a', a = u ++ a' ∧ c = between (u.reverse ++ b) a' := by
  constructor
  · intro h
    refine ⟨c.after, h.after, ?_⟩
    rw [← c.between_before_after, h.before]
    rfl
  · rintro ⟨a', rfl, rfl⟩
    exact ⟨rfl, rfl⟩

end Cursor

/-- The text of a stretch. -/
theorem Span.text_between (b u r : List Char) :
    Span.text ⟨Cursor.between b (u ++ r), Cursor.between (u.reverse ++ b) r⟩ = u :=
  Cursor.Steps.text (Cursor.steps_between_iff.2 ⟨r, rfl, rfl⟩)

namespace Regex

open Cursor

section

variable {r s : Regex} {test : Char → Bool} {b a : List Char} {c' : Cursor} {g g' : Captures}

/-! ### One step -/

theorem leads_unit_iff {c : Cursor} : Regex.unit.Leads c g c' g' ↔ c' = c ∧ g' = g := by
  constructor
  · intro h
    cases h
    exact ⟨rfl, rfl⟩
  · rintro ⟨rfl, rfl⟩
    exact .unit _ _

theorem leads_look_iff {test : Option Char → Option Char → Bool} {c : Cursor} :
    (Regex.look test).Leads c g c' g' ↔
      test c.previous c.upcoming = true ∧ c' = c ∧ g' = g := by
  constructor
  · intro h
    cases h with
    | look ht => exact ⟨ht, rfl, rfl⟩
  · rintro ⟨ht, rfl, rfl⟩
    exact .look ht

theorem leads_char {x : Char} (ht : test x = true) (b a : List Char) (g : Captures) :
    (Regex.char test).Leads (between b (x :: a)) g (between (x :: b) a) g :=
  .char rfl rfl ht

theorem leads_char_iff : (Regex.char test).Leads (between b a) g c' g' ↔
    ∃ x a', a = x :: a' ∧ test x = true ∧ c' = between (x :: b) a' ∧ g' = g := by
  constructor
  · intro h
    cases h with
    | char hn hx ht =>
      obtain ⟨y, hy, hsteps⟩ := exists_steps_of_next? hn
      obtain rfl := Option.some.inj (hx.symm.trans hy)
      obtain ⟨a', rfl, rfl⟩ := steps_between_iff.1 hsteps
      exact ⟨_, a', rfl, ht, rfl, rfl⟩
  · rintro ⟨x, a', rfl, ht, rfl, rfl⟩
    exact leads_char ht b a' g'

theorem leads_seq_iff {c : Cursor} : (Regex.seq r s).Leads c g c' g' ↔
    ∃ c₁ g₁, r.Leads c g c₁ g₁ ∧ s.Leads c₁ g₁ c' g' := by
  constructor
  · intro h
    cases h with
    | seq hr hs => exact ⟨_, _, hr, hs⟩
  · rintro ⟨c₁, g₁, hr, hs⟩
    exact .seq hr hs

theorem leads_alt_iff {c : Cursor} : (Regex.alt r s).Leads c g c' g' ↔
    r.Leads c g c' g' ∨ s.Leads c g c' g' := by
  constructor
  · intro h
    cases h with
    | altLeft hr => exact .inl hr
    | altRight hs => exact .inr hs
  · rintro (hr | hs)
    · exact .altLeft hr
    · exact .altRight hs

theorem leads_group_iff {index : Nat} {c : Cursor} : (Regex.group index r).Leads c g c' g' ↔
    ∃ g₁, r.Leads c g c' g₁ ∧ g' = (index, ⟨c, c'⟩) :: g₁ := by
  constructor
  · intro h
    cases h with
    | group hr => exact ⟨_, hr, rfl⟩
  · rintro ⟨g₁, hr, rfl⟩
    exact .group hr

theorem leads_times_zero_iff {c : Cursor} :
    (Regex.times 0 r).Leads c g c' g' ↔ c' = c ∧ g' = g := by
  constructor
  · intro h
    cases h
    exact ⟨rfl, rfl⟩
  · rintro ⟨rfl, rfl⟩
    exact .timesZero _ _

theorem leads_times_succ_iff {n : Nat} {c : Cursor} : (Regex.times (n + 1) r).Leads c g c' g' ↔
    ∃ c₁ g₁, r.Leads c g c₁ g₁ ∧ (Regex.times n r).Leads c₁ g₁ c' g' := by
  constructor
  · intro h
    cases h with
    | timesSucc hr hs => exact ⟨_, _, hr, hs⟩
  · rintro ⟨c₁, g₁, hr, hs⟩
    exact .timesSucc hr hs

/-! ### Several characters -/

theorem leads_literal (text b a : List Char) (g : Captures) :
    (literal text).Leads (between b (text ++ a)) g (between (text.reverse ++ b) a) g := by
  fun_induction literal text generalizing b with
  | case1 => exact .unit _ _
  | case2 x => exact .char rfl rfl (beq_self_eq_true x)
  | case3 x text hne ih =>
    rw [List.reverse_cons, List.append_assoc]
    exact .seq (.char rfl rfl (beq_self_eq_true x)) (ih (x :: b))

theorem leads_literal_iff {text : List Char} : (literal text).Leads (between b a) g c' g' ↔
    ∃ a', a = text ++ a' ∧ c' = between (text.reverse ++ b) a' ∧ g' = g := by
  constructor
  · intro h
    fun_induction literal text generalizing b a g with
    | case1 =>
      obtain ⟨rfl, rfl⟩ := leads_unit_iff.1 h
      exact ⟨a, rfl, rfl, rfl⟩
    | case2 x =>
      obtain ⟨y, a', rfl, hy, rfl, rfl⟩ := leads_char_iff.1 h
      obtain rfl := eq_of_beq hy
      exact ⟨a', rfl, rfl, rfl⟩
    | case3 x text hne ih =>
      obtain ⟨c₁, g₁, hx, htext⟩ := leads_seq_iff.1 h
      obtain ⟨y, a₁, rfl, hy, rfl, rfl⟩ := leads_char_iff.1 hx
      obtain ⟨a', rfl, rfl, rfl⟩ := ih htext
      obtain rfl := eq_of_beq hy
      exact ⟨a', rfl, by simp, rfl⟩
  · rintro ⟨a', rfl, rfl, rfl⟩
    exact leads_literal text b a' g'

theorem leads_star_char {greedy : Bool} {u : List Char} (hu : ∀ x ∈ u, test x = true)
    (b a : List Char) (g : Captures) : (Regex.star greedy (.char test)).Leads (between b (u ++ a)) g
      (between (u.reverse ++ b) a) g := by
  induction u generalizing b with
  | nil => exact .stop _ _
  | cons x u ih =>
    simp only [List.mem_cons, forall_eq_or_imp] at hu
    rw [List.reverse_cons, List.append_assoc]
    exact .again (leads_char hu.1 b (u ++ a) g) (ih hu.2 (x :: b))

/-- A loop of a test takes some characters that pass it. -/
theorem leads_star_char_iff {greedy : Bool} :
    (Regex.star greedy (.char test)).Leads (between b a) g c' g' ↔
      ∃ u a', a = u ++ a' ∧ (∀ x ∈ u, test x = true) ∧ c' = between (u.reverse ++ b) a' ∧
        g' = g := by
  constructor
  · intro h
    generalize hr : Regex.star greedy (.char test) = r at h
    generalize hc : between b a = c at h
    induction h generalizing b a with
    | stop c g =>
      subst hc
      exact ⟨[], a, rfl, by simp, rfl, rfl⟩
    | again hx _ _ ih =>
      cases hr
      subst hc
      obtain ⟨x, a₁, rfl, ht, rfl, rfl⟩ := leads_char_iff.1 hx
      obtain ⟨u, a', rfl, hu, rfl, rfl⟩ := ih rfl rfl
      exact ⟨x :: u, a', rfl, by simpa [ht] using hu, by simp, rfl⟩
    | unit | char | look | seq | altLeft | altRight | group | timesZero | timesSucc | upToStop |
      upToAgain => cases hr
  · rintro ⟨u, a', rfl, hu, rfl, rfl⟩
    exact leads_star_char hu b a' g'

theorem leads_plus_char {greedy : Bool} {x : Char} {u : List Char} (ht : test x = true)
    (hu : ∀ y ∈ u, test y = true) (b a : List Char) (g : Captures) :
    (plus greedy (.char test)).Leads (between b (x :: (u ++ a))) g
      (between ((x :: u).reverse ++ b) a) g := by
  rw [List.reverse_cons, List.append_assoc]
  exact .seq (leads_char ht b (u ++ a) g) (leads_star_char hu (x :: b) a g)

/-- A loop that takes at least one character. -/
theorem leads_plus_char_iff {greedy : Bool} :
    (plus greedy (.char test)).Leads (between b a) g c' g' ↔
      ∃ x u a', a = x :: (u ++ a') ∧ test x = true ∧ (∀ y ∈ u, test y = true) ∧
        c' = between ((x :: u).reverse ++ b) a' ∧ g' = g := by
  constructor
  · intro h
    obtain ⟨c₁, g₁, hx, hu⟩ := leads_seq_iff.1 h
    obtain ⟨x, a₁, rfl, ht, rfl, rfl⟩ := leads_char_iff.1 hx
    obtain ⟨u, a', rfl, hchars, rfl, rfl⟩ := leads_star_char_iff.1 hu
    exact ⟨x, u, a', rfl, ht, hchars, by simp, rfl⟩
  · rintro ⟨x, u, a', rfl, ht, hu, rfl, rfl⟩
    exact leads_plus_char ht hu b a' g'

end

/-! ### Searches -/

variable {r : Regex}

/-- What is found begins somewhere in the text and is a way of the expression. -/
theorem exists_of_find?_eq_some {text : List Char} {m : Match} (h : r.find? text = some m) :
    ∃ p q, text = p ++ q ∧ r.Leads (between p.reverse q) [] m.span.stop m.captures := by
  obtain ⟨u, c, hu, hm⟩ := exists_steps_of_findFrom h
  obtain ⟨q, rfl, rfl⟩ := steps_between_iff.1 hu
  obtain ⟨-, hway⟩ := leads_of_matchAt hm
  rw [List.append_nil] at hway
  exact ⟨u, q, rfl, hway⟩

/-- Nothing is found if the expression leads nowhere. -/
theorem find?_eq_none_iff {text : List Char} :
    r.find? text = none ↔ ∀ p q, text = p ++ q → ∀ c', ¬r.Matches (between p.reverse q) c' := by
  constructor
  · rintro h p q rfl c' hc'
    have hsteps : (start (p ++ q)).Steps p (between p.reverse q) :=
      steps_between_iff.2 ⟨q, rfl, by rw [List.append_nil]⟩
    have hsome := matchAt_isSome_iff.2 ⟨c', hc'⟩
    rw [findFrom_eq_none h hsteps] at hsome
    cases hsome
  · intro h
    cases hfind : r.find? text with
    | none => rfl
    | some m =>
      obtain ⟨p, q, htext, hway⟩ := exists_of_find?_eq_some hfind
      exact absurd hway.matches (h p q htext _)

theorem matchesIn_of_find?_eq_none {text : List Char} (h : r.find? text = none) :
    r.matchesIn text = [] := by
  rw [matchesIn, findAll, show r.findFrom (start text) = none from h]

/-- What is found first is the first of all matches. -/
theorem exists_matchesIn_of_find?_eq_some {text : List Char} {m : Match}
    (h : r.find? text = some m) : ∃ ms, r.matchesIn text = m :: ms := by
  rw [matchesIn, findAll, show r.findFrom (start text) = some m from h]
  dsimp only
  split
  · exact ⟨_, rfl⟩
  · split
    · exact ⟨_, rfl⟩
    · exact ⟨[], rfl⟩

section

variable {ε : Type} {f : Match → Except ε (List Char)} {text : List Char}

/-- Where nothing is found, nothing is replaced. -/
theorem replaceM_of_find?_eq_none (h : r.find? text = none) : r.replaceM f text = .ok text := by
  rw [replaceM, matchesIn_of_find?_eq_none h]
  rfl

/-- Where the first match cannot be replaced, replacing fails. -/
theorem replaceM_of_find?_eq_some {m : Match} (h : r.find? text = some m) {e : ε}
    (hm : f m = .error e) : r.replaceM f text = .error e := by
  obtain ⟨ms, hms⟩ := exists_matchesIn_of_find?_eq_some h
  rw [replaceM, hms, replaceFrom, hm]

end

end Regex

end TripletFacts
