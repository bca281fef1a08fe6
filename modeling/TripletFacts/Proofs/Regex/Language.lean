import TripletFacts.Proofs.Regex.First

/-!
# Languages of expressions

An expression that does not look at the characters around a position takes the same texts wherever
it is matched. These texts are its language, and the language of an expression is built from those
of its parts.

## Main definitions

* `Regex.Takes`: an expression takes the texts with a property.
* `Regex.avoids`: an expression takes no text with a character.

## Main results

* `Regex.takes_literal`, `Regex.takes_star_char`, `Regex.Takes.seq`, `Regex.Takes.alt`,
  `Regex.Takes.star` and their companions: the language of an expression.
* `Regex.Takes.fails`: an expression leads nowhere where no text of its language begins.
* `Regex.Matches.exists_steps_of_avoids`: what is matched has none of the characters avoided.
-/

namespace TripletFacts

namespace Cursor

variable {c c' : Cursor} {u v : List Char}

/-- The position between two stretches. -/
theorem steps_append_iff : c.Steps (u ++ v) c' ↔ ∃ c₁, c.Steps u c₁ ∧ c₁.Steps v c' := by
  constructor
  · intro h
    refine ⟨between (u.reverse ++ c.before) (v ++ c'.after), ⟨?_, rfl⟩, ⟨rfl, ?_⟩⟩
    · rw [h.after, List.append_assoc]
      rfl
    · rw [h.before, List.reverse_append, List.append_assoc]
      rfl
  · rintro ⟨c₁, hu, hv⟩
    exact hu.trans hv

theorem steps_nil_iff : c.Steps [] c' ↔ c' = c :=
  ⟨Steps.eq_of_nil, fun h => h ▸ .refl c⟩

theorem steps_singleton_iff {x : Char} :
    c.Steps [x] c' ↔ c.next? = some c' ∧ c.upcoming = some x := by
  constructor
  · intro h
    cases hn : c.next? with
    | none => cases h.eq_nil_of_next?_eq_none hn
    | some c'' =>
      obtain ⟨y, hy, hsteps⟩ := exists_steps_of_next? hn
      have hafter : x :: c'.after = y :: c''.after := h.after.symm.trans hsteps.after
      rw [(h.tail hn).eq_of_nil, hy, (List.cons.inj hafter).1]
      exact ⟨rfl, rfl⟩
  · rintro ⟨hn, hx⟩
    obtain ⟨y, hy, hsteps⟩ := exists_steps_of_next? hn
    obtain rfl := Option.some.inj (hx.symm.trans hy)
    exact hsteps

end Cursor

namespace Regex

open Cursor

/-- An expression takes the texts with a property, from any position. -/
def Takes (r : Regex) (T : List Char → Prop) : Prop :=
  ∀ c c', r.Matches c c' ↔ ∃ u, T u ∧ c.Steps u c'

variable {r s : Regex} {T U : List Char → Prop}

theorem Takes.congr (hr : r.Takes T) (h : ∀ u, T u ↔ U u) : r.Takes U := by
  intro c c'
  simp only [hr c c', h]

/-- An expression leads nowhere where none of the texts that it takes begins. -/
theorem Takes.fails (hr : r.Takes T) {a : List Char} (h : ∀ u rest, T u → a ≠ u ++ rest)
    (b : List Char) : r.Fails (between b a) := by
  refine .of_not_leads fun g c' g' hway => ?_
  obtain ⟨u, hu, hsteps⟩ := (hr _ _).1 hway.matches
  exact h u c'.after hu hsteps.after

theorem takes_unit : unit.Takes (· = []) := by
  intro c c'
  simp only [exists_eq_left, steps_nil_iff]
  constructor
  · intro h
    cases h
    rfl
  · rintro rfl
    exact .unit _

theorem takes_char (test : Char → Bool) :
    (char test).Takes fun u => ∃ x, test x = true ∧ u = [x] := by
  intro c c'
  constructor
  · intro h
    cases h with
    | char hn hx ht => exact ⟨_, ⟨_, ht, rfl⟩, steps_singleton_iff.2 ⟨hn, hx⟩⟩
  · rintro ⟨u, ⟨x, ht, rfl⟩, hsteps⟩
    obtain ⟨hn, hx⟩ := steps_singleton_iff.1 hsteps
    exact .char hn hx ht

theorem matches_seq_iff {c c' : Cursor} :
    (Regex.seq r s).Matches c c' ↔ ∃ c₁, r.Matches c c₁ ∧ s.Matches c₁ c' := by
  constructor
  · intro h
    cases h with
    | seq hr hs => exact ⟨_, hr, hs⟩
  · rintro ⟨c₁, hr, hs⟩
    exact .seq hr hs

theorem matches_look_iff {test : Option Char → Option Char → Bool} {c c' : Cursor} :
    (Regex.look test).Matches c c' ↔ test c.previous c.upcoming = true ∧ c' = c := by
  constructor
  · intro h
    cases h with
    | look ht => exact ⟨ht, rfl⟩
  · rintro ⟨ht, rfl⟩
    exact .look ht

theorem Takes.seq (hr : r.Takes T) (hs : s.Takes U) :
    (Regex.seq r s).Takes fun w => ∃ u v, T u ∧ U v ∧ w = u ++ v := by
  intro c c'
  rw [matches_seq_iff]
  constructor
  · rintro ⟨c₁, hr', hs'⟩
    obtain ⟨u, hu, hcu⟩ := (hr _ _).1 hr'
    obtain ⟨v, hv, hcv⟩ := (hs _ _).1 hs'
    exact ⟨u ++ v, ⟨u, v, hu, hv, rfl⟩, hcu.trans hcv⟩
  · rintro ⟨_, ⟨u, v, hu, hv, rfl⟩, hsteps⟩
    obtain ⟨c₁, hcu, hcv⟩ := steps_append_iff.1 hsteps
    exact ⟨c₁, (hr _ _).2 ⟨u, hu, hcu⟩, (hs _ _).2 ⟨v, hv, hcv⟩⟩

theorem Takes.alt (hr : r.Takes T) (hs : s.Takes U) :
    (Regex.alt r s).Takes fun u => T u ∨ U u := by
  intro c c'
  constructor
  · intro h
    cases h with
    | altLeft h =>
      obtain ⟨u, hu, hsteps⟩ := (hr _ _).1 h
      exact ⟨u, .inl hu, hsteps⟩
    | altRight h =>
      obtain ⟨u, hu, hsteps⟩ := (hs _ _).1 h
      exact ⟨u, .inr hu, hsteps⟩
  · rintro ⟨u, hu | hu, hsteps⟩
    · exact .altLeft ((hr _ _).2 ⟨u, hu, hsteps⟩)
    · exact .altRight ((hs _ _).2 ⟨u, hu, hsteps⟩)

theorem Takes.group (hr : r.Takes T) (index : Nat) : (Regex.group index r).Takes T := by
  intro c c'
  rw [← hr]
  exact ⟨fun h => by cases h with | group h => exact h, .group⟩

theorem Takes.star {greedy : Bool} (hr : r.Takes T) :
    (Regex.star greedy r).Takes fun w =>
      ∃ us : List (List Char), (∀ u ∈ us, T u) ∧ w = us.flatten := by
  intro c c'
  constructor
  · intro h
    generalize hloop : Regex.star greedy r = loop at h
    induction h with
    | stop c => exact ⟨[], ⟨[], by simp, rfl⟩, .refl c⟩
    | again h _ _ ih =>
      cases hloop
      obtain ⟨u, hu, hcu⟩ := (hr _ _).1 h
      obtain ⟨_, ⟨us, hus, rfl⟩, hcus⟩ := ih rfl
      exact ⟨u ++ us.flatten, ⟨u :: us, List.forall_mem_cons.2 ⟨hu, hus⟩, rfl⟩, hcu.trans hcus⟩
    | unit | char | look | seq | altLeft | altRight | group | timesZero | timesSucc | upToStop |
      upToAgain => cases hloop
  · rintro ⟨_, ⟨us, hus, rfl⟩, hsteps⟩
    induction us generalizing c with
    | nil =>
      obtain rfl := hsteps.eq_of_nil
      exact .stop _
    | cons u us ih =>
      obtain ⟨hu, hus⟩ := List.forall_mem_cons.1 hus
      obtain ⟨c₁, hcu, hcus⟩ := steps_append_iff.1 hsteps
      exact .again ((hr _ _).2 ⟨u, hu, hcu⟩) (ih c₁ hus hcus)

theorem takes_literal (text : List Char) : (literal text).Takes (· = text) := by
  have hsingle (x : Char) : (char (· == x)).Takes (· = [x]) :=
    (takes_char _).congr fun u => by simp
  fun_induction literal text with
  | case1 => exact takes_unit
  | case2 x => exact hsingle x
  | case3 x text hne ih => exact ((hsingle x).seq ih).congr fun u => by simp

/-- A loop of a test takes the texts of which all characters pass the test. -/
theorem takes_star_char (greedy : Bool) (test : Char → Bool) :
    (Regex.star greedy (.char test)).Takes fun u => ∀ x ∈ u, test x = true := by
  refine (takes_char test).star.congr fun u => ?_
  constructor
  · rintro ⟨us, hus, rfl⟩ x hx
    obtain ⟨v, hv, hxv⟩ := List.mem_flatten.1 hx
    obtain ⟨y, hy, rfl⟩ := hus v hv
    rwa [List.mem_singleton.1 hxv]
  · intro hu
    refine ⟨u.map ([·]), fun v hv => ?_, (List.flatMap_singleton' u).symm⟩
    obtain ⟨x, hx, rfl⟩ := List.mem_map.1 hv
    exact ⟨x, hu x hx, rfl⟩

/-- A loop that takes at least one text. -/
theorem Takes.plus {greedy : Bool} (hr : r.Takes T) : (Regex.plus greedy r).Takes fun w =>
    ∃ us : List (List Char), us ≠ [] ∧ (∀ u ∈ us, T u) ∧ w = us.flatten := by
  refine (hr.seq hr.star).congr fun w => ?_
  constructor
  · rintro ⟨u, _, hu, ⟨us, hus, rfl⟩, rfl⟩
    exact ⟨u :: us, List.cons_ne_nil u us, List.forall_mem_cons.2 ⟨hu, hus⟩, rfl⟩
  · rintro ⟨us, hne, hus, rfl⟩
    obtain ⟨u, us, rfl⟩ := List.exists_cons_of_ne_nil hne
    obtain ⟨hu, hus⟩ := List.forall_mem_cons.1 hus
    exact ⟨u, us.flatten, hu, ⟨us, hus, rfl⟩, rfl⟩

/-! ### Characters that are not taken -/

/-- No test of an expression takes a character. -/
def avoids (x : Char) : Regex → Bool
  | unit | look _ => true
  | char test => !test x
  | seq r s | alt r s => r.avoids x && s.avoids x
  | group _ r | star _ r | times _ r | upTo _ _ r => r.avoids x

/-- What is matched has no character that the expression avoids. -/
theorem Matches.exists_steps_of_avoids {c c' : Cursor} (h : r.Matches c c') :
    ∃ u, c.Steps u c' ∧ ∀ x, r.avoids x = true → x ∉ u := by
  induction h with
  | unit c | look | stop c | timesZero c | upToStop c => exact ⟨[], .refl _, by simp⟩
  | char hn hx ht =>
    refine ⟨_, steps_singleton_iff.2 ⟨hn, hx⟩, fun y hy hmem => ?_⟩
    rw [List.mem_singleton.1 hmem, avoids, ht] at hy
    cases hy
  | seq _ _ ih₁ ih₂ =>
    obtain ⟨u, hu, havoids⟩ := ih₁
    obtain ⟨v, hv, havoids'⟩ := ih₂
    refine ⟨u ++ v, hu.trans hv, fun y hy => ?_⟩
    obtain ⟨hr, hs⟩ := Bool.and_eq_true_iff.1 hy
    simp [havoids y hr, havoids' y hs]
  | altLeft _ ih =>
    obtain ⟨u, hu, havoids⟩ := ih
    exact ⟨u, hu, fun y hy => havoids y (Bool.and_eq_true_iff.1 hy).1⟩
  | altRight _ ih =>
    obtain ⟨u, hu, havoids⟩ := ih
    exact ⟨u, hu, fun y hy => havoids y (Bool.and_eq_true_iff.1 hy).2⟩
  | group _ ih => exact ih
  | again _ _ ih₁ ih₂ | timesSucc _ _ ih₁ ih₂ | upToAgain _ _ ih₁ ih₂ =>
    obtain ⟨u, hu, havoids⟩ := ih₁
    obtain ⟨v, hv, havoids'⟩ := ih₂
    refine ⟨u ++ v, hu.trans hv, fun y hy => ?_⟩
    simp [havoids y hy, havoids' y hy]

end Regex

end TripletFacts
