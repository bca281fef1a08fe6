import TripletFacts.Regex.Search

/-!
# What matching reaches

A run of an expression succeeds only at a position that the expression leads to, and it succeeds
if the rest of the work does so at some such position. The stretches of the groups and of the
matches that are found are stretches of the text that is searched.

## Main definitions

* `Cursor.Steps`: a position is reached from another one over some characters.
* `Span.Inside`: a stretch that begins and ends after a position.
* `Regex.Leads`: the positions that an expression leads to, with the captures on the way.
* `Match.Inside`: a match whose stretches all lie after a position.

## Main results

* `Regex.sound_run`: what a success says.
* `Regex.isSome_run`: what makes a run succeed.
* `Regex.matchAt_isSome_iff`: there is a match at a position if the expression leads anywhere.
* `Regex.inside_of_mem_findAll`: the matches that are found.
-/

namespace TripletFacts

/-! ### Positions -/

namespace Cursor

/-- The second position is reached from the first one over the characters `u`. -/
structure Steps (c : Cursor) (u : List Char) (c' : Cursor) : Prop where
  after : c.after = u ++ c'.after
  before : c'.before = u.reverse ++ c.before

variable {c c' c'' : Cursor} {u v : List Char}

theorem Steps.refl (c : Cursor) : c.Steps [] c := ⟨rfl, rfl⟩

theorem Steps.trans (h : c.Steps u c') (h' : c'.Steps v c'') : c.Steps (u ++ v) c'' := by
  refine ⟨?_, ?_⟩
  · rw [h.after, h'.after, List.append_assoc]
  · rw [h'.before, h.before, List.reverse_append, List.append_assoc]

theorem Steps.left (h : c.Steps u c') : c.left = u.length + c'.left := by
  rw [c.left_eq, c'.left_eq, h.after, List.length_append]

/-- A position is reached over no characters only from itself. -/
theorem Steps.eq_of_nil (h : c.Steps [] c') : c' = c :=
  Cursor.ext (by simpa using h.before) (by simpa using h.after.symm) (by simpa using h.left.symm)

theorem Steps.eq_of_left_le (h : c.Steps u c') (hle : c.left ≤ c'.left) : c' = c := by
  have hleft := h.left
  obtain rfl : u = [] := List.eq_nil_of_length_eq_zero (by omega)
  exact h.eq_of_nil

/-- The next position is reached over the upcoming character. -/
theorem exists_steps_of_next? (hn : c.next? = some c') :
    ∃ x, c.upcoming = some x ∧ c.Steps [x] c' := by
  rcases c with ⟨before, _ | ⟨x, after⟩, left, hl⟩
  · simp [next?] at hn
  · simp only [next?, Option.some.injEq] at hn
    subst hn
    exact ⟨x, rfl, rfl, rfl⟩

/-- The way from the next position on. -/
theorem Steps.tail {x : Char} (h : c.Steps (x :: u) c') (hn : c.next? = some c'') :
    c''.Steps u c' := by
  obtain ⟨y, -, hy⟩ := exists_steps_of_next? hn
  have hafter : x :: (u ++ c'.after) = y :: c''.after := h.after.symm.trans hy.after
  obtain ⟨rfl, htail⟩ := List.cons_eq_cons.1 hafter
  refine ⟨htail.symm, ?_⟩
  rw [h.before, hy.before]
  simp

theorem Steps.eq_nil_of_next?_eq_none (h : c.Steps u c') (hn : c.next? = none) : u = [] := by
  rcases c with ⟨before, _ | ⟨x, after⟩, left, hl⟩
  · exact (List.append_eq_nil_iff.1 h.after.symm).1
  · simp [next?] at hn

/-- The text between two positions. -/
theorem Steps.text (h : c.Steps u c') : Span.text ⟨c, c'⟩ = u := by
  rw [Span.text, h.left, h.after]
  simp

end Cursor

/-- A stretch that begins and ends after a position. -/
def Span.Inside (c : Cursor) (s : Span) : Prop :=
  ∃ u v, c.Steps u s.start ∧ s.start.Steps v s.stop

theorem Span.Inside.of_steps {c c' : Cursor} {u : List Char} {s : Span} (h : s.Inside c')
    (hc : c.Steps u c') : s.Inside c := by
  obtain ⟨v, w, hv, hw⟩ := h
  exact ⟨u ++ v, w, hc.trans hv, hw⟩

theorem Span.Inside.length_text_le {c : Cursor} {s : Span} (h : s.Inside c) :
    s.text.length ≤ c.left := by
  obtain ⟨u, v, hu, hv⟩ := h
  rw [show s = ⟨s.start, s.stop⟩ from rfl, hv.text, hu.left, hv.left]
  omega

/-- The text of a stretch is a part of the text after the position. -/
theorem Span.Inside.text_subset {c : Cursor} {s : Span} (h : s.Inside c) : s.text ⊆ c.after := by
  obtain ⟨u, v, hu, hv⟩ := h
  rw [show s = ⟨s.start, s.stop⟩ from rfl, hv.text, hu.after, hv.after]
  intro x hx
  simp [hx]

namespace Regex

/-- Matching moves over the characters of the text. -/
theorem Matches.exists_steps {r : Regex} {c c' : Cursor} (h : r.Matches c c') :
    ∃ u, c.Steps u c' := by
  induction h with
  | unit c | stop c | timesZero c | upToStop c | look => exact ⟨[], .refl _⟩
  | char hn =>
    obtain ⟨x, -, hx⟩ := Cursor.exists_steps_of_next? hn
    exact ⟨[x], hx⟩
  | seq _ _ ih₁ ih₂ | again _ _ ih₁ ih₂ | timesSucc _ _ ih₁ ih₂ | upToAgain _ _ ih₁ ih₂ =>
    obtain ⟨u, hu⟩ := ih₁
    obtain ⟨v, hv⟩ := ih₂
    exact ⟨u ++ v, hu.trans hv⟩
  | altLeft _ ih | altRight _ ih | group _ ih => exact ih

/-! ### Ways with captures -/

/-- `r.Leads c g c' g'` says that the expression `r` leads from the position `c` to the position
`c'`, and that the captures `g` have become `g'` on the way. -/
inductive Leads : Regex → Cursor → Captures → Cursor → Captures → Prop where
  | unit (c : Cursor) (g : Captures) : Leads .unit c g c g
  | char {test : Char → Bool} {c c' : Cursor} {g : Captures} {x : Char} (hn : c.next? = some c')
      (hx : c.upcoming = some x) (ht : test x = true) : Leads (.char test) c g c' g
  | look {test : Option Char → Option Char → Bool} {c : Cursor} {g : Captures}
      (ht : test c.previous c.upcoming = true) : Leads (.look test) c g c g
  | seq {r s : Regex} {c c' c'' : Cursor} {g g' g'' : Captures} (hr : Leads r c g c' g')
      (hs : Leads s c' g' c'' g'') : Leads (.seq r s) c g c'' g''
  | altLeft {r s : Regex} {c c' : Cursor} {g g' : Captures} (hr : Leads r c g c' g') :
      Leads (.alt r s) c g c' g'
  | altRight {r s : Regex} {c c' : Cursor} {g g' : Captures} (hs : Leads s c g c' g') :
      Leads (.alt r s) c g c' g'
  | group {i : Nat} {r : Regex} {c c' : Cursor} {g g' : Captures} (hr : Leads r c g c' g') :
      Leads (.group i r) c g c' ((i, ⟨c, c'⟩) :: g')
  | stop {b : Bool} {r : Regex} (c : Cursor) (g : Captures) : Leads (.star b r) c g c g
  | again {b : Bool} {r : Regex} {c c' c'' : Cursor} {g g' g'' : Captures}
      (hr : Leads r c g c' g') (hs : Leads (.star b r) c' g' c'' g'') :
      Leads (.star b r) c g c'' g''
  | timesZero {r : Regex} (c : Cursor) (g : Captures) : Leads (.times 0 r) c g c g
  | timesSucc {n : Nat} {r : Regex} {c c' c'' : Cursor} {g g' g'' : Captures}
      (hr : Leads r c g c' g') (hs : Leads (.times n r) c' g' c'' g'') :
      Leads (.times (n + 1) r) c g c'' g''
  | upToStop {b : Bool} {n : Nat} {r : Regex} (c : Cursor) (g : Captures) :
      Leads (.upTo b n r) c g c g
  | upToAgain {b : Bool} {n : Nat} {r : Regex} {c c' c'' : Cursor} {g g' g'' : Captures}
      (hr : Leads r c g c' g') (hs : Leads (.upTo b n r) c' g' c'' g'') :
      Leads (.upTo b (n + 1) r) c g c'' g''

/-- A way without its captures. -/
theorem Leads.matches {r : Regex} {c c' : Cursor} {g g' : Captures} (h : r.Leads c g c' g') :
    r.Matches c c' := by
  induction h with
  | unit c => exact .unit c
  | char hn hx ht => exact .char hn hx ht
  | look ht => exact .look ht
  | seq _ _ ihr ihs => exact .seq ihr ihs
  | altLeft _ ih => exact .altLeft ih
  | altRight _ ih => exact .altRight ih
  | group _ ih => exact .group ih
  | stop c => exact .stop c
  | again _ _ ihr ihs => exact .again ihr ihs
  | timesZero c => exact .timesZero c
  | timesSucc _ _ ihr ihs => exact .timesSucc ihr ihs
  | upToStop c => exact .upToStop c
  | upToAgain _ _ ihr ihs => exact .upToAgain ihr ihs

/-- What matches does so with some captures. -/
theorem Matches.exists_leads {r : Regex} {c c' : Cursor} (h : r.Matches c c') (g : Captures) :
    ∃ g', r.Leads c g c' g' := by
  induction h generalizing g with
  | unit c => exact ⟨g, .unit c g⟩
  | char hn hx ht => exact ⟨g, .char hn hx ht⟩
  | look ht => exact ⟨g, .look ht⟩
  | seq _ _ ihr ihs =>
    obtain ⟨g', hr⟩ := ihr g
    obtain ⟨g'', hs⟩ := ihs g'
    exact ⟨g'', .seq hr hs⟩
  | altLeft _ ih =>
    obtain ⟨g', h⟩ := ih g
    exact ⟨g', .altLeft h⟩
  | altRight _ ih =>
    obtain ⟨g', h⟩ := ih g
    exact ⟨g', .altRight h⟩
  | group _ ih =>
    obtain ⟨g', h⟩ := ih g
    exact ⟨_, .group h⟩
  | stop c => exact ⟨g, .stop c g⟩
  | again _ _ ihr ihs =>
    obtain ⟨g', hr⟩ := ihr g
    obtain ⟨g'', hs⟩ := ihs g'
    exact ⟨g'', .again hr hs⟩
  | timesZero c => exact ⟨g, .timesZero c g⟩
  | timesSucc _ _ ihr ihs =>
    obtain ⟨g', hr⟩ := ihr g
    obtain ⟨g'', hs⟩ := ihs g'
    exact ⟨g'', .timesSucc hr hs⟩
  | upToStop c => exact ⟨g, .upToStop c g⟩
  | upToAgain _ _ ihr ihs =>
    obtain ⟨g', hr⟩ := ihr g
    obtain ⟨g'', hs⟩ := ihs g'
    exact ⟨g'', .upToAgain hr hs⟩

/-- The captures after a way were there before it or lie after its beginning. -/
theorem Leads.inside {r : Regex} {c c' : Cursor} {g g' : Captures} (h : r.Leads c g c' g') :
    ∀ e ∈ g', e ∈ g ∨ e.2.Inside c := by
  induction h with
  | unit | char | look | stop | timesZero | upToStop => exact fun e he => .inl he
  | seq hr hs ihr ihs | again hr hs ihr ihs | timesSucc hr hs ihr ihs | upToAgain hr hs ihr ihs =>
    intro e he
    obtain ⟨u, hu⟩ := hr.matches.exists_steps
    rcases ihs e he with h | h
    · exact ihr e h
    · exact .inr (h.of_steps hu)
  | altLeft _ ih | altRight _ ih => exact ih
  | @group i r c c' g g' hr ih =>
    intro e he
    rcases List.mem_cons.1 he with rfl | he
    · obtain ⟨u, hu⟩ := hr.matches.exists_steps
      exact .inr ⟨[], u, .refl c, hu⟩
    · exact ih e he

/-! ### What a success says -/

section Run

variable {α : Type}

/-- A run that succeeds does so at the end of a way. -/
def Sound (W : Cursor → Captures → Cursor → Captures → Prop)
    (run : Cursor → Captures → (Cursor → Captures → Option α) → Option α) : Prop :=
  ∀ c g k x, run c g k = some x → ∃ c' g', W c g c' g' ∧ k c' g' = some x

theorem of_orElse_eq_some {o : Option α} {f : Unit → Option α} {x : α}
    (h : o.orElse f = some x) : o = some x ∨ f () = some x := by
  rw [Option.orElse_eq_or, Option.or_eq_some_iff] at h
  exact h.imp_right And.right

theorem sound_rounds {greedy : Bool} {r : Regex}
    {run : Cursor → Captures → (Cursor → Captures → Option α) → Option α}
    (h : Sound r.Leads run) : Sound (Leads (.star greedy r)) (rounds greedy run) := by
  intro c
  induction hn : c.left using Nat.strongRecOn generalizing c with
  | ind n ih =>
    intro g k x hx
    have hagain : (run c g fun c' g' =>
        if _h : c'.left < c.left then rounds greedy run c' g' k else none) = some x →
        ∃ c' g', Leads (.star greedy r) c g c' g' ∧ k c' g' = some x := by
      intro hrun
      obtain ⟨c', g', hr, hk⟩ := h c g _ x hrun
      split at hk
      · rename_i hlt
        obtain ⟨c'', g'', hs, hk⟩ := ih c'.left (hn ▸ hlt) c' rfl g' k x hk
        exact ⟨c'', g'', .again hr hs, hk⟩
      · cases hk
    rw [rounds] at hx
    dsimp only at hx
    split at hx
    · rcases of_orElse_eq_some hx with hx | hx
      · exact hagain hx
      · exact ⟨c, g, .stop c g, hx⟩
    · rcases of_orElse_eq_some hx with hx | hx
      · exact ⟨c, g, .stop c g, hx⟩
      · exact hagain hx

theorem sound_exactRounds {r : Regex}
    {run : Cursor → Captures → (Cursor → Captures → Option α) → Option α}
    (h : Sound r.Leads run) :
    (n : Nat) → Sound (Leads (.times n r)) (fun c g k => exactRounds run n c g k)
  | 0, c, g, _, _, hx => ⟨c, g, .timesZero c g, hx⟩
  | n + 1, c, g, k, x, hx => by
    obtain ⟨c', g', hr, hk⟩ := h c g _ x hx
    obtain ⟨c'', g'', hs, hk⟩ := sound_exactRounds h n c' g' k x hk
    exact ⟨c'', g'', .timesSucc hr hs, hk⟩

theorem sound_fewRounds (greedy : Bool) {r : Regex}
    {run : Cursor → Captures → (Cursor → Captures → Option α) → Option α}
    (h : Sound r.Leads run) :
    (n : Nat) → Sound (Leads (.upTo greedy n r)) (fun c g k => fewRounds greedy run n c g k)
  | 0, c, g, _, _, hx => ⟨c, g, .upToStop c g, hx⟩
  | n + 1, c, g, k, x, hx => by
    have hagain : (run c g fun c' g' => fewRounds greedy run n c' g' k) = some x →
        ∃ c' g', Leads (.upTo greedy (n + 1) r) c g c' g' ∧ k c' g' = some x := by
      intro hrun
      obtain ⟨c', g', hr, hk⟩ := h c g _ x hrun
      obtain ⟨c'', g'', hs, hk⟩ := sound_fewRounds greedy h n c' g' k x hk
      exact ⟨c'', g'', .upToAgain hr hs, hk⟩
    dsimp only [fewRounds] at hx
    split at hx
    · rcases of_orElse_eq_some hx with hx | hx
      · exact hagain hx
      · exact ⟨c, g, .upToStop c g, hx⟩
    · rcases of_orElse_eq_some hx with hx | hx
      · exact ⟨c, g, .upToStop c g, hx⟩
      · exact hagain hx

/-- A run that succeeds does so at the end of a way of the expression. -/
theorem sound_run : (r : Regex) → Sound (α := α) r.Leads r.run
  | unit, c, g, _, _, hx => ⟨c, g, .unit c g, hx⟩
  | char test, c, g, k, x, hx => by
    unfold run at hx
    split at hx
    · rename_i c' y hn hy
      split at hx
      · rename_i ht
        exact ⟨c', g, .char hn hy ht, hx⟩
      · cases hx
    · cases hx
  | look test, c, g, k, x, hx => by
    unfold run at hx
    split at hx
    · rename_i ht
      exact ⟨c, g, .look ht, hx⟩
    · cases hx
  | seq first second, c, g, k, x, hx => by
    obtain ⟨c', g', hr, hk⟩ := sound_run first c g _ x hx
    obtain ⟨c'', g'', hs, hk⟩ := sound_run second c' g' k x hk
    exact ⟨c'', g'', .seq hr hs, hk⟩
  | alt left right, c, g, k, x, hx => by
    rcases of_orElse_eq_some hx with hx | hx
    · obtain ⟨c', g', hr, hk⟩ := sound_run left c g k x hx
      exact ⟨c', g', .altLeft hr, hk⟩
    · obtain ⟨c', g', hs, hk⟩ := sound_run right c g k x hx
      exact ⟨c', g', .altRight hs, hk⟩
  | group index body, c, g, k, x, hx => by
    obtain ⟨c', g', hr, hk⟩ := sound_run body c g _ x hx
    exact ⟨c', _, .group hr, hk⟩
  | star greedy body, c, g, k, x, hx => sound_rounds (sound_run body) c g k x hx
  | times count body, c, g, k, x, hx => sound_exactRounds (sound_run body) count c g k x hx
  | upTo greedy count body, c, g, k, x, hx =>
    sound_fewRounds greedy (sound_run body) count c g k x hx

/-! ### What makes a run succeed -/

theorem isSome_orElse {o : Option α} {f : Unit → Option α} :
    (o.orElse f).isSome = true ↔ o.isSome = true ∨ (f ()).isSome = true := by
  rw [Option.orElse_eq_or, Option.isSome_or, Bool.or_eq_true]

/-- A run succeeds if the rest of the work does so at a position that the expression leads to. -/
theorem isSome_run {r : Regex} {c c' : Cursor} (h : r.Matches c c') {g : Captures}
    {k : Cursor → Captures → Option α} (hk : ∀ g', (k c' g').isSome = true) :
    (r.run c g k).isSome = true := by
  induction h generalizing g k with
  | unit c => exact hk g
  | char hn hx ht => simp only [run, hn, hx, ht, if_true, hk g]
  | look ht => simp only [run, ht, if_true, hk g]
  | seq hr hs ihr ihs => exact ihr fun g' => ihs hk
  | altLeft hr ih => exact isSome_orElse.2 (.inl (ih hk))
  | altRight hs ih => exact isSome_orElse.2 (.inr (ih hk))
  | group hr ih => exact ih fun g' => hk _
  | stop c =>
    rw [run, rounds]
    dsimp only
    split
    · exact isSome_orElse.2 (.inr (hk g))
    · exact isSome_orElse.2 (.inl (hk g))
  | @again b r c c' c'' hr hs ihr ihs =>
    by_cases hlt : c'.left < c.left
    · have hround : (r.run c g fun c' g' =>
          if _h : c'.left < c.left then rounds b r.run c' g' k else none).isSome = true :=
        ihr fun g' => by
          rw [dif_pos hlt]
          exact ihs hk
      rw [run, rounds]
      dsimp only
      split
      · exact isSome_orElse.2 (.inl hround)
      · exact isSome_orElse.2 (.inr hround)
    · -- a round that takes nothing leads back to where it began
      obtain ⟨u, hu⟩ := hr.exists_steps
      obtain rfl : c' = c := hu.eq_of_left_le (Nat.le_of_not_lt hlt)
      exact ihs hk
  | timesZero c => exact hk g
  | timesSucc hr hs ihr ihs => exact ihr fun g' => ihs hk
  | @upToStop b n r c =>
    cases n with
    | zero => exact hk g
    | succ n =>
      rw [run, fewRounds]
      dsimp only
      split
      · exact isSome_orElse.2 (.inr (hk g))
      · exact isSome_orElse.2 (.inl (hk g))
  | @upToAgain b n r c c' c'' hr hs ihr ihs =>
    have hround : (r.run c g fun c' g' => fewRounds b r.run n c' g' k).isSome = true :=
      ihr fun g' => ihs hk
    rw [run, fewRounds]
    dsimp only
    split
    · exact isSome_orElse.2 (.inl hround)
    · exact isSome_orElse.2 (.inr hround)

end Run

/-! ### Matches -/

/-- A match is the end of a way of the expression. -/
theorem leads_of_matchAt {r : Regex} {c : Cursor} {m : Match} (h : r.matchAt c = some m) :
    m.span.start = c ∧ r.Leads c [] m.span.stop m.captures := by
  obtain ⟨c', g', hway, hk⟩ := sound_run r c [] _ m h
  obtain rfl := Option.some.inj hk
  exact ⟨rfl, hway⟩

/-- There is a match at a position if the expression leads from it to any other. -/
theorem matchAt_isSome_iff {r : Regex} {c : Cursor} :
    (r.matchAt c).isSome = true ↔ ∃ c', r.Matches c c' := by
  constructor
  · intro h
    obtain ⟨m, hm⟩ := Option.isSome_iff_exists.1 h
    exact ⟨m.span.stop, (leads_of_matchAt hm).2.matches⟩
  · rintro ⟨c', hc'⟩
    exact isSome_run hc' fun _ => rfl

end Regex

/-- The stretches of a match and of its groups begin and end after a position. -/
structure Match.Inside (c : Cursor) (m : Match) : Prop where
  span : m.span.Inside c
  captures : ∀ e ∈ m.captures, e.2.Inside c

/-- The text of a group is a part of the text after the position. -/
theorem Match.Inside.groupText_subset {c : Cursor} {m : Match} (h : m.Inside c) (index : Nat) :
    m.groupText index ⊆ c.after := by
  intro x hx
  unfold Match.groupText Match.group at hx
  cases hs : m.captures.lookup index with
  | none => simp [hs] at hx
  | some s =>
    simp only [hs, Option.map_some, Option.getD_some] at hx
    obtain ⟨g, g', hg, -⟩ := List.lookup_eq_some_iff.1 hs
    exact (h.captures (index, s) (by simp [hg])).text_subset hx

namespace Regex

theorem inside_of_matchAt {r : Regex} {c c' : Cursor} {u : List Char} {m : Match}
    (h : r.matchAt c' = some m) (hc : c.Steps u c') : m.Inside c := by
  obtain ⟨rfl, hm⟩ := leads_of_matchAt h
  obtain ⟨v, hv⟩ := hm.matches.exists_steps
  refine ⟨⟨u, v, hc, hv⟩, fun e he => ?_⟩
  exact ((hm.inside e he).resolve_left (by simp)).of_steps hc

/-- The first match from a position on is the match at some position that is not before it. -/
theorem exists_steps_of_findFrom {r : Regex} {c : Cursor} {m : Match}
    (h : r.findFrom c = some m) : ∃ u c', c.Steps u c' ∧ r.matchAt c' = some m := by
  fun_induction findFrom r c with
  | case1 c m' hm =>
    exact ⟨[], c, .refl c, hm.trans h⟩
  | case2 c hm c' hn ih =>
    obtain ⟨x, -, hx⟩ := Cursor.exists_steps_of_next? hn
    obtain ⟨u, c'', hu, hm'⟩ := ih h
    exact ⟨[x] ++ u, c'', hx.trans hu, hm'⟩
  | case3 c hm hn => cases h

/-- What is found lies after the position where the search begins. -/
theorem inside_of_findFrom {r : Regex} {c : Cursor} {m : Match} (h : r.findFrom c = some m) :
    m.Inside c := by
  obtain ⟨u, c', hu, hm⟩ := exists_steps_of_findFrom h
  exact inside_of_matchAt hm hu

/-- If nothing is found then there is no match at any position from the first one on. -/
theorem findFrom_eq_none {r : Regex} {c : Cursor} (h : r.findFrom c = none) {u : List Char}
    {c' : Cursor} (hu : c.Steps u c') : r.matchAt c' = none := by
  fun_induction findFrom r c generalizing u with
  | case1 c m hm => cases h
  | case2 c hm c'' hn ih =>
    cases u with
    | nil => exact (hu.eq_of_nil).symm ▸ hm
    | cons x u => exact ih h (hu.tail hn)
  | case3 c hm hn =>
    obtain rfl : u = [] := hu.eq_nil_of_next?_eq_none hn
    exact (hu.eq_of_nil).symm ▸ hm

/-- All matches that are found are matches at positions that are not before the one where the search
begins. -/
theorem exists_steps_of_mem_findAll {r : Regex} {c : Cursor} {fresh : Bool} {m : Match}
    (h : m ∈ r.findAll c fresh) : ∃ u c', c.Steps u c' ∧ r.matchAt c' = some m := by
  fun_induction findAll r c fresh with
  | case1 => cases h
  | case2 c fresh m' hm hlt ih =>
    rcases List.mem_cons.1 h with rfl | h
    · exact exists_steps_of_findFrom hm
    · obtain ⟨u, v, hu, hv⟩ := (inside_of_findFrom hm).span
      obtain ⟨w, c', hw, hm'⟩ := ih h
      exact ⟨u ++ v ++ w, c', (hu.trans hv).trans hw, hm'⟩
  | case3 c fresh m' hm hlt c' hn ih =>
    rcases List.mem_append.1 h with h | h
    · split at h
      · rw [List.mem_singleton] at h
        exact exists_steps_of_findFrom (h ▸ hm)
      · cases h
    · obtain ⟨x, -, hx⟩ := Cursor.exists_steps_of_next? hn
      obtain ⟨u, c'', hu, hm'⟩ := ih h
      exact ⟨[x] ++ u, c'', hx.trans hu, hm'⟩
  | case4 c m' hm =>
    rw [List.mem_singleton] at h
    exact exists_steps_of_findFrom (h ▸ hm)
  | case5 => cases h

/-- All matches that are found lie after the position where the search begins. -/
theorem inside_of_mem_findAll {r : Regex} {c : Cursor} {fresh : Bool} {m : Match}
    (h : m ∈ r.findAll c fresh) : m.Inside c := by
  obtain ⟨u, c', hu, hm⟩ := exists_steps_of_mem_findAll h
  exact inside_of_matchAt hm hu

end Regex

end TripletFacts
