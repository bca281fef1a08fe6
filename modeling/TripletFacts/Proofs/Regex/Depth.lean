import TripletFacts.Proofs.Regex.Steps

/-!
# The depth of regular expressions

A group is read one level deeper than what is around it. The tree of an expression is nested at
least as deep as its groups, so that an expression can be read from any depth that its nesting does
not reach.

## Main definitions

* `Regex.Draft.nesting`: the nesting of a draft.

## Main results

* `Regex.nesting_le_of_readAlternatives`: the tree is nested at least as deep as the draft was.
* `Regex.readAlternatives_of_nesting_lt`: an expression is read in the same way from another depth.
-/

namespace TripletFacts.Regex

/-! ### Nesting -/

namespace Tree

theorem greatestNesting_le_iff {ts : List Tree} {n : Nat} :
    greatestNesting ts ≤ n ↔ ∀ t ∈ ts, t.nesting ≤ n := by
  induction ts with
  | nil => simp [greatestNesting]
  | cons t ts ih => rw [greatestNesting, Nat.max_le, ih, List.forall_mem_cons]

theorem greatestNesting_reverse (ts : List Tree) :
    greatestNesting ts.reverse = greatestNesting ts := by
  refine Nat.le_antisymm (greatestNesting_le_iff.2 fun t ht => ?_)
    (greatestNesting_le_iff.2 fun t ht => ?_)
  · exact greatestNesting_le_iff.1 (Nat.le_refl _) t (List.mem_reverse.1 ht)
  · exact greatestNesting_le_iff.1 (Nat.le_refl _) t (List.mem_reverse.2 ht)

theorem greatestNesting_le_nesting_sequence (ts : List Tree) :
    greatestNesting ts ≤ (sequence ts).nesting := by
  rcases ts with _ | ⟨t, _ | ⟨u, ts⟩⟩
  · exact Nat.zero_le _
  · exact Nat.max_le.2 ⟨Nat.le_refl _, Nat.zero_le _⟩
  · exact Nat.le_succ _

theorem greatestNesting_le_nesting_alternatives (ts : List Tree) :
    greatestNesting ts ≤ (alternatives ts).nesting := by
  rcases ts with _ | ⟨t, _ | ⟨u, ts⟩⟩
  · exact Nat.zero_le _
  · exact Nat.max_le.2 ⟨Nat.le_refl _, Nat.zero_le _⟩
  · exact Nat.le_succ _

end Tree

open TripletFacts.Regex.Tree

namespace Draft

/-- The greatest nesting of what a draft has. -/
def nesting (d : Draft) : Nat := max (greatestNesting d.branches) (greatestNesting d.parts)

theorem nesting_add (d : Draft) (t : Tree) : (d.add t).nesting = max t.nesting d.nesting := by
  simp only [nesting, add, greatestNesting]
  omega

theorem nesting_le_branch (d : Draft) : d.nesting ≤ d.branch.nesting := by
  have hparts := greatestNesting_le_nesting_sequence d.parts.reverse
  rw [greatestNesting_reverse] at hparts
  simp only [nesting, branch, greatestNesting]
  omega

theorem nesting_le_tree (d : Draft) : d.nesting ≤ d.tree.nesting := by
  have hbranches := greatestNesting_le_nesting_alternatives d.branch.branches.reverse
  rw [greatestNesting_reverse] at hbranches
  have hbranch : d.branch.nesting = greatestNesting d.branch.branches := Nat.max_zero _
  calc d.nesting ≤ d.branch.nesting := d.nesting_le_branch
    _ = greatestNesting d.branch.branches := hbranch
    _ ≤ d.tree.nesting := hbranches

theorem nesting_le_of_repeatLast? {d d' : Draft} {greedy : Bool} {b : Bounds}
    (h : d.repeatLast? greedy b = some d') : d.nesting ≤ d'.nesting := by
  unfold repeatLast? at h
  split at h
  · cases h
  · cases h
  · rename_i t parts hne hparts
    cases h
    simp only [nesting, hparts, greatestNesting, Tree.nesting]
    omega

end Draft

variable {s s' : Progress} {cs r : List Char} {n n' : Nat}

theorem nesting_le_of_close {group : Tree → Tree} {inside : Option (Tree × Opened × List Char)}
    (h : s.close group inside = some (s', r)) :
    s.draft.nesting ≤ s'.draft.nesting := by
  unfold Progress.close at h
  split at h
  · cases h
    rw [Draft.nesting_add]
    exact Nat.le_max_right _ _
  · cases h

theorem nesting_le_of_iterate {b : Bounds} (h : s.iterate b cs = some (s', r)) :
    s.draft.nesting ≤ s'.draft.nesting := by
  obtain ⟨d, hrepeat, heq⟩ := Option.map_eq_some_iff.1 h
  cases heq
  exact Draft.nesting_le_of_repeatLast? hrepeat

theorem nesting_le_of_step {inside : Inside} {c : Char} (h : s.step inside c cs = some (s', r)) :
    s.draft.nesting ≤ s'.draft.nesting := by
  have hadd (d : Draft) (t : Tree) : d.nesting ≤ (d.add t).nesting := by
    rw [Draft.nesting_add]
    exact Nat.le_max_right _ _
  unfold Progress.step at h
  split at h
  · cases h
    exact s.draft.nesting_le_branch
  · obtain ⟨⟨o, rest⟩, -, hbind⟩ := Option.bind_eq_some_iff.1 h
    obtain ⟨g, -, henter⟩ := Option.bind_eq_some_iff.1 hbind
    unfold Progress.enter at henter
    split at henter
    · cases henter
      exact hadd _ _
    · exact nesting_le_of_close henter
    · split at henter
      · cases henter
      · exact nesting_le_of_close henter
  case h_3 | h_4 | h_5 => exact nesting_le_of_iterate h
  · obtain ⟨_, -, hiterate⟩ := Option.bind_eq_some_iff.1 h
    exact nesting_le_of_iterate hiterate
  · obtain ⟨_, -, heq⟩ := Option.map_eq_some_iff.1 h
    cases heq
    exact hadd _ _

/-- A tree is nested at least as deep as the draft from which it is completed. -/
theorem nesting_le_of_readAlternatives {depth : Nat} {t : Tree} {opened : Opened}
    (h : readAlternatives depth n s.flags s.opened s.draft cs = some (t, opened, r)) :
    s.draft.nesting ≤ t.nesting := by
  induction n generalizing s cs with
  | zero => cases h
  | succ n ih =>
    cases hskip : s.flags.skip cs with
    | nil =>
      rw [readAlternatives_of_skip_eq_nil depth hskip] at h
      cases h
      exact s.draft.nesting_le_tree
    | cons c rest =>
      by_cases hc : c = ')'
      · subst hc
        rw [readAlternatives_of_skip_eq_close depth hskip] at h
        cases h
        exact s.draft.nesting_le_tree
      · rw [readAlternatives_of_skip_eq_cons depth hskip hc] at h
        obtain ⟨_, hstep, hrest⟩ := Option.bind_eq_some_iff.1 h
        exact Nat.le_trans (nesting_le_of_step hstep) (ih hrest)

/-! ### Depth -/

/-- A group is closed in the same way by another reader of insides that reads what is not nested too
deep in the same way. -/
theorem close_of_nesting {group : Tree → Tree} (hgroup : ∀ t, (group t).nesting = t.nesting + 1)
    {x y : Option (Tree × Opened × List Char)} (h : s.close group x = some (s', r))
    (hxy : ∀ t opened rest, x = some (t, opened, rest) → t.nesting < s'.draft.nesting → y = x) :
    s.close group y = some (s', r) := by
  rcases x with _ | ⟨t, opened, _ | ⟨c, rest⟩⟩
  · cases h
  · cases h
  · have hnesting : t.nesting < s'.draft.nesting := by
      unfold Progress.close at h
      split at h
      · rename_i heq
        cases heq
        cases h
        rw [Draft.nesting_add, hgroup]
        omega
      · cases h
    rw [hxy t opened (c :: rest) rfl hnesting]
    exact h

theorem step_of_nesting {inside inside' : Inside} {c : Char}
    (h : s.step inside c cs = some (s', r))
    (hinside : ∀ g ∈ inside, ∃ g' ∈ inside', ∀ f opened cs t opened' r,
      g f opened cs = some (t, opened', r) → t.nesting < s'.draft.nesting →
        g' f opened cs = some (t, opened', r)) :
    s.step inside' c cs = some (s', r) := by
  unfold Progress.step at h ⊢
  split at h
  · exact h
  · obtain ⟨⟨o, rest⟩, hopening, hbind⟩ := Option.bind_eq_some_iff.1 h
    obtain ⟨g, hg, henter⟩ := Option.bind_eq_some_iff.1 hbind
    obtain ⟨g', hg', hread⟩ := hinside g hg
    refine Option.bind_eq_some_iff.2 ⟨_, hopening, Option.bind_eq_some_iff.2 ⟨g', hg', ?_⟩⟩
    have hsame (f : Flags) (opened : Opened) (cs : List Char) (t : Tree) (opened' : Opened)
        (rest : List Char) (hx : g f opened cs = some (t, opened', rest))
        (hnesting : t.nesting < s'.draft.nesting) : g' f opened cs = g f opened cs :=
      (hread f opened cs t opened' rest hx hnesting).trans hx.symm
    unfold Progress.enter at henter ⊢
    split at henter
    · exact henter
    · exact close_of_nesting (fun _ => rfl) henter (hsame _ _ _)
    · split at henter
      · cases henter
      · rename_i hname
        rw [if_neg hname]
        exact close_of_nesting (fun _ => rfl) henter (hsame _ _ _)
  all_goals exact h

/-- An expression is read in the same way from another depth that its nesting does not reach, and
with more rounds. -/
theorem readAlternatives_of_nesting_lt {depth depth' : Nat} {t : Tree} {opened : Opened}
    (h : readAlternatives depth n s.flags s.opened s.draft cs = some (t, opened, r))
    (hnesting : t.nesting < depth') (hn : n ≤ n') :
    readAlternatives depth' n' s.flags s.opened s.draft cs = some (t, opened, r) := by
  induction n generalizing n' depth depth' s cs t opened r with
  | zero => cases h
  | succ n ih =>
    obtain _ | n' := n'
    · cases hn
    cases hskip : s.flags.skip cs with
    | nil =>
      rw [readAlternatives_of_skip_eq_nil depth hskip] at h
      rwa [readAlternatives_of_skip_eq_nil depth' hskip]
    | cons c rest =>
      by_cases hc : c = ')'
      · subst hc
        rw [readAlternatives_of_skip_eq_close depth hskip] at h
        rwa [readAlternatives_of_skip_eq_close depth' hskip]
      · rw [readAlternatives_of_skip_eq_cons depth hskip hc] at h
        rw [readAlternatives_of_skip_eq_cons depth' hskip hc]
        have hn : n ≤ n' := Nat.le_of_succ_le_succ hn
        obtain ⟨⟨s', rest'⟩, hstep, hrest⟩ := Option.bind_eq_some_iff.1 h
        -- an inside is nested less deep than its group, the group no deeper than the tree
        have hdraft := nesting_le_of_readAlternatives hrest
        refine Option.bind_eq_some_iff.2
          ⟨(s', rest'), step_of_nesting hstep fun g hg => ?_, ih hrest hnesting hn⟩
        obtain _ | inner := depth
        · cases hg
        obtain _ | inner' := depth'
        · cases hnesting
        cases hg
        refine ⟨_, rfl, fun f opened cs t' opened' r hread hlt => ?_⟩
        let inside : Progress := ⟨f, opened, .none⟩
        exact ih (s := inside) hread (by omega) hn

end TripletFacts.Regex
