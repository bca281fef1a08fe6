import TripletFacts.Proofs.Regex.ClosedClasses
import TripletFacts.Proofs.Regex.Steps

/-!
# Regular expressions before a closing parenthesis

What is read of the alternatives of an expression does not depend on a `)$` after it, and a
parenthesis that closes nothing ends the alternatives wherever it stands.

## Main results

* `Regex.agree_step`: a step, where the readers of the insides of groups agree.
* `Regex.agree_readAlternatives`: alternatives, for any number of steps that suffices.
-/

namespace TripletFacts.Regex

variable {f : Flags} {cs r : List Char} {n n' : Nat}

/-! ### Repetitions and groups -/

theorem agree_readDigits (hn : cs.length ≤ n) (hn' : cs.length ≤ n') :
    Agree Prod.mk (some (readDigits f n cs)) (some (readDigits f n' (cs ++ closing))) := by
  induction n generalizing cs n' with
  | zero =>
    obtain rfl := List.eq_nil_of_length_eq_zero (Nat.le_zero.1 hn)
    cases n' <;> exact .within [] []
  | succ n ih =>
    rcases cs with _ | ⟨c, cs⟩
    · cases n' <;> exact .within [] []
    obtain _ | n' := n'
    · cases hn'
    rw [List.cons_append, readDigits, readDigits]
    dsimp only
    split
    · have := (f.suffix_skip cs).length_le
      rw [List.length_cons] at hn hn'
      rcases f.skip_append cs with h | ⟨h, h'⟩
      · rw [h]
        exact (ih (by omega) (by omega)).map (c :: ·)
      · have hnil (k : Nat) : readDigits f k [] = ([], []) := by cases k <;> rfl
        rw [h, h', hnil, hnil]
        exact .comment [c]
    · exact .within [] (c :: cs)

theorem agree_readBound (f : Flags) (cs : List Char) :
    Agree Prod.mk (readBound f cs) (readBound f (cs ++ closing)) := by
  rw [readBound_eq, readBound_eq, dropWhile_isBlank_append]
  have hblanks := (List.dropWhile_suffix Unicode.isBlank (l := cs)).length_le
  have hblanks' : (cs.dropWhile Unicode.isBlank).length ≤ (cs ++ closing).length := by
    rw [List.length_append]
    omega
  let bound (digits r : List Char) : Option (Nat × List Char) :=
    (boundOf? digits).map (·, f.skip (r.dropWhile Unicode.isBlank))
  refine (agree_readDigits hblanks hblanks').bind (k := bound) (l := bound) (fun digits r _ => ?_)
    (fun digits _ => ?_) fun digits r v r' hread => ?_
  · dsimp only [bound]
    rw [dropWhile_isBlank_append]
    rcases f.skip_append (r.dropWhile Unicode.isBlank) with h | ⟨h, h'⟩
    · rw [h]
      exact .of_value (boundOf? digits) id _
    · rw [h, h']
      cases boundOf? digits with
      | none => exact .none
      | some v => exact .comment v
  · dsimp only [bound]
    rw [List.dropWhile_nil, f.skip_nil]
    cases boundOf? digits with
    | none => exact .none
    | some v => exact .comment v
  · obtain ⟨_, -, heq⟩ := Option.map_eq_some_iff.1 hread
    cases heq
    exact (f.suffix_skip _).trans (List.dropWhile_suffix _)

theorem agree_closeMost (least most : Nat) (cs : List Char) :
    Agree Prod.mk (closeMost least most cs) (closeMost least most (cs ++ closing)) := by
  rcases cs with _ | ⟨c, cs⟩
  · exact .none
  by_cases hc : c = '\x7d'
  · subst hc
    by_cases hle : least ≤ most <;> simp only [closeMost, List.cons_append, hle, if_true, if_false]
    · exact .within _ cs
    · exact .none
  · simpa [closeMost, hc] using Agree.none

theorem agree_bind_closeMost (f : Flags) (least : Nat) (cs : List Char) : Agree Prod.mk
    ((readBound f cs).bind fun (most, rest) => closeMost least most rest)
    ((readBound f (cs ++ closing)).bind fun (most, rest) => closeMost least most rest) :=
  (agree_readBound f cs).bind (fun most r _ => agree_closeMost least most r) (fun _ _ => .none)
    fun _ _ _ _ hread => suffix_closeMost hread

theorem agree_readMost (f : Flags) (least : Nat) (cs : List Char) :
    Agree Prod.mk (readMost f least cs) (readMost f least (cs ++ closing)) := by
  unfold readMost
  rcases f.skip_append cs with h | ⟨h, h'⟩
  · rw [h]
    rcases f.skip cs with _ | ⟨c, rest⟩
    · exact agree_bind_closeMost f least []
    · by_cases hc : c = '\x7d'
      · subst hc
        exact .within _ rest
      · simpa [hc] using agree_bind_closeMost f least (c :: rest)
  · rw [h, h']
    exact .none

theorem agree_closeBounds (f : Flags) (least : Nat) (cs : List Char) :
    Agree Prod.mk (closeBounds f least cs) (closeBounds f least (cs ++ closing)) := by
  rcases cs with _ | ⟨c, cs⟩
  · exact .none
  by_cases hclose : c = '\x7d'
  · subst hclose
    exact .within _ cs
  by_cases hcomma : c = ','
  · subst hcomma
    exact agree_readMost f least cs
  · simpa [closeBounds, hclose, hcomma] using Agree.none

theorem agree_bind_closeBounds (f : Flags) (cs : List Char) : Agree Prod.mk
    ((readBound f cs).bind fun (least, rest) => closeBounds f least rest)
    ((readBound f (cs ++ closing)).bind fun (least, rest) => closeBounds f least rest) :=
  (agree_readBound f cs).bind (fun least r _ => agree_closeBounds f least r)
    (fun _ _ => .none) fun _ _ _ _ hread => suffix_closeBounds hread

theorem agree_readBounds (f : Flags) (cs : List Char) :
    Agree Prod.mk (readBounds f cs) (readBounds f (cs ++ closing)) := by
  rw [readBounds_eq, readBounds_eq]
  rcases f.skip_append cs with h | ⟨h, h'⟩
  · rw [h]
    exact agree_bind_closeBounds f (f.skip cs)
  · rw [h, h']
    exact .none

theorem readLazy_append (cs : List Char) :
    readLazy (cs ++ closing) = ((readLazy cs).1, (readLazy cs).2 ++ closing) := by
  rcases cs with _ | ⟨c, cs⟩
  · rfl
  by_cases hc : c = '?'
  · subst hc
    rfl
  · simp [readLazy, hc]

theorem agree_readFlags (f : Flags) (on : Bool) (seen : List Char) (dangling : Bool)
    (cs : List Char) : Agree Prod.mk (readFlags f on seen dangling cs)
      (readFlags f on seen dangling (cs ++ closing)) := by
  induction cs generalizing f on seen dangling with
  | nil => exact .beyond fun _ _ hread => suffix_readFlags hread
  | cons c cs ih =>
    rw [List.cons_append]
    by_cases hhold : c = ':'
    · subst hhold
      cases dangling
      · exact .within _ cs
      · exact .none
    by_cases hclose : c = ')'
    · subst hclose
      by_cases hset : (dangling || (seen.isEmpty && on)) = true <;> simp only [readFlags, hset]
      · exact .none
      · exact .within _ cs
    by_cases hminus : c = '-'
    · subst hminus
      cases on
      · exact .none
      · exact ih f false seen true
    by_cases hseen : c ∈ seen
    · simpa [readFlags, hhold, hclose, hminus, hseen] using Agree.none
    cases hset : f.set? on c with
    | none => simpa [readFlags, hhold, hclose, hminus, hseen, hset] using Agree.none
    | some g =>
      simpa [readFlags, hhold, hclose, hminus, hseen, hset] using ih g on (c :: seen) false

theorem agree_readName (cs : List Char) :
    Agree Prod.mk (readName cs) (readName (cs ++ closing)) := by
  rw [readName_eq, readName_eq, List.dropWhile_append]
  cases hdrop : cs.dropWhile (· != '>') with
  | nil => exact .none
  | cons d rest =>
    have htake : (cs ++ closing).takeWhile (· != '>') = cs.takeWhile (· != '>') :=
      takeWhile_append_of_dropWhile_eq_cons hdrop closing
    rw [htake]
    cases isGroupName (cs.takeWhile (· != '>'))
    · exact .none
    · exact .within _ rest

theorem agree_map_readName (cs : List Char) : Agree Prod.mk
    ((readName cs).map fun (n, rest) => (Opening.capture (some n), rest))
    ((readName (cs ++ closing)).map fun (n, rest) => (Opening.capture (some n), rest)) :=
  (agree_readName cs).map fun n => Opening.capture (some n)

theorem agree_readMark (f : Flags) (cs : List Char) :
    Agree Prod.mk (readMark f cs) (readMark f (cs ++ closing)) := by
  have hflags := agree_readFlags f true [] false cs
  rcases cs with _ | ⟨c, cs⟩
  · exact hflags
  by_cases hlook : c = '=' ∨ c = '!'
  · rcases hlook with rfl | rfl <;> exact .none
  by_cases hangle : c = '<'
  · subst hangle
    rcases cs with _ | ⟨d, cs⟩
    · exact agree_map_readName []
    by_cases hd : d = '=' ∨ d = '!'
    · rcases hd with rfl | rfl <;> exact .none
    · simpa [readMark, not_or.1 hd] using agree_map_readName (d :: cs)
  by_cases hp : c = 'P'
  · subst hp
    rcases cs with _ | ⟨d, cs⟩
    · exact hflags
    by_cases hd : d = '<'
    · subst hd
      exact agree_map_readName cs
    · simpa [readMark, hd] using hflags
  · simpa [readMark, not_or.1 hlook, hangle, hp] using hflags

theorem agree_readOpening (f : Flags) (cs : List Char) :
    Agree Prod.mk (readOpening f cs) (readOpening f (cs ++ closing)) := by
  rcases f.skip_append cs with h | ⟨h, h'⟩
  · cases hskip : f.skip cs with
    | nil =>
      rw [hskip, List.nil_append] at h
      rw [readOpening_of_ne (by simp [hskip]), readOpening_of_ne (by rw [h]; exact nofun), h, hskip]
      exact .within _ []
    | cons c rest =>
      rw [hskip] at h
      by_cases hc : c = '?'
      · subst hc
        rw [readOpening_of_mark hskip, readOpening_of_mark h]
        exact agree_readMark f rest
      · rw [readOpening_of_ne (by simp [hskip, hc]), readOpening_of_ne (by simp [h, hc]), h, hskip]
        exact .within _ (c :: rest)
  · rw [readOpening_of_ne (by simp [h]), readOpening_of_ne (by simp [h']), h, h']
    exact .comment _

/-! ### Alternatives -/

/-- What a reader of alternatives gives. -/
abbrev giveTree (v : Tree × Opened) (r : List Char) : Tree × Opened × List Char := (v.1, v.2, r)

/-- Readers of insides of groups that agree on texts up to a length. -/
structure AgreeUpTo (n : Nat)
    (g g' : Flags → Opened → List Char → Option (Tree × Opened × List Char)) : Prop where
  within : ∀ f opened cs, cs.length ≤ n →
    Agree giveTree (g f opened cs) (g' f opened (cs ++ closing))
  comment : ∀ f opened, Agree giveTree (g f opened []) (g' f opened [])

/-- There are readers of insides of groups on both sides, or on none. -/
inductive Inside.Agrees (n : Nat) : Inside → Inside → Prop
  | none : Agrees n none none
  | some {g g' : Flags → Opened → List Char → Option (Tree × Opened × List Char)}
      (h : AgreeUpTo n g g') : Agrees n (some g) (some g')

variable {s : Progress}

theorem agree_close {group : Tree → Tree} {x y : Option (Tree × Opened × List Char)}
    (h : Agree giveTree x y) : Agree Prod.mk (s.close group x) (s.close group y) := by
  cases h with
  | within v r =>
    rcases r with _ | ⟨c, r⟩
    · refine .beyond fun s' r' hclose => suffix_close hclose fun t opened rest heq => ?_
      cases heq
      exact List.suffix_refl _
    · by_cases hc : c = ')'
      · subst hc
        exact .within _ r
      · simpa [Progress.close, hc] using Agree.none
  | comment v => exact .none
  | beyond h =>
    exact .beyond fun s' r hclose => suffix_of_suffix_tail <|
      suffix_close hclose fun t opened rest heq => h (t, opened) rest heq

theorem agree_iterate (s : Progress) (b : Bounds) (cs : List Char) :
    Agree Prod.mk (s.iterate b cs) (s.iterate b (cs ++ closing)) := by
  rw [Progress.iterate, Progress.iterate, readLazy_append]
  exact .of_value _ (fun d => ({ s with draft := d } : Progress)) _

theorem agree_iterate_nil (s : Progress) (b : Bounds) :
    Agree Prod.mk (s.iterate b []) (s.iterate b []) := by
  rw [Progress.iterate]
  cases s.draft.repeatLast? _ b with
  | none => exact .none
  | some d => exact .comment ({ s with draft := d } : Progress)

theorem agree_readSingle (f : Flags) (c : Char) (cs : List Char) :
    Agree Prod.mk (Progress.readSingle f c cs) (Progress.readSingle f c (cs ++ closing)) := by
  unfold Progress.readSingle
  split
  · exact (agree_readBracket f cs).map fun b => Tree.set b.set b.nesting
  · exact (agree_readEscape f cs).map fun p => p.tree f
  · split
    · exact .none
    · exact .within _ cs
  all_goals exact .within _ cs

theorem agree_enter {g g' : Flags → Opened → List Char → Option (Tree × Opened × List Char)}
    (h : AgreeUpTo n g g') (o : Opening) (hcs : cs.length ≤ n) :
    Agree Prod.mk (s.enter g o cs) (s.enter g' o (cs ++ closing)) := by
  cases o with
  | setFlags f => exact .within _ cs
  | hold f => exact agree_close (h.within _ _ cs hcs)
  | capture name =>
    dsimp only [Progress.enter]
    split
    · exact .none
    · exact agree_close (h.within _ _ cs hcs)

theorem agree_enter_nil {g g' : Flags → Opened → List Char → Option (Tree × Opened × List Char)}
    (h : AgreeUpTo n g g') (o : Opening) : Agree Prod.mk (s.enter g o []) (s.enter g' o []) := by
  cases o with
  | setFlags f => exact .comment _
  | hold f => exact agree_close (h.comment _ _)
  | capture name =>
    dsimp only [Progress.enter]
    split
    · exact .none
    · exact agree_close (h.comment _ _)

/-- There are no groups where there is no reader of their insides. -/
theorem bind_enter_none (o : Option (Opening × List Char)) :
    (o.bind fun (o, rest) => Option.bind none fun inside => s.enter inside o rest) = none := by
  cases o <;> rfl

/-- A part is read in the same way with `closing` after the text if the insides of groups are. -/
theorem agree_step {inside inside' : Inside} (h : inside.Agrees cs.length inside')
    (hleaves : inside'.Leaves) (c : Char) :
    Agree Prod.mk (s.step inside c cs) (s.step inside' c (cs ++ closing)) := by
  unfold Progress.step
  split
  · exact .within _ cs
  · cases h with
    | none =>
      rw [bind_enter_none, bind_enter_none]
      exact .none
    | @some g g' h =>
      refine (agree_readOpening s.flags cs).bind (k := fun o rest => s.enter g o rest)
        (l := fun o rest => s.enter g' o rest) (fun o r ho => ?_) (fun o _ => agree_enter_nil h o)
        fun o r s' r' henter => suffix_enter hleaves rfl henter
      exact agree_enter h o (suffix_readOpening ho).length_le
  case h_3 | h_4 | h_5 => exact agree_iterate s _ cs
  · refine (agree_readBounds s.flags cs).bind (k := fun b rest => s.iterate b (s.flags.skip rest))
      (l := fun b rest => s.iterate b (s.flags.skip rest)) (fun b r _ => ?_) (fun b _ => ?_)
      fun b r s' r' hread => (suffix_iterate hread).trans (s.flags.suffix_skip r)
    · rcases s.flags.skip_append r with h | ⟨h, h'⟩
      · rw [h]
        exact agree_iterate s b (s.flags.skip r)
      · rw [h, h']
        exact agree_iterate_nil s b
    · rw [s.flags.skip_nil]
      exact agree_iterate_nil s b
  · exact (agree_readSingle s.flags c cs).map s.add

theorem agree_readAlternatives_nil (s : Progress) (depth : Nat) (hn : 0 < n) (hn' : 0 < n') :
    Agree giveTree (readAlternatives depth n s.flags s.opened s.draft [])
      (readAlternatives depth n' s.flags s.opened s.draft []) := by
  obtain ⟨m, rfl⟩ : ∃ m, n = m + 1 := ⟨n - 1, by omega⟩
  obtain ⟨m', rfl⟩ : ∃ m', n' = m' + 1 := ⟨n' - 1, by omega⟩
  rw [readAlternatives_of_skip_eq_nil depth s.flags.skip_nil,
    readAlternatives_of_skip_eq_nil depth s.flags.skip_nil]
  exact .comment (s.draft.tree, s.opened)

/-- Alternatives are read in the same way with `closing` after them, at any depth and however many
rounds are left, as long as there are enough of them. -/
theorem agree_readAlternatives (s : Progress) (depth : Nat) (hn : cs.length < n)
    (hn' : cs.length < n') :
    Agree giveTree (readAlternatives depth n s.flags s.opened s.draft cs)
      (readAlternatives depth n' s.flags s.opened s.draft (cs ++ closing)) := by
  induction n generalizing cs n' depth s with
  | zero => cases hn
  | succ n ih =>
    obtain _ | n' := n'
    · cases hn'
    rcases s.flags.skip_append cs with h | ⟨h, h'⟩
    · cases hskip : s.flags.skip cs with
      | nil =>
        rw [hskip] at h
        rw [readAlternatives_of_skip_eq_nil depth hskip, readAlternatives_of_skip_eq_close depth h]
        exact .within (s.draft.tree, s.opened) []
      | cons c rest =>
        rw [hskip, List.cons_append] at h
        by_cases hc : c = ')'
        · subst hc
          rw [readAlternatives_of_skip_eq_close depth hskip,
            readAlternatives_of_skip_eq_close depth h]
          exact .within (s.draft.tree, s.opened) (')' :: rest)
        rw [readAlternatives_of_skip_eq_cons depth hskip hc,
          readAlternatives_of_skip_eq_cons depth h hc]
        -- insides of groups are shorter, and so is what comes after a part
        have hlength := length_of_skip_eq_cons hskip
        have hnil (s : Progress) (depth : Nat) :
            Agree giveTree (readAlternatives depth n s.flags s.opened s.draft [])
              (readAlternatives depth n' s.flags s.opened s.draft []) :=
          agree_readAlternatives_nil s depth (by omega) (by omega)
        have hinside : (insideOf n depth).Agrees rest.length (insideOf n' depth) := by
          cases depth with
          | zero => exact .none
          | succ depth =>
            exact .some ⟨fun f opened cs hcs => ih ⟨f, opened, .none⟩ depth (by omega) (by omega),
              fun f opened => hnil ⟨f, opened, .none⟩ depth⟩
        refine (agree_step hinside (leaves_insideOf n' depth) c).bind
          (k := fun s rest => readAlternatives depth n s.flags s.opened s.draft rest)
          (l := fun s rest => readAlternatives depth n' s.flags s.opened s.draft rest)
          (fun s' r hstep => ?_) (fun s' _ => hnil s' depth)
          fun s' r v r' hread => suffix_readAlternatives hread
        have := (suffix_step (leaves_insideOf n depth) hstep).length_le
        exact ih s' depth (by omega) (by omega)
    · rw [readAlternatives_of_skip_eq_nil depth h, readAlternatives_of_skip_eq_nil depth h']
      exact .comment (s.draft.tree, s.opened)

end TripletFacts.Regex
