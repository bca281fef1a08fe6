import TripletFacts.Proofs.Regex.ClosedSteps
import TripletFacts.Proofs.Regex.Depth

/-!
# Patterns between the ends of a text

A pattern that a whole text has to match is written between `^(?:` and `)$`. Unless it ends open or
has a parenthesis that closes nothing, these marks stay around it: the pattern is read as it is read
alone, and its tree is held between the tests of the two ends. Its text is then nested two levels
deeper.

## Main definitions

* `Regex.wholeText`, `Regex.Tree.whole`: the text and the tree of a pattern between the ends.
* `Regex.EndsOpen`, `Regex.HasStrayParenthesis`: texts from which the marks do not keep apart.

## Main results

* `Regex.read?_wholeText_of_read?`: a pattern that does not end open is held between the ends.
* `Regex.read_of_read?_wholeText`: the patterns for which there is a tree between the ends.
-/

namespace TripletFacts.Regex

/-- The tree of a pattern between the ends of a text. -/
def Tree.whole (t : Tree) : Tree := .seq [.look textStart, .hold t, .look textEnd]

theorem Tree.nesting_whole (t : Tree) : t.whole.nesting = t.nesting + 2 := by
  simp [Tree.whole, Tree.nesting, Tree.greatestNesting]

/-- The text of a pattern that a whole text has to match. -/
def wholeText (text : List Char) : List Char := "^(?:".toList ++ text ++ ")$".toList

/-- The alternatives of a text at the outermost level. -/
abbrev readOutermost (n : Nat) (cs : List Char) : Option (Tree × Opened × List Char) :=
  readAlternatives (maxNesting + 1) n {} ⟨0, []⟩ .none cs

/-- A text that ends open, in a group or in a comment: it can be read together with what is written
after it. -/
def EndsOpen (text : List Char) : Prop := ∃ t, Tree.read? (text ++ closing) = some t

/-- A text with a parenthesis that closes nothing. -/
def HasStrayParenthesis (text : List Char) : Prop :=
  ∃ t opened rest, readOutermost (text.length + 1) text = some (t, opened, ')' :: rest)

variable {text : List Char} {t w : Tree}

theorem read?_eq_some_iff : Tree.read? text = some t ↔
    ∃ opened, readOutermost (text.length + 1) text = some (t, opened, []) := by
  unfold Tree.read? readOutermost
  rcases readAlternatives (maxNesting + 1) (text.length + 1) {} ⟨0, []⟩ .none text with
    _ | ⟨t', opened, _ | ⟨c, rest⟩⟩ <;> simp

/-- The group between the ends is read one level deeper than the ends. -/
theorem read?_wholeText (text : List Char) : Tree.read? (wholeText text) =
    match readAlternatives maxNesting (text.length + 5) {} ⟨0, []⟩ .none (text ++ closing) with
    | some (t, opened, ')' :: rest) =>
      match readAlternatives (maxNesting + 1) (text.length + 5) {} opened
        ⟨[], [.hold t, .look textStart]⟩ rest with
      | some (w, _, []) => some w
      | _ => none
    | _ => none := by
  have hlength : (wholeText text).length + 1 = text.length + 5 + 2 := by simp [wholeText]
  have htext : wholeText text = '^' :: '(' :: '?' :: ':' :: (text ++ closing) := by
    simp [wholeText, closing]
  have hread : readAlternatives (maxNesting + 1) (text.length + 5 + 2) {} ⟨0, []⟩ .none
      ('^' :: '(' :: '?' :: ':' :: (text ++ closing)) =
      match readAlternatives maxNesting (text.length + 5) {} ⟨0, []⟩ .none (text ++ closing) with
      | some (t, opened, ')' :: rest) =>
        readAlternatives (maxNesting + 1) (text.length + 5) {} opened
          ⟨[], [.hold t, .look textStart]⟩ rest
      | _ => none := rfl
  rw [Tree.read?, hlength, htext, hread]
  rcases readAlternatives maxNesting (text.length + 5) {} ⟨0, []⟩ .none (text ++ closing) with
    _ | ⟨t, opened, _ | ⟨c, rest⟩⟩
  · rfl
  · rfl
  · by_cases hc : c = ')'
    · subst hc
      rfl
    · simp [hc]

/-- What is read of a text at the outermost level, with and without `closing` after it. -/
theorem agree_readOutermost (text : List Char) {n : Nat} (hn : text.length < n) :
    Agree giveTree (readOutermost (text.length + 1) text) (readOutermost n (text ++ closing)) :=
  agree_readAlternatives ⟨{}, ⟨0, []⟩, .none⟩ (maxNesting + 1) (Nat.lt_succ_self _) hn

/-- The same tree is read with `closing` after the text; `closing` is left, or belongs to a comment
in which the text ends. -/
theorem readOutermost_append_closing (h : Tree.read? text = some t) :
    ∃ opened r, (r = [] ∨ r = closing) ∧
      readOutermost ((text ++ closing).length + 1) (text ++ closing) = some (t, opened, r) := by
  obtain ⟨opened, hread⟩ := read?_eq_some_iff.1 h
  have hagree := agree_readOutermost text (n := (text ++ closing).length + 1)
    (by rw [List.length_append]; omega)
  rw [hread] at hagree
  -- the two readings are made variables, so that the cases are those in which the first one is `t`
  generalize readOutermost _ (text ++ closing) = closed at hagree ⊢
  generalize hgiven : some (t, opened, ([] : List Char)) = given at hagree
  cases hagree with
  | within v r =>
    cases hgiven
    exact ⟨_, closing, .inr rfl, rfl⟩
  | comment v =>
    cases hgiven
    exact ⟨_, [], .inl rfl, rfl⟩
  | beyond h => cases hgiven

/-- A pattern that does not end open, and is not nested too deep, is held between the ends. -/
theorem read?_wholeText_of_read? (h : Tree.read? text = some t) (hopen : ¬ EndsOpen text)
    (hnesting : t.nesting < maxNesting) : Tree.read? (wholeText text) = some t.whole := by
  obtain ⟨opened, r, rfl | rfl, hread⟩ := readOutermost_append_closing h
  · exact absurd ⟨t, read?_eq_some_iff.2 ⟨opened, hread⟩⟩ hopen
  · have hinside : readAlternatives maxNesting (text.length + 5) {} ⟨0, []⟩ .none
        (text ++ closing) = some (t, opened, closing) :=
      readAlternatives_of_nesting_lt (s := ⟨{}, ⟨0, []⟩, .none⟩) hread hnesting
        (by simp [closing])
    rw [read?_wholeText, hinside]
    rfl

/-- A pattern does not end open if something is left of what is written after it. -/
theorem not_endsOpen_of_readOutermost {n : Nat} {t' : Tree} {opened : Opened} {c : Char}
    {rest : List Char} (h : Tree.read? text = some t) (hnesting : t.nesting ≤ maxNesting)
    (hn : (text ++ closing).length < n)
    (hread : readOutermost n (text ++ closing) = some (t', opened, c :: rest)) :
    ¬ EndsOpen text := by
  rintro ⟨u, hu⟩
  obtain ⟨openedEnd, hend⟩ := read?_eq_some_iff.1 hu
  obtain ⟨openedTree, r, -, htree⟩ := readOutermost_append_closing h
  obtain rfl : u = t := by
    rw [htree] at hend
    cases hend
    rfl
  have hlonger : readOutermost n (text ++ closing) = some (u, openedEnd, []) :=
    readAlternatives_of_nesting_lt (s := ⟨{}, ⟨0, []⟩, .none⟩) hend
      (Nat.lt_succ_of_le hnesting) hn
  rw [hread] at hlonger
  cases hlonger

/-- What comes before a parenthesis that is left is the text, or only a part of it. -/
theorem read_of_readOutermost_append {n : Nat} {opened : Opened} {rest : List Char}
    (hn : text.length < n)
    (hread : readOutermost n (text ++ closing) = some (t, opened, ')' :: rest)) :
    (Tree.read? text = some t ∧ rest = ['$']) ∨
      (Tree.read? text = none ∧ HasStrayParenthesis text) := by
  have hagree := agree_readOutermost text hn
  rw [hread] at hagree
  generalize halone : readOutermost (text.length + 1) text = alone at hagree
  generalize hgiven : some (t, opened, ')' :: rest) = given at hagree
  cases hagree with
  | within v r =>
    rcases r with _ | ⟨c, r⟩
    · cases hgiven
      exact .inl ⟨read?_eq_some_iff.2 ⟨v.2, halone⟩, rfl⟩
    · cases hgiven
      exact .inr ⟨by simp [Tree.read?, halone], v.1, v.2, r, halone⟩
  | comment v => cases hgiven
  | beyond hleft =>
    -- a parenthesis would be left of what lies within `$`
    have hsuffix : ')' :: rest <:+ ['$'] := hleft (t, opened) (')' :: rest) hgiven.symm
    exact absurd (hsuffix.subset (List.mem_cons_self ..)) (by decide)

/-- The text between the ends is read up to the parenthesis that closes the group around it. -/
theorem exists_readOutermost_of_read?_wholeText (hw : Tree.read? (wholeText text) = some w)
    (hnesting : w.nesting ≤ maxNesting) :
    ∃ t opened rest opened', t.nesting < maxNesting ∧
      readOutermost (text.length + 5) (text ++ closing) = some (t, opened, ')' :: rest) ∧
      readAlternatives (maxNesting + 1) (text.length + 5) {} opened
        ⟨[], [.hold t, .look textStart]⟩ rest = some (w, opened', []) := by
  rw [read?_wholeText] at hw
  split at hw
  · rename_i t opened rest hinside
    split at hw
    · rename_i w' opened' houter
      cases hw
      have hdraft := nesting_le_of_readAlternatives
        (s := ⟨{}, opened, ⟨[], [.hold t, .look textStart]⟩⟩) houter
      have htree : t.nesting + 1 ≤ w.nesting := by
        refine Nat.le_trans ?_ hdraft
        simp [Draft.nesting, Tree.greatestNesting, Tree.nesting]
      exact ⟨t, opened, rest, opened', by omega, readAlternatives_of_nesting_lt
        (s := ⟨{}, ⟨0, []⟩, .none⟩) hinside (by omega) (Nat.le_refl _), houter⟩
    · cases hw
  · cases hw

/-- The patterns for which there is a tree between the ends: those that can be read and do not end
open, and those with a parenthesis that closes nothing, which closes the group between the ends. -/
theorem read_of_read?_wholeText (hw : Tree.read? (wholeText text) = some w)
    (hnesting : w.nesting ≤ maxNesting) :
    (∃ t, Tree.read? text = some t ∧ w = t.whole ∧ ¬ EndsOpen text) ∨
      (Tree.read? text = none ∧ HasStrayParenthesis text) := by
  obtain ⟨t, opened, rest, opened', ht, hread, houter⟩ :=
    exists_readOutermost_of_read?_wholeText hw hnesting
  rcases read_of_readOutermost_append (by omega) hread with ⟨halone, rfl⟩ | hstray
  · have hopen : ¬ EndsOpen text := not_endsOpen_of_readOutermost halone (Nat.le_of_lt ht)
      (by rw [List.length_append]; exact Nat.add_lt_add_left (by decide) _) hread
    have hwhole : some (t.whole, opened, []) = some (w, opened', []) := houter
    cases hwhole
    exact .inl ⟨t, halone, rfl, hopen⟩
  · exact .inr hstray

end TripletFacts.Regex
