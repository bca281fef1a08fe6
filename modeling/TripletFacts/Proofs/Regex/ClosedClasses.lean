import TripletFacts.Proofs.Regex.Classes

/-!
# Escapes and classes before a closing parenthesis

A text is read as the pattern of a whole text with `)$` after it. Every reader that takes a part of
the text leaves `)$` too; a reader for which the text ends too early does not, but what it then
leaves lies within `$`. Where comments are skipped there is a third case: the text ends in a
comment, which goes on to the end of `)$`.

## Main definitions

* `Regex.closing`: what is written after the text.
* `Regex.Agree`: what a reader makes of a text, and of the text with `closing` after it.

## Main results

* `Regex.Agree.bind`: readers one after the other.
* `Regex.agree_readEscape`, `Regex.agree_readBracket`: escapes and classes.
-/

namespace TripletFacts.Regex

/-- What is written after a pattern that a whole text has to match. -/
def closing : List Char := [')', '$']

theorem length_lt_append_closing (cs : List Char) : cs.length < (cs ++ closing).length + 1 := by
  rw [List.length_append]
  omega

/-- What a reader makes of a text, and what it makes of the text with `closing` after it. -/
inductive Agree {α β : Type} (give : α → List Char → β) : Option β → Option β → Prop
  | within (v : α) (r : List Char) : Agree give (some (give v r)) (some (give v (r ++ closing)))
  | comment (v : α) : Agree give (some (give v [])) (some (give v []))
  | beyond {o : Option β} (h : ∀ v r, o = some (give v r) → r <:+ closing.tail) :
      Agree give none o

section Agree

variable {α β γ : Type} {give : α → List Char → β}

theorem Agree.none : Agree give none none := .beyond nofun

theorem Agree.of_value (o : Option γ) (w : γ → α) (r : List Char) :
    Agree give (o.map fun u => give (w u) r) (o.map fun u => give (w u) (r ++ closing)) := by
  cases o with
  | none => exact .none
  | some u => exact .within (w u) r

theorem Agree.bind {x y : Option (γ × List Char)} (h : Agree Prod.mk x y)
    {k l : γ → List Char → Option β}
    (hwithin : ∀ v r, x = some (v, r) → Agree give (k v r) (l v (r ++ closing)))
    (hcomment : ∀ v, x = some (v, []) → Agree give (k v []) (l v []))
    (hbeyond : ∀ v r w r', l v r = some (give w r') → r' <:+ r) :
    Agree give (x.bind fun (v, r) => k v r) (y.bind fun (v, r) => l v r) := by
  cases h with
  | within v r => exact hwithin v r rfl
  | comment v => exact hcomment v rfl
  | beyond h =>
    refine .beyond fun w r' hw => ?_
    obtain ⟨⟨v, r⟩, hy, hk⟩ := Option.bind_eq_some_iff.1 hw
    exact (hbeyond v r w r' hk).trans (h v r hy)

/-- What is made of a value does not depend on what is left. -/
theorem Agree.select {δ : Type} {x y : Option (α × List Char)} (h : Agree Prod.mk x y)
    (g : α → Option γ) (w : γ → δ) :
    Agree Prod.mk (x.bind fun (v, r) => (g v).map fun u => (w u, r))
      (y.bind fun (v, r) => (g v).map fun u => (w u, r)) := by
  let give (v : α) (r : List Char) : Option (δ × List Char) := (g v).map fun u => (w u, r)
  refine h.bind (k := give) (l := give) (fun v r _ => .of_value (g v) w r) (fun v _ => ?_)
    (fun v r w r' hw => ?_)
  · dsimp only [give]
    cases g v with
    | none => exact .none
    | some u => exact .comment (w u)
  · obtain ⟨_, -, heq⟩ := Option.map_eq_some_iff.1 hw
    cases heq
    exact List.suffix_refl _

theorem Agree.map {x y : Option (α × List Char)} (h : Agree Prod.mk x y) (w : α → γ) :
    Agree Prod.mk (x.map fun (v, r) => (w v, r)) (y.map fun (v, r) => (w v, r)) := by
  have hbind (z : Option (α × List Char)) : z.map (fun (v, r) => (w v, r)) =
      z.bind fun (v, r) => (some v).map fun u => (w u, r) := by cases z <;> rfl
  rw [hbind, hbind]
  exact h.select some w

end Agree

variable {f : Flags} {cs r : List Char} {n n' : Nat}

/-- What is taken ends before what comes after the text. -/
theorem takeWhile_append_of_dropWhile_eq_cons {p : Char → Bool} {c : Char}
    (h : cs.dropWhile p = c :: r) (s : List Char) : (cs ++ s).takeWhile p = cs.takeWhile p := by
  have hlength := congrArg List.length (List.takeWhile_append_dropWhile (p := p) (l := cs))
  rw [h, List.length_append, List.length_cons] at hlength
  rw [List.takeWhile_append, if_neg (by omega)]

theorem dropWhile_isBlank_append (cs : List Char) :
    (cs ++ closing).dropWhile Unicode.isBlank = cs.dropWhile Unicode.isBlank ++ closing := by
  rw [List.dropWhile_append]
  split
  · rename_i h
    rw [List.isEmpty_iff.1 h]
    decide
  · rfl

theorem skipComments_nil (n : Nat) : skipComments n [] = [] := by
  cases n <;> rfl

theorem skipComments_of_comment (h : cs.dropWhile Unicode.isBlank = '#' :: r) :
    skipComments (n + 1) cs = skipComments n (r.dropWhile (· != '\n')) := by
  rw [skipComments, h]
  rfl

theorem skipComments_of_ne {c : Char} (h : cs.dropWhile Unicode.isBlank = c :: r) (hc : c ≠ '#') :
    skipComments (n + 1) cs = c :: r := by
  simp [skipComments, h, hc]

theorem skipComments_append (hn : cs.length < n) (hn' : cs.length < n') :
    skipComments n' (cs ++ closing) = skipComments n cs ++ closing ∨
      (skipComments n cs = [] ∧ skipComments n' (cs ++ closing) = []) := by
  induction n generalizing cs n' with
  | zero => cases hn
  | succ n ih =>
    obtain _ | n' := n'
    · cases hn'
    have hblanks := (List.dropWhile_suffix Unicode.isBlank (l := cs)).length_le
    have happend := dropWhile_isBlank_append cs
    cases hcs : cs.dropWhile Unicode.isBlank with
    | nil =>
      rw [hcs] at happend
      left
      rw [skipComments, skipComments, happend, hcs]
      rfl
    | cons c rest =>
      rw [hcs] at hblanks
      rw [hcs, List.cons_append] at happend
      by_cases hc : c = '#'
      · subst hc
        have hline := (List.dropWhile_suffix (· != '\n') (l := rest)).length_le
        rw [List.length_cons] at hblanks
        rw [skipComments_of_comment hcs, skipComments_of_comment happend, List.dropWhile_append]
        cases hrest : rest.dropWhile (· != '\n') with
        | nil => exact .inr ⟨skipComments_nil n, skipComments_nil n'⟩
        | cons d rest' =>
          rw [hrest] at hline
          exact ih (by omega) (by omega)
      · exact .inl ((skipComments_of_ne happend hc).trans
          (congrArg (· ++ closing) (skipComments_of_ne hcs hc).symm))

theorem Flags.skip_append (f : Flags) (cs : List Char) :
    f.skip (cs ++ closing) = f.skip cs ++ closing ∨
      (f.skip cs = [] ∧ f.skip (cs ++ closing) = []) := by
  unfold skip
  split
  · exact skipComments_append (Nat.lt_succ_self _) (length_lt_append_closing _)
  · exact .inl rfl

@[simp] theorem Flags.skip_nil (f : Flags) : f.skip [] = [] := by
  unfold skip
  split <;> rfl

/-! ### Escapes -/

theorem agree_readHexDigits (f : Flags) (n : Nat) (cs : List Char) :
    Agree Prod.mk (readHexDigits f n cs) (readHexDigits f n (cs ++ closing)) := by
  induction n generalizing cs with
  | zero => exact .within [] cs
  | succ n ih =>
    rw [readHexDigits, readHexDigits]
    rcases f.skip_append cs with h | ⟨h, h'⟩
    · rw [h]
      cases f.skip cs with
      | nil =>
        refine .beyond fun v r hread => ?_
        obtain ⟨⟨_, _⟩, hread, heq⟩ := Option.map_eq_some_iff.1 hread
        cases heq
        exact suffix_readHexDigits hread
      | cons c rest => exact (ih rest).map (c :: ·)
    · rw [h, h']
      exact .none

theorem agree_readBraced (hn : cs.length < n) (hn' : cs.length < n') :
    Agree Prod.mk (readBraced f n cs) (readBraced f n' (cs ++ closing)) := by
  induction n generalizing cs n' with
  | zero => cases hn
  | succ n ih =>
    obtain _ | n' := n'
    · cases hn'
    rw [readBraced, readBraced]
    rcases f.skip_append cs with h | ⟨h, h'⟩
    · rw [h]
      cases hcs : f.skip cs with
      | nil =>
        refine .beyond fun v r hread => ?_
        obtain ⟨⟨_, _⟩, hread, heq⟩ := Option.map_eq_some_iff.1 hread
        cases heq
        exact suffix_of_suffix_tail (suffix_readBraced hread)
      | cons c rest =>
        have := length_of_skip_eq_cons hcs
        by_cases hc : c = '\x7d'
        · subst hc
          exact .within [] rest
        · have hread := (ih (show rest.length < n by omega)
            (show rest.length < n' by omega)).map (c :: ·)
          simpa [hc] using hread
    · rw [h, h']
      exact .none

theorem agree_readCodePoint (f : Flags) (n : Nat) (cs : List Char) :
    Agree Prod.mk (readCodePoint f (n + 1) cs) (readCodePoint f (n + 1) (cs ++ closing)) := by
  have hdigits (l : List Char) (hcs : f.skip cs = l) (hcs' : f.skip (cs ++ closing) = l ++ closing)
      (hl : ∀ r, l ≠ '\x7b' :: r) (hl' : ∀ r, l ++ closing ≠ '\x7b' :: r) :
      Agree Prod.mk (readCodePoint f (n + 1) cs) (readCodePoint f (n + 1) (cs ++ closing)) := by
    rw [readCodePoint_of_ne (hcs ▸ hl), readCodePoint_of_ne (hcs' ▸ hl'), hcs, hcs']
    exact (agree_readHexDigits f (n + 1) l).select (digitsChar? f (n + 1)) id
  rcases f.skip_append cs with h | ⟨h, h'⟩
  · cases hcs : f.skip cs with
    | nil => exact hdigits [] hcs (by rw [h, hcs]) nofun (by simp [closing])
    | cons c rest =>
      rw [hcs] at h
      by_cases hc : c = '\x7b'
      · subst hc
        rw [readCodePoint_of_brace hcs, readCodePoint_of_brace h]
        exact (agree_readBraced (Nat.lt_succ_self _)
          (length_lt_append_closing _)).select hexChar? id
      · exact hdigits (c :: rest) hcs h (by simp [hc]) (by simp [hc])
  · rw [readCodePoint_of_ne (by simp [h]), readCodePoint_of_ne (by simp [h']), h, h']
    have hnone : readHexDigits f (n + 1) [] = none := by simp [readHexDigits]
    rw [hnone]
    exact .none

theorem agree_readNamedSet (f : Flags) (negated : Bool) (cs : List Char) :
    Agree Prod.mk (readNamedSet f negated cs) (readNamedSet f negated (cs ++ closing)) := by
  unfold readNamedSet
  dsimp only
  split
  · exact .none
  · rcases f.skip_append cs with h | ⟨h, h'⟩
    · rw [h]
      cases f.skip cs with
      | nil =>
        refine .beyond fun v r hread => ?_
        obtain ⟨_, -, heq⟩ := Option.map_eq_some_iff.1 hread
        cases heq
        exact List.suffix_refl _
      | cons c rest =>
        by_cases hc : c = '\x7b'
        · subst hc
          exact (agree_readBraced (Nat.lt_succ_self _)
            (length_lt_append_closing _)).select bracedSet? _
        · simpa [hc] using
            (Agree.of_value (Unicode.namedSet? (Unicode.plainName [c])) _ rest :
              Agree Prod.mk _ _)
    · rw [h, h']
      exact .none

theorem agree_readBoundaryName (f : Flags) (hn : cs.length < n) (hn' : cs.length < n') :
    Agree Prod.mk (some (readBoundaryName f n cs))
      (some (readBoundaryName f n' (cs ++ closing))) := by
  induction n generalizing cs n' with
  | zero => cases hn
  | succ n ih =>
    obtain _ | n' := n'
    · cases hn'
    rw [readBoundaryName, readBoundaryName]
    rcases f.skip_append cs with h | ⟨h, h'⟩
    · rw [h]
      cases hcs : f.skip cs with
      | nil => exact .within [] []
      | cons c rest =>
        have := length_of_skip_eq_cons hcs
        dsimp only [List.cons_append]
        split
        · exact (ih (show rest.length < n by omega) (show rest.length < n' by omega)).map (c :: ·)
        · exact .within [] (c :: rest)
    · rw [h, h']
      exact .comment []

theorem agree_readBoundary (f : Flags) (cs : List Char) :
    Agree Prod.mk (readBoundary f cs) (readBoundary f (cs ++ closing)) := by
  rcases cs with _ | ⟨c, cs⟩
  · exact .within _ []
  by_cases hc : c = '\x7b'
  · subst hc
    have hname := agree_readBoundaryName f (Nat.lt_succ_self cs.length)
      (length_lt_append_closing cs)
    rw [List.cons_append, readBoundary_of_brace, readBoundary_of_brace]
    revert hname
    generalize readBoundaryName f (cs.length + 1) cs = x
    generalize readBoundaryName f ((cs ++ closing).length + 1) (cs ++ closing) = y
    intro hname
    cases hname with
    | within name r =>
      rcases name with _ | ⟨d, name⟩
      · exact .within _ ('\x7b' :: cs)
      · rcases r with _ | ⟨e, r⟩
        · exact .none
        · by_cases he : e = '\x7d'
          · subst he
            exact .of_value (boundary? f (d :: name)) id r
          · simpa [closeBoundary, he] using Agree.none
    | comment name =>
      rcases name with _ | ⟨d, name⟩
      · exact .within _ ('\x7b' :: cs)
      · exact .none
  · rw [readBoundary_of_ne (by simp [hc]), readBoundary_of_ne (by simp [hc])]
    exact .within _ (c :: cs)

theorem agree_readLetter (f : Flags) (c : Char) (cs : List Char) :
    Agree Prod.mk (readLetter f c cs) (readLetter f c (cs ++ closing)) := by
  unfold readLetter
  split
  case h_9 => exact agree_readBoundary f cs
  case h_13 =>
    split
    · exact .within _ cs
    · exact .none
  all_goals exact .within _ cs

theorem agree_readEscape (f : Flags) (cs : List Char) :
    Agree Prod.mk (readEscape f cs) (readEscape f (cs ++ closing)) := by
  cases cs with
  | nil => exact .beyond fun _ _ hread => suffix_readEscape hread
  | cons c cs =>
    rw [List.cons_append]
    unfold readEscape
    dsimp only
    split
    case h_1 => exact (agree_readCodePoint f 1 cs).map Primitive.literal
    case h_2 => exact (agree_readCodePoint f 3 cs).map Primitive.literal
    case h_3 => exact (agree_readCodePoint f 7 cs).map Primitive.literal
    case h_4 => exact (agree_readNamedSet f false cs).map Primitive.set
    case h_5 => exact (agree_readNamedSet f true cs).map Primitive.set
    case h_6 =>
      split
      · exact .of_value (letterSet? f c) Primitive.set cs
      · exact agree_readLetter f c cs

/-! ### Classes -/

@[simp] theorem readSign_append (cs : List Char) :
    readSign (cs ++ closing) = ((readSign cs).1, (readSign cs).2 ++ closing) := by
  rcases cs with _ | ⟨c, cs⟩
  · rfl
  · by_cases hc : c = '^'
    · subst hc
      rfl
    · simp [readSign, hc]

theorem readAsciiSet_append (cs : List Char) : readAsciiSet (cs ++ closing) =
    (readAsciiSet cs).map fun (negated, s, rest) => (negated, s, rest ++ closing) := by
  rcases cs with _ | ⟨c, cs⟩
  · rfl
  by_cases hc : c = ':'
  · subst hc
    rw [List.cons_append, readAsciiSet_cons, readAsciiSet_cons, readSign_append]
    dsimp only
    generalize (readSign cs).2 = l
    rw [List.dropWhile_append]
    cases hdrop : l.dropWhile (· != ':') with
    | nil => rfl
    | cons d rest =>
      rw [takeWhile_append_of_dropWhile_eq_cons hdrop closing]
      rcases rest with _ | ⟨e, rest⟩
      · by_cases hd : d = ':' <;> simp [hd, closing]
      · by_cases hd : d = ':' <;> by_cases he : e = ']' <;>
          simp [hd, he, Option.map_map, Function.comp_def]
  · simp [readAsciiSet, hc]

theorem agree_readItem (f : Flags) (cs : List Char) :
    Agree Prod.mk (readItem f cs) (readItem f (cs ++ closing)) := by
  rcases cs with _ | ⟨c, cs⟩
  · exact .beyond fun _ _ hread => suffix_readItem hread
  by_cases hc : c = '\\'
  · subst hc
    exact agree_readEscape f cs
  · simpa [readItem, hc] using (Agree.within (Primitive.literal c) cs : Agree Prod.mk _ _)

theorem filter_isItem_eq_bind (f : Flags) (x : Option (Primitive × List Char)) :
    (x.filter fun item => item.1.isItem f) =
      x.bind fun (p, r) => ((some p).filter (Primitive.isItem f)).map fun p => (id p, r) := by
  rcases x with _ | ⟨p, r⟩
  · rfl
  · by_cases hp : p.isItem f = true <;> simp [Option.filter, hp]

theorem agree_readClassItem (f : Flags) (cs : List Char) :
    Agree Prod.mk (readClassItem f cs) (readClassItem f (cs ++ closing)) := by
  rw [readClassItem_eq, readClassItem_eq, filter_isItem_eq_bind, filter_isItem_eq_bind]
  exact (agree_readItem f cs).select (fun p => (some p).filter (Primitive.isItem f)) id

theorem agree_readHyphens (items : Items) (hn : cs.length < n) (hn' : cs.length < n') :
    Agree Prod.mk (some (readHyphens f n items cs))
      (some (readHyphens f n' items (cs ++ closing))) := by
  induction n generalizing cs n' items with
  | zero => cases hn
  | succ n ih =>
    obtain _ | n' := n'
    · cases hn'
    rw [readHyphens, readHyphens]
    rcases f.skip_append cs with h | ⟨h, h'⟩
    · rw [h]
      cases hcs : f.skip cs with
      | nil => exact .within items []
      | cons c rest =>
        have := length_of_skip_eq_cons hcs
        by_cases hc : c = '-'
        · subst hc
          exact ih _ (show rest.length < n by omega) (show rest.length < n' by omega)
        · simpa [hc] using (Agree.within items (c :: rest) : Agree Prod.mk _ _)
    · rw [h, h']
      exact .comment items

theorem agree_startItems {x y : Items × List Char} (h : Agree Prod.mk (some x) (some y)) :
    Agree Prod.mk (some (startItems x)) (some (startItems y)) := by
  cases h with
  | within items r =>
    rcases items with ⟨set, _ | count, nesting⟩
    · rcases r with _ | ⟨c, r⟩
      · exact .within _ []
      · by_cases hc : c = ']'
        · subst hc
          exact .within _ r
        · simpa [startItems, hc] using
            (Agree.within (⟨set, 0, nesting⟩ : Items) (c :: r) : Agree Prod.mk _ _)
    · exact .within _ r
  | comment items =>
    rcases items with ⟨set, _ | count, nesting⟩
    · exact .comment _
    · exact .comment _

theorem agree_readClassStart (f : Flags) (cs : List Char) :
    Agree (fun (v : Bool × Items) r => (v.1, v.2, r)) (some (readClassStart f cs))
      (some (readClassStart f (cs ++ closing))) := by
  have hpair {negated : Bool} {x y : Items × List Char} (h : Agree Prod.mk (some x) (some y)) :
      Agree (fun (v : Bool × Items) r => (v.1, v.2, r)) (some (negated, x))
        (some (negated, y)) := by
    cases h with
    | within items r => exact .within (negated, items) r
    | comment items => exact .comment (negated, items)
  rw [readClassStart_eq, readClassStart_eq]
  rcases f.skip_append cs with h | ⟨h, h'⟩
  · rw [h, readSign_append]
    exact hpair (agree_startItems
      (agree_readHyphens .none (Nat.lt_succ_self _) (length_lt_append_closing _)))
  · have hnil : readHyphens f 1 .none [] = (.none, []) := by simp [readHyphens]
    rw [h, h']
    change Agree _ (some (false, startItems (readHyphens f 1 .none [])))
      (some (false, startItems (readHyphens f 1 .none [])))
    rw [hnil]
    exact .comment (false, Items.none)

theorem agree_readRangeEnd (f : Flags) (first : Primitive) (cs : List Char) :
    Agree Prod.mk (readRangeEnd f first cs) (readRangeEnd f first (cs ++ closing)) := by
  unfold readRangeEnd
  rcases f.skip_append cs with h | ⟨h, h'⟩
  · rw [h]
    rcases f.skip cs with _ | ⟨c, rest⟩
    · exact (agree_readClassItem f []).select (rangeSet? f first) id
    · by_cases hclose : c = ']'
      · subst hclose
        exact .within _ ('-' :: cs)
      by_cases hminus : c = '-'
      · subst hminus
        exact .within _ ('-' :: cs)
      simpa [hclose, hminus] using
        (agree_readClassItem f (c :: rest)).select (rangeSet? f first) id
  · rw [h, h']
    exact .none

theorem agree_readRangeAfter (f : Flags) (first : Primitive) (cs : List Char) :
    Agree Prod.mk (readRangeAfter f first cs) (readRangeAfter f first (cs ++ closing)) := by
  unfold readRangeAfter
  rcases f.skip_append cs with h | ⟨h, h'⟩
  · rw [h]
    rcases f.skip cs with _ | ⟨c, rest⟩
    · exact .within _ []
    · by_cases hc : c = '-'
      · subst hc
        exact agree_readRangeEnd f first rest
      · simpa [hc] using (Agree.within (itemSet f first) (c :: rest) : Agree Prod.mk _ _)
  · rw [h, h']
    exact .comment _

theorem agree_readRange (f : Flags) (cs : List Char) :
    Agree Prod.mk (readRange f cs) (readRange f (cs ++ closing)) := by
  rw [readRange_eq, readRange_eq]
  refine (agree_readClassItem f cs).bind (fun first r _ => agree_readRangeAfter f first r)
    (fun first _ => ?_) fun first r s r' => suffix_readRangeAfter
  rw [readRangeAfter, f.skip_nil]
  exact .comment _

theorem operation?_append (cs : List Char) : operation? (cs ++ closing) =
    (operation? cs).map fun (op, rest) => (op, rest ++ closing) := by
  rcases cs with _ | ⟨c, _ | ⟨d, cs⟩⟩
  · rfl
  · simp [operation?, closing]
  · by_cases hand : c = '&' ∧ d = '&'
    · obtain ⟨rfl, rfl⟩ := hand
      rfl
    by_cases hminus : c = '-' ∧ d = '-'
    · obtain ⟨rfl, rfl⟩ := hminus
      rfl
    by_cases htilde : c = '~' ∧ d = '~'
    · obtain ⟨rfl, rfl⟩ := htilde
      rfl
    simp_all [operation?]

/-- What is read after a part of a class. -/
theorem agree_bind_readItems {α : Type} {x y : Option (α × List Char)} (h : Agree Prod.mk x y)
    (negated : Bool) (pending : Pending) (items : α → Items)
    (hitems : ∀ v r, x = some (v, r) → Agree Prod.mk (readItems f n negated pending (items v) r)
      (readItems f n' negated pending (items v) (r ++ closing))) :
    Agree Prod.mk (x.bind fun (v, r) => readItems f n negated pending (items v) r)
      (y.bind fun (v, r) => readItems f n' negated pending (items v) r) := by
  refine h.bind (k := fun v r => readItems f n negated pending (items v) r)
    (l := fun v r => readItems f n' negated pending (items v) r) hitems (fun v _ => ?_)
    (fun v r b r' hread => ?_)
  · rw [readItems_of_skip_eq_nil f.skip_nil, readItems_of_skip_eq_nil f.skip_nil]
    exact .none
  · exact (suffix_of_suffix_tail (suffix_readItems hread)).trans (f.suffix_skip r)

/-- A class from its beginning on. -/
theorem agree_readItems_readClassStart (f : Flags) (cs : List Char)
    (hitems : ∀ negated items r, r.length ≤ cs.length →
      Agree Prod.mk (readItems f n negated none items r)
        (readItems f n' negated none items (r ++ closing))) :
    Agree Prod.mk
      (readItems f n (readClassStart f cs).1 none (readClassStart f cs).2.1
        (readClassStart f cs).2.2)
      (readItems f n' (readClassStart f (cs ++ closing)).1 none
        (readClassStart f (cs ++ closing)).2.1 (readClassStart f (cs ++ closing)).2.2) := by
  have hstart := agree_readClassStart f cs
  have hle := (suffix_readClassStart f cs).length_le
  revert hstart hle
  generalize readClassStart f cs = x
  generalize readClassStart f (cs ++ closing) = y
  intro hstart hle
  cases hstart with
  | within v r => exact hitems v.1 v.2 r hle
  | comment v =>
    rw [readItems_of_skip_eq_nil f.skip_nil, readItems_of_skip_eq_nil f.skip_nil]
    exact .none

theorem agree_readItems {negated : Bool} {pending : Pending} {items : Items}
    (hn : cs.length < n) (hn' : cs.length < n') :
    Agree Prod.mk (readItems f n negated pending items cs)
      (readItems f n' negated pending items (cs ++ closing)) := by
  induction n generalizing cs n' negated pending items with
  | zero => cases hn
  | succ n ih =>
    obtain _ | n' := n'
    · cases hn'
    rcases f.skip_append cs with h | ⟨h, h'⟩
    · cases hskip : f.skip cs with
      | nil =>
        -- the class is not closed within the text, and what comes after it lies in `closing`
        rw [readItems_of_skip_eq_nil hskip]
        refine .beyond fun b r hread => ?_
        have hsuffix := suffix_readItems hread
        rwa [h, hskip] at hsuffix
      | cons c rest =>
        have hlength := length_of_skip_eq_cons hskip
        rw [hskip, List.cons_append] at h
        by_cases hclose : c = ']'
        · subst hclose
          rw [readItems_of_skip_eq_close hskip, readItems_of_skip_eq_close h]
          exact .of_value (signedSet? f negated (finishOperation pending items).set)
            (fun s => (⟨s, (finishOperation pending items).nesting + 1⟩ : Bracket)) rest
        by_cases hopen : c = '['
        · subst hopen
          rw [readItems_of_skip_eq_open hskip, readItems_of_skip_eq_open h, readAsciiSet_append]
          rcases hset : readAsciiSet rest with _ | ⟨sign, s, rest'⟩
          · refine agree_bind_readItems
              (agree_readItems_readClassStart f rest fun _ _ r hr => ih ?_ ?_) negated pending
              (fun b => items.add b.set b.nesting) fun b r hread => ?_
            · omega
            · omega
            · have hle := (suffix_readItems_readClassStart hread).length_le
              exact ih (by omega) (by omega)
          · have hset := (suffix_of_suffix_tail (suffix_readAsciiSet hset)).length_le
            dsimp only [Option.map_some]
            rcases signedSet? f sign (f.close s) with _ | s
            · exact .none
            · exact ih (by omega) (by omega)
        rw [readItems_of_skip_eq_cons hskip hclose hopen, readItems_of_skip_eq_cons h hclose hopen,
          ← List.cons_append, operation?_append]
        rcases hop : operation? (c :: rest) with _ | ⟨op, rest'⟩
        · refine agree_bind_readItems (agree_readRange f (c :: rest)) negated pending
            (fun s => items.add s 0) fun s r hread => ?_
          have hle : r.length ≤ rest.length := (suffix_readRange hread).length_le
          exact ih (by omega) (by omega)
        · have hle : rest'.length ≤ rest.length := (suffix_operation? hop).length_le
          exact ih (by omega) (by omega)
    · rw [readItems_of_skip_eq_nil h, readItems_of_skip_eq_nil h']
      exact .none

theorem agree_readBracket (f : Flags) (cs : List Char) :
    Agree Prod.mk (readBracket f cs) (readBracket f (cs ++ closing)) := by
  have hread (cs : List Char) : readBracket f cs =
      readItems f (cs.length + 1) (readClassStart f cs).1 none (readClassStart f cs).2.1
        (readClassStart f cs).2.2 := rfl
  rw [hread, hread]
  refine agree_readItems_readClassStart f cs fun negated items r hr => ?_
  exact agree_readItems (Nat.lt_succ_of_le hr)
    (Nat.lt_of_le_of_lt hr (length_lt_append_closing cs))

end TripletFacts.Regex
