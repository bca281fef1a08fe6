import TripletFacts.Proofs.Regex.Classes
import TripletFacts.Regex.Reader

/-!
# Regular expressions step by step

The alternatives of an expression are read in steps, one for each part: a step takes a character
with what belongs to it, and changes the flags, the groups that have been opened and the draft. What
it takes is a repetition, a group or a single part.

## Main definitions

* `Regex.Progress`, `Regex.Progress.step`: how far an expression has been read, and a step.
* `Regex.insideOf`: the reader of the insides of groups at a depth.

## Main results

* `Regex.readAlternatives_of_skip_eq_cons`: alternatives are read step by step.
* `Regex.suffix_readAlternatives`: what is left is an end of what there was.
-/

namespace TripletFacts.Regex

variable {f : Flags} {cs r : List Char} {n : Nat}

/-! ### Repetitions -/

theorem suffix_readDigits (f : Flags) (n : Nat) (cs : List Char) :
    (readDigits f n cs).2 <:+ cs := by
  induction n generalizing cs with
  | zero => exact List.suffix_refl cs
  | succ n ih =>
    unfold readDigits
    split
    · rename_i c rest
      split
      · calc (readDigits f n (f.skip rest)).2 <:+ f.skip rest := ih _
          _ <:+ rest := f.suffix_skip rest
          _ <:+ c :: rest := List.suffix_cons _ _
      · exact List.suffix_refl _
    · exact List.suffix_refl _

/-- The bound that digits stand for. -/
def boundOf? (digits : List Char) : Option Nat :=
  if digits.isEmpty || maxBound < digitsValue digits then none else some (digitsValue digits)

theorem readBound_eq (f : Flags) (cs : List Char) : readBound f cs =
    (some (readDigits f cs.length (cs.dropWhile Unicode.isBlank))).bind fun (digits, rest) =>
      (boundOf? digits).map (·, f.skip (rest.dropWhile Unicode.isBlank)) := by
  unfold readBound boundOf?
  dsimp only [Option.bind_some]
  split <;> rfl

theorem suffix_readBound {v : Nat} (h : readBound f cs = some (v, r)) : r <:+ cs := by
  rw [readBound_eq] at h
  obtain ⟨⟨_, _⟩, hdigits, hmap⟩ := Option.bind_eq_some_iff.1 h
  obtain ⟨_, -, heq⟩ := Option.map_eq_some_iff.1 hmap
  have hread := suffix_readDigits f cs.length (cs.dropWhile Unicode.isBlank)
  rw [Option.some.inj hdigits] at hread
  cases heq
  calc _ <:+ _ := f.suffix_skip _
    _ <:+ _ := List.dropWhile_suffix _
    _ <:+ _ := hread
    _ <:+ cs := List.dropWhile_suffix _

/-- The end of bounds after the greatest one. -/
def closeMost (least most : Nat) : List Char → Option (Bounds × List Char)
  | '\x7d' :: rest => if least ≤ most then some (⟨least, some most⟩, rest) else none
  | _ => none

/-- The end of bounds after a comma: the greatest one, if there is one. -/
def readMost (f : Flags) (least : Nat) (cs : List Char) : Option (Bounds × List Char) :=
  match f.skip cs with
  | '\x7d' :: rest => some (⟨least, none⟩, rest)
  | rest => (readBound f rest).bind fun (most, rest) => closeMost least most rest

/-- The end of bounds after the least one. -/
def closeBounds (f : Flags) (least : Nat) : List Char → Option (Bounds × List Char)
  | '\x7d' :: rest => some (⟨least, some least⟩, rest)
  | ',' :: rest => readMost f least rest
  | _ => none

theorem match_most_eq (f : Flags) (least : Nat) (cs : List Char) :
    (match readBound f cs with
      | some (most, '\x7d' :: rest) =>
        if least ≤ most then some (⟨least, some most⟩, rest) else none
      | _ => none) = (readBound f cs).bind fun (most, rest) => closeMost least most rest := by
  rcases readBound f cs with _ | ⟨most, _ | ⟨c, rest⟩⟩
  · rfl
  · rfl
  · by_cases hc : c = '\x7d'
    · subst hc
      rfl
    · simp [closeMost, hc]

theorem match_comma_eq (f : Flags) (least : Nat) (cs : List Char) :
    (match f.skip cs with
      | '\x7d' :: rest => some (⟨least, none⟩, rest)
      | rest =>
        match readBound f rest with
        | some (most, '\x7d' :: rest) =>
          if least ≤ most then some (⟨least, some most⟩, rest) else none
        | _ => none) = readMost f least cs := by
  unfold readMost
  split
  · rfl
  · exact match_most_eq f least _

theorem readBounds_eq (f : Flags) (cs : List Char) : readBounds f cs =
    (readBound f (f.skip cs)).bind fun (least, rest) => closeBounds f least rest := by
  rw [readBounds]
  rcases readBound f (f.skip cs) with _ | ⟨least, _ | ⟨c, rest⟩⟩
  · rfl
  · rfl
  · by_cases hclose : c = '\x7d'
    · subst hclose
      rfl
    by_cases hc : c = ','
    · subst hc
      exact match_comma_eq f least rest
    · simp [closeBounds, hclose, hc]

theorem suffix_closeMost {least most : Nat} {b : Bounds}
    (h : closeMost least most cs = some (b, r)) : r <:+ cs := by
  unfold closeMost at h
  split at h
  · split at h <;> cases h
    exact List.suffix_cons _ _
  · cases h

theorem suffix_readMost {least : Nat} {b : Bounds} (h : readMost f least cs = some (b, r)) :
    r <:+ cs := by
  have hskip := f.suffix_skip cs
  unfold readMost at h
  split at h
  · rename_i heq
    cases h
    exact suffix_of_suffix_tail (suffix_of_skip_eq_cons heq)
  · obtain ⟨⟨_, _⟩, hread, hclose⟩ := Option.bind_eq_some_iff.1 h
    exact (suffix_closeMost hclose).trans ((suffix_readBound hread).trans hskip)

theorem suffix_closeBounds {least : Nat} {b : Bounds}
    (h : closeBounds f least cs = some (b, r)) : r <:+ cs := by
  unfold closeBounds at h
  split at h
  · cases h
    exact List.suffix_cons _ _
  · exact (suffix_readMost h).trans (List.suffix_cons _ _)
  · cases h

theorem suffix_readBounds {b : Bounds} (h : readBounds f cs = some (b, r)) : r <:+ cs := by
  rw [readBounds_eq] at h
  obtain ⟨⟨_, _⟩, hread, hclose⟩ := Option.bind_eq_some_iff.1 h
  calc r <:+ _ := suffix_closeBounds hclose
    _ <:+ _ := suffix_readBound hread
    _ <:+ cs := f.suffix_skip cs

theorem suffix_readLazy (cs : List Char) : (readLazy cs).2 <:+ cs := by
  unfold readLazy
  split
  · exact List.suffix_cons _ _
  · exact List.suffix_refl _

/-! ### Groups -/

theorem suffix_readFlags {on dangling : Bool} {seen : List Char} {o : Opening}
    (h : readFlags f on seen dangling cs = some (o, r)) : r <:+ cs.tail := by
  induction cs generalizing f on seen dangling with
  | nil => cases h
  | cons c cs ih =>
    rw [List.tail_cons]
    unfold readFlags at h
    split at h
    · contradiction
    case h_2 heq | h_3 heq =>
      cases heq
      split at h <;> cases h
      exact List.suffix_refl _
    · rename_i heq
      cases heq
      split at h
      · exact suffix_of_suffix_tail (ih h)
      · cases h
    · rename_i heq
      cases heq
      split at h
      · cases h
      · split at h
        · exact suffix_of_suffix_tail (ih h)
        · cases h

/-- Whether a text can be the name of a group. -/
def isGroupName : List Char → Bool
  | [] => false
  | c :: more => (c == '_' || Unicode.isAlphabetic c) &&
      more.all fun c => Unicode.isAlphanumeric c || c ∈ ['_', '.', '[', ']']

theorem readName_eq (cs : List Char) : readName cs =
    match cs.dropWhile (· != '>') with
    | [] => none
    | _ :: rest => if isGroupName (cs.takeWhile (· != '>')) then
        some (cs.takeWhile (· != '>'), rest) else none := by
  have hdrop : cs.drop (cs.takeWhile (· != '>')).length = cs.dropWhile (· != '>') := by
    calc cs.drop (cs.takeWhile (· != '>')).length
        = (cs.takeWhile (· != '>') ++ cs.dropWhile (· != '>')).drop
            (cs.takeWhile (· != '>')).length := by rw [List.takeWhile_append_dropWhile]
      _ = cs.dropWhile (· != '>') := List.drop_left
  unfold readName
  dsimp only
  rw [hdrop]
  rcases cs.dropWhile (· != '>') with _ | ⟨d, rest⟩ <;>
    rcases cs.takeWhile (· != '>') with _ | ⟨c, more⟩ <;> rfl

theorem suffix_readName {v : List Char} (h : readName cs = some (v, r)) : r <:+ cs := by
  have hdrop := List.dropWhile_suffix (· != '>') (l := cs)
  rw [readName_eq] at h
  split at h
  · cases h
  · rename_i heq
    rw [heq] at hdrop
    split at h <;> cases h
    exact (List.suffix_cons _ _).trans hdrop

/-- The beginning of a group after its parenthesis and a `?`. -/
def readMark (f : Flags) : List Char → Option (Opening × List Char)
  | 'P' :: '<' :: rest => (readName rest).map fun (n, rest) => (.capture (some n), rest)
  | '<' :: '=' :: _ | '<' :: '!' :: _ | '=' :: _ | '!' :: _ => none
  | '<' :: rest => (readName rest).map fun (n, rest) => (.capture (some n), rest)
  | rest => readFlags f true [] false rest

theorem readOpening_of_mark (h : f.skip cs = '?' :: r) : readOpening f cs = readMark f r := by
  rw [readOpening, h]
  unfold readMark
  split <;> simp_all

theorem readOpening_of_ne (h : ∀ r, f.skip cs ≠ '?' :: r) :
    readOpening f cs = some (.capture none, f.skip cs) := by
  unfold readOpening
  split
  case h_8 => rfl
  all_goals exact absurd ‹_› (h _)

theorem suffix_readMark {o : Opening} (h : readMark f cs = some (o, r)) : r <:+ cs := by
  unfold readMark at h
  split at h
  case h_1 | h_6 =>
    obtain ⟨⟨_, _⟩, hread, heq⟩ := Option.map_eq_some_iff.1 h
    cases heq
    refine (suffix_readName hread).trans ?_
    first
      | exact List.suffix_cons _ _
      | exact (List.suffix_cons _ _).trans (List.suffix_cons _ _)
  case h_7 => exact suffix_of_suffix_tail (suffix_readFlags h)
  all_goals cases h

theorem suffix_readOpening {o : Opening} (h : readOpening f cs = some (o, r)) : r <:+ cs := by
  by_cases hmark : ∃ rest, f.skip cs = '?' :: rest
  · obtain ⟨rest, hskip⟩ := hmark
    rw [readOpening_of_mark hskip] at h
    exact (suffix_readMark h).trans (suffix_of_suffix_tail (suffix_of_skip_eq_cons hskip))
  · rw [readOpening_of_ne (not_exists.1 hmark)] at h
    cases h
    exact f.suffix_skip cs

/-! ### Part by part -/

/-- How far an expression has been read: the flags that hold, the groups that have been opened, and
the draft. -/
structure Progress where
  flags : Flags
  opened : Opened
  draft : Draft

/-- The readers of the insides of groups; there is none where groups are nested too deep. -/
abbrev Inside := Option (Flags → Opened → List Char → Option (Tree × Opened × List Char))

/-- The reader of the insides of groups at a depth. -/
def insideOf (n : Nat) : Nat → Inside
  | 0 => none
  | depth + 1 => some fun f opened => readAlternatives depth n f opened .none

namespace Progress

/-- One more part. -/
def add (s : Progress) (t : Tree) : Progress := { s with draft := s.draft.add t }

/-- The last part repeated within bounds, with or without a `?` after them. -/
def iterate (s : Progress) (b : Bounds) (cs : List Char) : Option (Progress × List Char) :=
  (s.draft.repeatLast? ((readLazy cs).1 == s.flags.swapped) b).map fun d =>
    ({ s with draft := d }, (readLazy cs).2)

/-- A group from its inside, which has to end with a parenthesis. -/
def close (s : Progress) (group : Tree → Tree) :
    Option (Tree × Opened × List Char) → Option (Progress × List Char)
  | some (t, opened, ')' :: rest) =>
    some (⟨s.flags, opened, s.draft.add (group t)⟩, rest)
  | _ => none

/-- What an opening parenthesis and what follows it begin. -/
def enter (s : Progress)
    (inside : Flags → Opened → List Char → Option (Tree × Opened × List Char)) :
    Opening → List Char → Option (Progress × List Char)
  | .setFlags f, rest => some (⟨f, s.opened, s.draft.add .flags⟩, rest)
  | .hold f, rest => s.close .hold (inside f s.opened rest)
  | .capture name, rest =>
    if name.any s.opened.names.contains then none
    else
      s.close (.group (s.opened.count + 1))
        (inside s.flags ⟨s.opened.count + 1, name.toList ++ s.opened.names⟩ rest)

/-- A part that is no group, no repetition and no end of an alternative. -/
def readSingle (f : Flags) (c : Char) (cs : List Char) : Option (Tree × List Char) :=
  match c with
  | '[' => (readBracket f cs).map fun (b, rest) => (.set b.set b.nesting, rest)
  | '\\' => (readEscape f cs).map fun (p, rest) => (p.tree f, rest)
  | '.' =>
    if f.ascii then none
    else some (.set (if f.dotAll then CharSet.empty.compl else f.withinLine) 0, cs)
  | '^' => some (.look (if f.lines then f.lineStart else textStart), cs)
  | '$' => some (.look (if f.lines then f.lineEnd else textEnd), cs)
  | c => some ((Primitive.literal c).tree f, cs)

/-- The progress that a character makes with what belongs to it. -/
def step (s : Progress) (inside : Inside) (c : Char) (cs : List Char) :
    Option (Progress × List Char) :=
  match c with
  | '|' => some ({ s with draft := s.draft.branch }, cs)
  | '(' =>
    (readOpening s.flags cs).bind fun (o, rest) => inside.bind fun inside => s.enter inside o rest
  | '*' => s.iterate ⟨0, none⟩ cs
  | '+' => s.iterate ⟨1, none⟩ cs
  | '?' => s.iterate ⟨0, some 1⟩ cs
  | '\x7b' => (readBounds s.flags cs).bind fun (b, rest) => s.iterate b (s.flags.skip rest)
  | c => (readSingle s.flags c cs).map fun (t, rest) => (s.add t, rest)

end Progress

section

variable {s : Progress} (depth : Nat)

theorem readAlternatives_of_skip_eq_nil (h : s.flags.skip cs = []) :
    readAlternatives depth (n + 1) s.flags s.opened s.draft cs =
      some (s.draft.tree, s.opened, []) := by
  rw [readAlternatives, h]

theorem readAlternatives_of_skip_eq_close (h : s.flags.skip cs = ')' :: r) :
    readAlternatives depth (n + 1) s.flags s.opened s.draft cs =
      some (s.draft.tree, s.opened, ')' :: r) := by
  rw [readAlternatives, h]
  rfl

theorem match_inside_eq (group : Tree → Tree) (inside : Option (Tree × Opened × List Char)) :
    (match inside with
      | some (t, opened, ')' :: rest) =>
        readAlternatives depth n s.flags opened (s.draft.add (group t)) rest
      | _ => none) = (s.close group inside).bind fun (s, rest) =>
        readAlternatives depth n s.flags s.opened s.draft rest := by
  rcases inside with _ | ⟨t, opened, _ | ⟨c, rest⟩⟩
  · rfl
  · rfl
  · by_cases hc : c = ')'
    · subst hc
      rfl
    · simp [Progress.close, hc]

/-- A group is read one level deeper than what is around it. -/
theorem readAlternatives_of_skip_eq_open (h : s.flags.skip cs = '(' :: r) :
    readAlternatives depth (n + 1) s.flags s.opened s.draft cs =
      (s.step (insideOf n depth) '(' r).bind fun (s, rest) =>
        readAlternatives depth n s.flags s.opened s.draft rest := by
  rw [readAlternatives, h]
  dsimp only
  split
  case h_4 heq =>
    cases heq
    rw [Progress.step]
    cases readOpening s.flags r with
    | none => cases depth <;> rfl
    | some o =>
      obtain ⟨o, rest⟩ := o
      cases depth with
      | zero => rfl
      | succ inner =>
        cases o with
        | setFlags f => rfl
        | hold f => exact match_inside_eq (inner + 1) .hold _
        | capture name =>
          dsimp only [Option.bind_some, Progress.enter, insideOf]
          split
          · rfl
          · exact match_inside_eq (inner + 1) (.group _) _
  case h_14 heq =>
    cases heq
    contradiction
  all_goals simp_all

/-- Alternatives are read part by part. -/
theorem readAlternatives_of_skip_eq_cons {c : Char} (h : s.flags.skip cs = c :: r)
    (hc : c ≠ ')') :
    readAlternatives depth (n + 1) s.flags s.opened s.draft cs =
      (s.step (insideOf n depth) c r).bind fun (s, rest) =>
        readAlternatives depth n s.flags s.opened s.draft rest := by
  by_cases hopen : c = '('
  · subst hopen
    exact readAlternatives_of_skip_eq_open depth h
  rw [readAlternatives, h]
  dsimp only
  split
  · contradiction
  · rename_i heq
    exact absurd (List.cons.inj heq).1 hc
  · rename_i heq
    cases heq
    rfl
  · rename_i heq
    exact absurd (List.cons.inj heq).1 hopen
  case h_5 heq | h_6 heq | h_7 heq =>
    cases heq
    dsimp only [Progress.step, Progress.iterate]
    cases s.draft.repeatLast? _ _ <;> rfl
  · rename_i heq
    cases heq
    dsimp only [Progress.step, Progress.iterate]
    rcases readBounds s.flags r with _ | ⟨b, rest⟩
    · rfl
    · dsimp only [Option.bind_some]
      cases s.draft.repeatLast? _ _ <;> rfl
  · rename_i heq
    cases heq
    dsimp only [Progress.step, Progress.readSingle]
    rcases readBracket s.flags r with _ | ⟨b, rest⟩ <;> rfl
  · rename_i heq
    cases heq
    dsimp only [Progress.step, Progress.readSingle]
    rcases readEscape s.flags r with _ | ⟨b, rest⟩ <;> rfl
  · rename_i heq
    cases heq
    dsimp only [Progress.step, Progress.readSingle]
    split <;> rfl
  · rename_i heq
    cases heq
    rfl
  · rename_i heq
    cases heq
    rfl
  · rename_i heq
    cases heq
    simp_all [Progress.step, Progress.readSingle, Progress.add]

/-- Readers of insides of groups leave an end of what there was. -/
def Inside.Leaves (inside : Inside) : Prop :=
  ∀ g ∈ inside, ∀ f opened cs t opened' r, g f opened cs = some (t, opened', r) → r <:+ cs

theorem suffix_close {s' : Progress} {group : Tree → Tree}
    {inside : Option (Tree × Opened × List Char)} (h : s.close group inside = some (s', r))
    (hinside : ∀ t opened rest, inside = some (t, opened, rest) → rest <:+ cs) : r <:+ cs.tail := by
  unfold Progress.close at h
  split at h
  · cases h
    exact suffix_tail (hinside _ _ _ rfl)
  · cases h

theorem suffix_enter {s' : Progress} {inside : Inside} (hinside : inside.Leaves)
    {g : Flags → Opened → List Char → Option (Tree × Opened × List Char)} (hg : g ∈ inside)
    {o : Opening} (h : s.enter g o cs = some (s', r)) : r <:+ cs := by
  unfold Progress.enter at h
  split at h
  · cases h
    exact List.suffix_refl _
  · exact suffix_of_suffix_tail (suffix_close h fun _ _ _ => hinside g hg _ _ _ _ _ _)
  · split at h
    · cases h
    · exact suffix_of_suffix_tail (suffix_close h fun _ _ _ => hinside g hg _ _ _ _ _ _)

theorem suffix_iterate {s' : Progress} {b : Bounds} (h : s.iterate b cs = some (s', r)) :
    r <:+ cs := by
  obtain ⟨_, -, heq⟩ := Option.map_eq_some_iff.1 h
  cases heq
  exact suffix_readLazy cs

theorem suffix_readSingle {c : Char} {t : Tree} (h : Progress.readSingle f c cs = some (t, r)) :
    r <:+ cs := by
  unfold Progress.readSingle at h
  split at h
  · obtain ⟨⟨_, _⟩, hread, heq⟩ := Option.map_eq_some_iff.1 h
    cases heq
    exact suffix_readBracket hread
  · obtain ⟨⟨_, _⟩, hread, heq⟩ := Option.map_eq_some_iff.1 h
    cases heq
    exact suffix_of_suffix_tail (suffix_readEscape hread)
  · split at h <;> cases h
    exact List.suffix_refl _
  all_goals
    cases h
    exact List.suffix_refl _

theorem suffix_step {s' : Progress} {inside : Inside} (hinside : inside.Leaves) {c : Char}
    (h : s.step inside c cs = some (s', r)) : r <:+ cs := by
  unfold Progress.step at h
  split at h
  · cases h
    exact List.suffix_refl _
  · obtain ⟨⟨o, rest⟩, hread, hbind⟩ := Option.bind_eq_some_iff.1 h
    obtain ⟨g, hg, henter⟩ := Option.bind_eq_some_iff.1 hbind
    exact (suffix_enter hinside hg henter).trans (suffix_readOpening hread)
  case h_3 | h_4 | h_5 => exact suffix_iterate h
  · obtain ⟨⟨b, rest⟩, hread, hiterate⟩ := Option.bind_eq_some_iff.1 h
    calc r <:+ s.flags.skip rest := suffix_iterate hiterate
      _ <:+ rest := s.flags.suffix_skip rest
      _ <:+ cs := suffix_readBounds hread
  · obtain ⟨⟨t, rest⟩, hread, heq⟩ := Option.map_eq_some_iff.1 h
    cases heq
    exact suffix_readSingle hread

theorem suffix_readAlternatives {depth : Nat} {opened opened' : Opened} {d : Draft} {t : Tree}
    (h : readAlternatives depth n f opened d cs = some (t, opened', r)) : r <:+ cs := by
  induction n generalizing depth f opened d cs t opened' r with
  | zero => cases h
  | succ n ih =>
    have hleaves : (insideOf n depth).Leaves := by
      cases depth with
      | zero => exact nofun
      | succ depth =>
        intro g hg f opened cs t opened' r hread
        cases hg
        exact ih hread
    let s : Progress := ⟨f, opened, d⟩
    cases hskip : f.skip cs with
    | nil =>
      rw [readAlternatives_of_skip_eq_nil (s := s) depth hskip] at h
      cases h
      exact List.nil_suffix
    | cons c rest =>
      by_cases hc : c = ')'
      · subst hc
        rw [readAlternatives_of_skip_eq_close (s := s) depth hskip] at h
        cases h
        exact hskip ▸ f.suffix_skip cs
      · rw [readAlternatives_of_skip_eq_cons (s := s) depth hskip hc] at h
        obtain ⟨⟨s', rest'⟩, hstep, hrest⟩ := Option.bind_eq_some_iff.1 h
        calc r <:+ rest' := ih hrest
          _ <:+ rest := suffix_step hleaves hstep
          _ <:+ cs := suffix_of_suffix_tail (suffix_of_skip_eq_cons hskip)

theorem leaves_insideOf (n depth : Nat) : (insideOf n depth).Leaves := by
  cases depth with
  | zero => exact nofun
  | succ depth =>
    intro g hg f opened cs t opened' r hread
    cases hg
    exact suffix_readAlternatives hread

end

end TripletFacts.Regex
