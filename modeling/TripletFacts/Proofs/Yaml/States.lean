import TripletFacts.Proofs.Yaml.Places
import TripletFacts.Yaml.Lexer

/-!
# States between lines

Outside of flow collections, the state of the cutting is given by the columns of the block
collections that are open. What happens at the beginning of a line depends on its column and on
these: collections that are further in are closed, and one may be opened.

## Main definitions

* `Yaml.Lexer.within`: the state inside of block collections.
* `Yaml.Lexer.Before`: the state in front of a line.
* `Yaml.Lexer.Steps`: a number of tokens that are read one after the other.
* `Yaml.Enters`: the tokens that the column of a line brings along.

## Main results

* `Yaml.Lexer.Steps.run_eq`: what remains to be read after some tokens.
* `Yaml.Lexer.before_of_newLine`: the state after the end of a line.
* `Yaml.Lexer.Before.run_eq`: the tokens at the end of the text.
-/

namespace TripletFacts.Yaml

/-! ### Columns -/

/-- The column of the innermost collection. -/
def indentOf : List Nat → Int
  | [] => -1
  | c :: _ => c

/-- The columns of the collections around the innermost one. -/
def outerOf : List Nat → List Int
  | [] => []
  | _ :: cols => indentOf cols :: outerOf cols

/-- The collections that the column `c` of a line leaves open of the collections at given columns,
with the one that begins at the column, and the tokens for this. -/
inductive Enters (c : Nat) : List Nat → List Nat → List Token → Prop
  | stay {cols : List Nat} : Enters c (c :: cols) (c :: cols) []
  | open {cols : List Nat} : indentOf cols < c → Enters c cols (c :: cols) [.blockMapping]
  | close {d : Nat} {cols cols' : List Nat} {ts : List Token} :
      c < d → Enters c cols cols' ts → Enters c (d :: cols) cols' (.blockEnd :: ts)

theorem Enters.exists_eq {c : Nat} {cols cols' : List Nat} {ts : List Token}
    (h : Enters c cols cols' ts) : ∃ cols'', cols' = c :: cols'' := by
  induction h with
  | stay => exact ⟨_, rfl⟩
  | «open» => exact ⟨_, rfl⟩
  | close _ _ ih => exact ih

namespace Lexer

/-! ### States -/

/-- The state at a place inside of block collections at given columns. -/
def within (cols : List Nat) (ts : List Token) (allowed : Bool) (p : Place) : Lexer :=
  ⟨p, ts.toArray, indentOf cols, outerOf cols, allowed, none, []⟩

/-- The state with another mark of a key. -/
def withKey (s : Lexer) (key : Option KeyMark) : Lexer := { s with key := key }

theorem closeBlocks_within_of_lt {column : Int} {c : Nat} (h : column < c) (cols : List Nat)
    (ts : List Token) (allowed : Bool) (p : Place) :
    (within (c :: cols) ts allowed p).closeBlocks column =
      (within cols (ts ++ [.blockEnd]) allowed p).closeBlocks column := by
  have houtward : outward column (indentOf (c :: cols)) (outerOf (c :: cols)) =
      ((outward column (indentOf cols) (outerOf cols)).1 + 1,
        (outward column (indentOf cols) (outerOf cols)).2) := by
    rw [outerOf, outward]
    exact if_pos h
  have htokens : ∀ n, ts.toArray ++ Array.replicate (n + 1) Token.blockEnd =
      (ts ++ [Token.blockEnd]).toArray ++ Array.replicate n .blockEnd := fun n => by
    apply Array.toList_inj.1
    simp [List.replicate_succ]
  simp only [within, closeBlocks, inFlow, List.isEmpty_nil, Bool.not_true, Bool.false_eq_true,
    if_false, houtward, htokens]

theorem closeBlocks_within_of_le {column : Int} {cols : List Nat} (h : indentOf cols ≤ column)
    (ts : List Token) (allowed : Bool) (p : Place) :
    (within cols ts allowed p).closeBlocks column = within cols ts allowed p := by
  have houtward : outward column (indentOf cols) (outerOf cols) =
      (0, indentOf cols, outerOf cols) := by
    cases cols with
    | nil => rfl
    | cons c cols => rw [outerOf, outward, if_neg (by omega)]
  simp [within, closeBlocks, inFlow, houtward]

/-! ### Between tokens -/

/-- Spaces in front of a token. -/
theorem skipGap_spaces {n : Nat} {w : List Char} {p : Place} (hrest : p.rest = spaces n ++ w)
    (hw : Begins w) (flow : Bool) (fuel : Nat) (allowed : Bool) :
    skipGap flow (fuel + 1) allowed p = (allowed, p.past (spaces n) w) := by
  have hmark : (p.next? == some '\ufeff') = false := by
    rw [Place.next?, hrest]
    cases n with
    | zero =>
      cases w with
      | nil => rfl
      | cons c w => exact beq_false_of_ne fun h => hw.ne_mark (Option.some.inj h)
    | succ n => rfl
  have hblank : p.skipWhile (fun c => c == ' ' || (c == '\t' && (flow || !allowed))) =
      p.past (spaces n) w := by
    refine Place.skipWhile_of_rest hrest (by simp [spaces]) ?_
    cases w with
    | nil => rfl
    | cons c w =>
      have hgap : isGap c = false := hw.any_isGap
      simp only [isGap, isBlank, Bool.or_eq_false_iff] at hgap
      simp [hgap.1]
  have hcomment : ((p.past (spaces n) w).next? == some '#') = false := by
    rw [Place.next?, Place.rest_past]
    cases w with
    | nil => rfl
    | cons c w => exact beq_false_of_ne fun h => hw.ne_comment (Option.some.inj h)
  have hbreak : (p.past (spaces n) w).next?.any isBreak = false := by
    rw [Place.next?, Place.rest_past]
    cases w with
    | nil => rfl
    | cons c w => exact (Bool.or_eq_false_iff.1 hw.any_isGap).2
  rw [skipGap]
  simp only [hmark, Bool.and_false, Bool.false_eq_true, if_false, hblank, hcomment, hbreak]

/-- The end of a line and the indentation of the next one. -/
theorem exists_skipGap_newLine {n : Nat} {w : List Char} {p : Place}
    (hrest : p.rest = '\n' :: (spaces n ++ w)) (hw : Begins w) (fuel : Nat) (allowed : Bool) :
    ∃ q : Place, q.rest = w ∧ q.column = n ∧ q.line = p.line + 1 ∧
      skipGap false (fuel + 2) allowed p = (true, q) := by
  have hnext : p.next? = some '\n' := by rw [Place.next?, hrest]; rfl
  have hblank : p.skipWhile (fun c => c == ' ' || (c == '\t' && (false || !allowed))) = p := by
    rw [Place.skipWhile, hrest]
    exact Place.skip_zero p
  have hbreak : p.skipBreak = p.past ['\n'] (spaces n ++ w) :=
    Place.skipBreak_of_rest rfl rfl hrest
  have hq : (p.past ['\n'] (spaces n ++ w)).past (spaces n) w = p.past ([] ++ '\n' :: spaces n) w :=
    Place.past_past (by simp) _ _
  refine ⟨p.past ([] ++ '\n' :: spaces n) w, rfl,
    Place.column_past_newLine (List.forall_mem_nil _) n w,
    Place.line_past_newLine (List.forall_mem_nil _) n w, ?_⟩
  have hmark : (some '\n' == some '\ufeff') = false := rfl
  have hcomment : (some '\n' == some '#') = false := rfl
  have hline : isBreak '\n' = true := rfl
  rw [skipGap]
  simp only [hnext, hmark, Bool.and_false, Bool.false_eq_true, if_false, hblank, hcomment,
    Option.any_some, hline, if_true, hbreak]
  rw [skipGap_spaces (Place.rest_past ..) hw, hq, Bool.not_false, Bool.or_true]

/-- What happens to the state in front of a token. -/
theorem advance_eq {s : Lexer} {allowed : Bool} {q : Place} {key : Option KeyMark}
    (hflow : s.outerKeys = [])
    (hgap : skipGap false (s.place.rest.length + 1) s.keyAllowed s.place = (allowed, q))
    (hkey : KeyMark.refresh q s.key = some key) :
    s.advance =
      some ({ s with place := q, keyAllowed := allowed, key := key }.closeBlocks q.column) := by
  have hin : s.inFlow = false := by rw [inFlow, hflow]; rfl
  rw [advance]
  simp only [hin, hgap, hkey, hflow, List.mapM_nil]
  rfl

/-! ### The beginnings of lines -/

/-- The state in front of a line that begins with `tail` behind the indentation `m`. -/
def Before (s : Lexer) (cols : List Nat) (ts : List Token) (m : Nat) (tail : List Char) : Prop :=
  Begins tail ∧ ∃ p : Place, p.rest = tail ∧ p.column = m ∧
    s.advance = some ((within cols ts true p).closeBlocks m)

section

variable {s : Lexer} {cols cols' : List Nat} {ts us : List Token} {m : Nat} {tail : List Char}
  {p : Place}

theorem before_start {text : List Char} (h : Begins text) : (start text).Before [] [] 0 text := by
  have hgap : skipGap false (text.length + 1) true (.start text) = (true, .start text) :=
    skipGap_spaces (n := 0) rfl h false _ true
  exact ⟨h, .start text, rfl, rfl, advance_eq rfl hgap rfl⟩

/-- A line begins behind a gap with a line end in it, where no key can have begun before. -/
theorem before_of_skipGap {allowed : Bool} {key : Option KeyMark} {q : Place}
    (htail : Begins tail) (hgap : skipGap false (p.rest.length + 1) allowed p = (true, q))
    (hrest : q.rest = tail) (hcolumn : q.column = m) (hkey : KeyMark.refresh q key = some none) :
    ((within cols ts allowed p).withKey key).Before cols ts m tail :=
  ⟨htail, q, hrest, hcolumn, hcolumn ▸ advance_eq rfl hgap hkey⟩

theorem before_of_newLine (htail : Begins tail) (hrest : p.rest = '\n' :: (spaces m ++ tail))
    (allowed : Bool) : (within cols ts allowed p).Before cols ts m tail := by
  obtain ⟨q, hq, hcolumn, -, hgap⟩ :=
    exists_skipGap_newLine hrest htail (spaces m ++ tail).length allowed
  have hlength : p.rest.length + 1 = (spaces m ++ tail).length + 2 := by
    rw [hrest, List.length_cons]
  exact before_of_skipGap htail (by rw [hlength, hgap]) hq hcolumn rfl

/-- The place in front of a line may be behind its indentation already. -/
theorem before_of_rest {key : Option KeyMark} (htail : Begins tail) (hrest : p.rest = tail)
    (hcolumn : p.column = m) (hkey : KeyMark.refresh p key = some none) :
    ((within cols ts true p).withKey key).Before cols ts m tail := by
  have hgap := skipGap_spaces (n := 0) hrest htail false p.rest.length true
  rw [← hrest] at hgap
  exact before_of_skipGap htail hgap hrest hcolumn hkey

namespace Before

theorem close {c : Nat} (h : s.Before (c :: cols) ts m tail) (hm : m < c) :
    s.Before cols (ts ++ [.blockEnd]) m tail := by
  obtain ⟨htail, p, hrest, hcolumn, hadvance⟩ := h
  exact ⟨htail, p, hrest, hcolumn, by rw [hadvance, closeBlocks_within_of_lt (by omega)]⟩

/-- At the beginning of a line that stays inside of the open collections. -/
theorem advance_eq (h : s.Before cols ts m tail) (hm : indentOf cols ≤ m) :
    ∃ p : Place, p.rest = tail ∧ p.column = m ∧ s.advance = some (within cols ts true p) := by
  obtain ⟨-, p, hrest, hcolumn, hadvance⟩ := h
  exact ⟨p, hrest, hcolumn, by rw [hadvance, closeBlocks_within_of_le hm]⟩

end Before

end

/-! ### Tokens one after the other -/

section

variable {s s' : Lexer}

theorem step_of_nil (hadvance : s.advance = some s') (hrest : s'.place.rest = []) :
    s.step = s'.atEnd := by
  rw [step, hadvance]
  simp only [Option.bind_eq_bind, Option.bind_some, hrest]

theorem step_of_cons {c : Char} {next : List Char} (hadvance : s.advance = some s')
    (hrest : s'.place.rest = c :: next) : s.step = s'.tokenAt c next := by
  rw [step, hadvance]
  simp only [Option.bind_eq_bind, Option.bind_some, hrest]

end

/-- From a state to the state after a number of tokens. -/
inductive Steps : Nat → Lexer → Lexer → Prop
  | refl (s : Lexer) : Steps 0 s s
  | step {k : Nat} {s s' s'' : Lexer} : s.step = some s' → s'.tokens.back? ≠ some .streamEnd →
      Steps k s' s'' → Steps (k + 1) s s''

namespace Steps

variable {k l : Nat} {s s' s'' : Lexer}

theorem single (hstep : s.step = some s') (hend : s'.tokens.back? ≠ some .streamEnd) :
    Steps 1 s s' := .step hstep hend (.refl s')

theorem trans (h : Steps k s s') (h' : Steps l s' s'') : Steps (k + l) s s'' := by
  induction h with
  | refl => rwa [Nat.zero_add]
  | step hstep hend _ ih =>
    rw [Nat.succ_add]
    exact .step hstep hend (ih h')

/-- After some tokens the others remain to be read. -/
theorem run_eq (h : Steps k s s') (n : Nat) : s.run (k + n) = s'.run n := by
  induction h with
  | refl => rw [Nat.zero_add]
  | step hstep hend _ ih =>
    rw [Nat.succ_add, run, hstep]
    dsimp only
    rw [if_neg hend, ih]

end Steps

/-- At the end of the text the last collection is closed. -/
theorem Before.run_eq {s : Lexer} {ts : List Token} (h : s.Before [0] ts 0 []) (n : Nat) :
    s.run (n + 1) = some (ts ++ [Token.blockEnd, Token.streamEnd]).toArray := by
  obtain ⟨p, hrest, -, hadvance⟩ := h.advance_eq (Int.le_refl 0)
  have hclose : (within [0] ts true p).closeBlocks (-1) = within [] (ts ++ [.blockEnd]) true p :=
    (closeBlocks_within_of_lt (by decide) ..).trans (closeBlocks_within_of_le (Int.le_refl _) ..)
  have hend : (within [0] ts true p).atEnd =
      some ((within [] (ts ++ [.blockEnd]) false p).push .streamEnd) := by
    rw [atEnd, toTop, hclose]
    rfl
  have htokens : ((within [] (ts ++ [.blockEnd]) false p).push .streamEnd).tokens =
      (ts ++ [Token.blockEnd, Token.streamEnd]).toArray := by
    simp [push, within]
  rw [run, step_of_nil hadvance hrest, hend]
  dsimp only
  rw [htokens, if_pos (by simp)]

end Lexer

end TripletFacts.Yaml
