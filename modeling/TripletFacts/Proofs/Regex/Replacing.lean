import TripletFacts.Proofs.Outcome
import TripletFacts.Proofs.Regex.First

/-!
# Replacing step by step

Replacing all matches goes through a text from left to right: at a position with a match the match
is replaced, and the search goes on at its end; at any other position the next character is kept.
This is stated for expressions all of whose matches have characters.

## Main definitions

* `Regex.Consumes`: every match has characters.
* `Regex.replaceAfter`: the text after a position with every match replaced.

## Main results

* `Regex.replaceAfter_of_matchAt`, `Regex.replaceAfter_cons`, `Regex.replaceAfter_nil`: what
  happens at a position.
* `Regex.replaceAfter_append`: what happens to a stretch without matches.
* `Regex.replaceM_induction`: what every step keeps holds of the whole text.
-/

namespace TripletFacts.Regex

open Cursor

variable {ε : Type} {r : Regex} {f : Match → Except ε (List Char)}

theorem replaceFrom_cons (c : Cursor) (m : Match) (ms : List Match) :
    replaceFrom f c (m :: ms) =
      ((f m).bind fun new => (replaceFrom f m.span.stop ms).map (new ++ ·)).map
        (Span.text ⟨c, m.span.start⟩ ++ ·) := by
  rw [replaceFrom]
  cases f m with
  | error e => rfl
  | ok new =>
    cases replaceFrom f m.span.stop ms with
    | error e => rfl
    | ok rest => exact congrArg Except.ok (List.append_assoc _ _ _)

/-- Every match of an expression has characters. -/
def Consumes (r : Regex) : Prop := ∀ c m, r.matchAt c = some m → m.span.stop.left < c.left

/-- The text after a position with every match replaced. -/
def replaceAfter (r : Regex) (f : Match → Except ε (List Char)) (c : Cursor) :
    Except ε (List Char) :=
  replaceFrom f c (r.findAll c true)

theorem replaceM_eq_replaceAfter (text : List Char) :
    r.replaceM f text = r.replaceAfter f (between [] text) := rfl

/-- What is found by an expression that consumes ends behind the beginning of the search. -/
theorem Consumes.left_lt (hr : r.Consumes) {c : Cursor} {m : Match} (h : r.findFrom c = some m) :
    m.span.stop.left < c.left := by
  obtain ⟨u, c', hu, hm⟩ := exists_steps_of_findFrom h
  have hlt := hr c' m hm
  have hle := hu.left
  omega

theorem Consumes.findAll_eq (hr : r.Consumes) (c : Cursor) (fresh : Bool) :
    r.findAll c fresh =
      match r.findFrom c with
      | some m => m :: r.findAll m.span.stop true
      | none => [] := by
  have hfresh : ∀ c, r.findAll c false = r.findAll c true := by
    intro c
    cases h : r.findFrom c with
    | none => rw [findAll_of_findFrom_eq_none h, findAll_of_findFrom_eq_none h]
    | some m =>
      rw [findAll_of_findFrom h (hr.left_lt h), findAll_of_findFrom h (hr.left_lt h)]
  cases h : r.findFrom c with
  | none => exact findAll_of_findFrom_eq_none h
  | some m => rw [findAll_of_findFrom h (hr.left_lt h), hfresh]

/-- At a position with a match the match is replaced. -/
theorem replaceAfter_of_matchAt (hr : r.Consumes) {c : Cursor} {m : Match}
    (h : r.matchAt c = some m) : r.replaceAfter f c =
      (f m).bind fun new => (r.replaceAfter f m.span.stop).map (new ++ ·) := by
  have hstart : Span.text ⟨c, m.span.start⟩ = [] := by
    rw [(leads_of_matchAt h).1]
    exact Steps.text (.refl c)
  rw [replaceAfter, hr.findAll_eq, findFrom_of_matchAt h]
  dsimp only
  rw [replaceFrom_cons, hstart]
  cases f m with
  | error e => rfl
  | ok new =>
    simp only [Except.bind, replaceAfter]
    cases replaceFrom f m.span.stop (r.findAll m.span.stop true) <;> rfl

/-- At a position without a match the next character is kept. -/
theorem replaceAfter_cons (hr : r.Consumes) {b a : List Char} {x : Char}
    (h : r.matchAt (between b (x :: a)) = none) :
    r.replaceAfter f (between b (x :: a)) =
      (r.replaceAfter f (between (x :: b) a)).map (x :: ·) := by
  rw [replaceAfter, replaceAfter, hr.findAll_eq, hr.findAll_eq,
    findFrom_cons_of_matchAt_eq_none h]
  cases hfind : r.findFrom (between (x :: b) a) with
  | none => rfl
  | some m =>
    have htext : Span.text ⟨between b (x :: a), m.span.start⟩ =
        x :: Span.text ⟨between (x :: b) a, m.span.start⟩ := by
      obtain ⟨u, c', hu, hm⟩ := exists_steps_of_findFrom hfind
      obtain ⟨rfl, -⟩ := leads_of_matchAt hm
      have hx : (between b (x :: a)).Steps [x] (between (x :: b) a) :=
        steps_between_iff.2 ⟨a, rfl, rfl⟩
      rw [hu.text, (hx.trans hu).text]
      rfl
    dsimp only
    rw [replaceFrom_cons, replaceFrom_cons, htext]
    cases (f m).bind fun new =>
      (replaceFrom f m.span.stop (r.findAll m.span.stop true)).map (new ++ ·) <;> rfl

/-- A stretch in which no match begins is kept. -/
theorem replaceAfter_append (hr : r.Consumes) {u b a : List Char}
    (h : ∀ v w, u = v ++ w → w ≠ [] → ∀ b, r.matchAt (between b (w ++ a)) = none) :
    r.replaceAfter f (between b (u ++ a)) =
      (r.replaceAfter f (between (u.reverse ++ b) a)).map (u ++ ·) := by
  induction u generalizing b with
  | nil => cases hreplaced : r.replaceAfter f (between b a) <;> simp [hreplaced, Except.map]
  | cons x u ih =>
    have hfirst : r.matchAt (between b (x :: (u ++ a))) = none :=
      h [] (x :: u) rfl (List.cons_ne_nil x u) b
    rw [List.cons_append, replaceAfter_cons hr hfirst,
      ih fun v w hu => h (x :: v) w (congrArg (x :: ·) hu), List.reverse_cons, List.append_assoc,
      List.singleton_append]
    cases r.replaceAfter f (between (u.reverse ++ x :: b) a) <;> rfl

/-- At the end of a text there is nothing to be replaced. -/
theorem replaceAfter_nil (hr : r.Consumes) (b : List Char) :
    r.replaceAfter f (between b []) = .ok [] := by
  have hnone : r.findFrom (between b []) = none := by
    cases hfind : r.findFrom (between b []) with
    | none => rfl
    | some m => exact absurd (hr.left_lt hfind) (Nat.not_lt_zero _)
  rw [replaceAfter, hr.findAll_eq, hnone]
  rfl

/-- A relation between a text and what replacing makes of it holds if every step keeps it: a
character that is kept, and a match that is replaced. -/
theorem replaceM_induction (hr : r.Consumes) {R : List Char → List Char → Prop} (hnil : R [] [])
    (hkept : ∀ x t u, R t u → R (x :: t) (x :: u))
    (hmatch : ∀ b v t m x u,
      r.Leads (between b (v ++ t)) [] (between (v.reverse ++ b) t) m.captures →
        f m = .ok x → R t u → R (v ++ t) (x ++ u))
    {text new : List Char} (h : r.replaceM f text = .ok new) : R text new := by
  rw [replaceM_eq_replaceAfter] at h
  generalize [] = b at h
  induction hn : text.length using Nat.strongRecOn generalizing b text new with
  | ind n ih =>
    subst hn
    cases hm : r.matchAt (between b text) with
    | some m =>
      obtain ⟨-, hleads⟩ := leads_of_matchAt hm
      obtain ⟨v, hsteps⟩ := hleads.matches.exists_steps
      obtain ⟨t, rfl, hstop⟩ := steps_between_iff.1 hsteps
      have hlt : t.length < (v ++ t).length := by
        have hleft := hr _ m hm
        rw [hstop] at hleft
        exact hleft
      rw [replaceAfter_of_matchAt hr hm, hstop, bind_eq_ok_iff] at h
      obtain ⟨x, hx, hrest⟩ := h
      obtain ⟨u, hu, rfl⟩ := map_eq_ok_iff.1 hrest
      exact hmatch b v t m x u (hstop ▸ hleads) hx (ih _ hlt _ hu rfl)
    | none =>
      cases text with
      | nil =>
        rw [replaceAfter_nil hr] at h
        exact Except.ok.inj h ▸ hnil
      | cons x t =>
        rw [replaceAfter_cons hr hm] at h
        obtain ⟨u, hu, rfl⟩ := map_eq_ok_iff.1 h
        exact hkept x t u (ih _ (Nat.lt_succ_self _) _ hu rfl)

end TripletFacts.Regex
