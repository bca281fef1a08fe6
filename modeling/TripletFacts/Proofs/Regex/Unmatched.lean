import TripletFacts.Proofs.Regex.Reach

/-!
# What a search leaves out

The matches that a search finds stand in the text one after the other. What stands before, between
and behind them is in none of them.

## Main definitions

* `Regex.unmatchedFrom`, `Regex.unmatched`: the characters of a text that are in no match.
* `Regex.InOrder`: matches one after the other.

## Main results

* `Regex.inOrder_findAll`: the matches that are found.
-/

namespace TripletFacts.Regex

open Cursor

/-- The text after a position that is in none of the matches. -/
def unmatchedFrom (c : Cursor) : List Match → List Char
  | [] => c.after
  | m :: ms => Span.text ⟨c, m.span.start⟩ ++ unmatchedFrom m.span.stop ms

/-- The characters of a text that are in no match. -/
def unmatched (r : Regex) (text : List Char) : List Char :=
  unmatchedFrom (start text) (r.matchesIn text)

/-- Matches after a position, none of which begins before the end of the one before it. -/
def InOrder (r : Regex) : Cursor → List Match → Prop
  | _, [] => True
  | c, m :: ms => (∃ u, c.Steps u m.span.start) ∧ r.matchAt m.span.start = some m ∧
      r.InOrder m.span.stop ms

variable {r : Regex} {c c' : Cursor} {ms : List Match}

theorem InOrder.of_steps {u : List Char} (h : r.InOrder c' ms) (hc : c.Steps u c') :
    r.InOrder c ms := by
  cases ms with
  | nil => trivial
  | cons m ms =>
    obtain ⟨⟨v, hv⟩, hm, hms⟩ := h
    exact ⟨⟨u ++ v, hc.trans hv⟩, hm, hms⟩

theorem InOrder.cons_of_findFrom {m : Match} (h : r.findFrom c = some m)
    (hms : r.InOrder m.span.stop ms) : r.InOrder c (m :: ms) := by
  obtain ⟨u, c', hu, hm⟩ := exists_steps_of_findFrom h
  obtain ⟨rfl, -⟩ := leads_of_matchAt hm
  exact ⟨⟨u, hu⟩, hm, hms⟩

/-- The matches that are found stand one after the other. -/
theorem inOrder_findAll (r : Regex) (c : Cursor) (fresh : Bool) :
    r.InOrder c (r.findAll c fresh) := by
  fun_induction findAll r c fresh with
  | case1 => trivial
  | case2 c fresh m hm hlt ih => exact .cons_of_findFrom hm ih
  | case3 c fresh m hm hlt c' hn ih =>
    obtain ⟨x, -, hx⟩ := exists_steps_of_next? hn
    split
    · -- the match takes nothing, and the search goes on at the next position
      obtain ⟨u, v, hu, hv⟩ := (inside_of_findFrom hm).span
      have hstop : m.span.stop = c := (hu.trans hv).eq_of_left_le (Nat.le_of_not_lt hlt)
      exact .cons_of_findFrom hm (hstop ▸ ih.of_steps hx)
    · exact ih.of_steps hx
  | case4 c m hm hlt hn => exact .cons_of_findFrom hm trivial
  | case5 => trivial

end TripletFacts.Regex
