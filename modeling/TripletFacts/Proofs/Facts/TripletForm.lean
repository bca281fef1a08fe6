import TripletFacts.Proofs.Facts.TripletWay
import TripletFacts.Proofs.Regex.Language

/-!
# The form of triplets

The texts that the pattern of triplets takes, with no regard to the order in which its ways are
tried. A value in quotes and a comment may be any texts, and a value without quotes may be any text
on one line: nothing in the pattern keeps it from going over a mark of the end.

## Main definitions

* `Parts.Loose`: parts as the pattern of triplets takes them.

## Main results

* `Settings.takes_tripletRegex`: the texts that the pattern of triplets takes.
-/

namespace TripletFacts

open Regex Cursor

/-! ### Loose parts -/

namespace Parts

/-- A value as the pattern takes it: any text in quotes, or any text on one line. -/
inductive IsLooseValue : List Char → Prop
  | quoted (s : List Char) : IsLooseValue ('\'' :: (s ++ ['\'']))
  | plain {v : List Char} (hv : ∀ x ∈ v, x ≠ '\n') : IsLooseValue v

/-- Parts as the pattern of triplets takes them. -/
structure Loose (p : Parts) : Prop where
  pfx : IsWord p.pfx
  name : ∀ n ∈ p.name, IsWord n
  value : IsLooseValue p.value

theorem IsValue.loose {v : List Char} (h : IsValue v) : IsLooseValue v := by
  cases h with
  | quoted => exact .quoted _
  | plain hv => exact .plain fun x hx hnew => hv x hx (by simp [hnew])

/-- Parts that can be told apart are taken. -/
theorem Legible.loose {p : Parts} (h : p.Legible) : p.Loose := ⟨h.pfx, h.name, h.value.loose⟩

end Parts

namespace Settings

theorem takes_wordRegex (index : Nat) : (wordRegex index).Takes Parts.IsWord := by
  refine ((takes_char _).seq (takes_star_char true _)).group index |>.congr fun w => ?_
  constructor
  · rintro ⟨_, u, ⟨x, hx, rfl⟩, hu, rfl⟩
    exact ⟨List.cons_ne_nil x u, List.forall_mem_cons.2 ⟨hx, hu⟩⟩
  · rintro ⟨hne, hw⟩
    obtain ⟨x, u, rfl⟩ := List.exists_cons_of_ne_nil hne
    obtain ⟨hx, hu⟩ := List.forall_mem_cons.1 hw
    exact ⟨[x], u, ⟨x, hx, rfl⟩, hu, rfl⟩

theorem takes_bodyRegex : bodyRegex.Takes Parts.IsLooseValue := by
  refine (((takes_literal _).seq ((takes_star_char false _).seq (takes_literal _))).alt
    (takes_star_char false _)).congr fun v => ?_
  constructor
  · rintro (⟨_, _, rfl, ⟨s, _, -, rfl, rfl⟩, rfl⟩ | hv)
    · exact .quoted s
    · exact .plain fun x hx => by simpa using hv x hx
  · rintro (⟨s⟩ | hv)
    · exact .inl ⟨['\''], s ++ ['\''], rfl, ⟨s, ['\''], fun _ _ => rfl, rfl, rfl⟩, rfl⟩
    · exact .inr fun x hx => by simpa using hv x hx

theorem takes_valueRegex : valueRegex.Takes fun u =>
    ∃ (bid : Bool) (v : List Char), Parts.IsLooseValue v ∧
      u = (if bid then [':'] else []) ++ v := by
  refine ((((takes_literal [':']).alt takes_unit).seq takes_bodyRegex).group 3).congr fun u => ?_
  constructor
  · rintro ⟨_, _, rfl | rfl, hv, rfl⟩
    · exact ⟨true, _, hv, rfl⟩
    · exact ⟨false, _, hv, rfl⟩
  · rintro ⟨bid, v, hv, rfl⟩
    refine ⟨_, v, ?_, hv, rfl⟩
    cases bid
    · exact .inr rfl
    · exact .inl rfl

theorem takes_closingRegex :
    closingRegex.Takes fun u => ∃ comment, u = Parts.commentText comment ++ [';'] := by
  simp only [Parts.commentText_eq]
  exact Marks.standard.takes_closingRegex

/-- A word that may be missing. -/
theorem takes_name : (Regex.alt .unit (wordRegex 2)).Takes fun u =>
    ∃ name : Option (List Char), (∀ n ∈ name, Parts.IsWord n) ∧ u = name.getD [] := by
  refine (takes_unit.alt (takes_wordRegex 2)).congr fun u => ?_
  constructor
  · rintro (rfl | hu)
    · exact ⟨none, by simp, rfl⟩
    · exact ⟨some u, by simpa using hu, rfl⟩
  · rintro ⟨name, hname, rfl⟩
    cases name with
    | none => exact .inl rfl
    | some n => exact .inr (hname n rfl)

/-- The texts that the pattern of triplets takes. -/
theorem takes_tripletRegex : tripletRegex.Takes fun u => ∃ p : Parts, p.Loose ∧ u = p.text := by
  refine ((takes_literal ['$']).seq ((takes_wordRegex 1).seq ((takes_literal ['.']).seq
    (takes_name.seq ((takes_literal ['=']).seq
      (takes_valueRegex.seq takes_closingRegex)))))).congr fun u => ?_
  constructor
  · rintro ⟨_, _, rfl, ⟨pfx, _, hpfx, ⟨_, _, rfl, ⟨_, _, ⟨name, hname, rfl⟩, ⟨_, _, rfl,
      ⟨_, _, ⟨bid, v, hv, rfl⟩, ⟨comment, rfl⟩, rfl⟩, rfl⟩, rfl⟩, rfl⟩, rfl⟩, rfl⟩
    exact ⟨⟨pfx, name, bid, v, comment⟩, ⟨hpfx, hname, hv⟩, rfl⟩
  · rintro ⟨p, hp, rfl⟩
    exact ⟨_, _, rfl, ⟨p.pfx, _, hp.pfx, ⟨_, _, rfl, ⟨_, _, ⟨p.name, hp.name, rfl⟩, ⟨_, _, rfl,
      ⟨_, _, ⟨p.bid, p.value, hp.value, rfl⟩, ⟨p.comment, rfl⟩, rfl⟩, rfl⟩, rfl⟩, rfl⟩, rfl⟩, rfl⟩

end Settings

end TripletFacts
