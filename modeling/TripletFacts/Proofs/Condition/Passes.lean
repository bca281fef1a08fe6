import TripletFacts.Condition.Evaluate
import TripletFacts.Proofs.Outcome

/-!
# Passes over the code of a text

A pass changes the code of a text, one stretch after the other. It keeps the text if it keeps all
code, and it fails if it fails on some code.

## Main definitions

* `mapSegments`: a pass over segments.

## Main results

* `mapCode_eq_self`: a pass that keeps the text.
* `exists_of_mapCode`: what a pass over a text does with its code.
* `Settings.substitute_eq_bind`: the passes over a condition, one after the other.
-/

namespace TripletFacts

section

variable {ε : Type} {pass : List Char → Except ε (List Char)} {ss : List Segment} {t u : List Char}

theorem mapM_mapCode_of_forall
    (h : ∀ seg ∈ ss, seg.isCode = true → pass seg.text = .ok seg.text) :
    ss.mapM (Segment.mapCode pass) = .ok (ss.map Segment.text) := by
  induction ss with
  | nil => rfl
  | cons seg ss ih =>
    simp only [List.mem_cons, forall_eq_or_imp] at h
    have hseg : seg.mapCode pass = .ok seg.text := by
      rw [Segment.mapCode]
      split
      · exact h.1 ‹_›
      · rfl
    rw [List.mapM_cons, hseg, ih h.2]
    rfl

/-- A pass that keeps all code keeps the text. -/
theorem mapCode_eq_self
    (h : ∀ seg ∈ segments t, seg.isCode = true → pass seg.text = .ok seg.text) :
    mapCode pass t = .ok t := by
  rw [mapCode, mapM_mapCode_of_forall h]
  exact congrArg Except.ok (text_segments t)

/-- A pass over a text succeeds on all code of the text. -/
theorem exists_of_mapCode (h : mapCode pass t = .ok u) {seg : Segment} (hseg : seg ∈ segments t)
    (hcode : seg.isCode = true) : ∃ x, pass seg.text = .ok x := by
  obtain ⟨us, hus, -⟩ := map_eq_ok_iff.1 h
  obtain ⟨x, hx⟩ := exists_of_mapM_eq_ok hus hseg
  rw [Segment.mapCode, if_pos hcode] at hx
  exact ⟨x, hx⟩

/-- A pass over segments. -/
def mapSegments (f : List Char → Except ε (List Char)) (ss : List Segment) :
    Except ε (List Char) :=
  (ss.mapM (Segment.mapCode f)).map List.flatten

theorem mapSegments_cons (s : Segment) (ss : List Segment) :
    mapSegments pass (s :: ss) =
      (Segment.mapCode pass s).bind fun a => (mapSegments pass ss).map (a ++ ·) := by
  unfold mapSegments
  rw [List.mapM_cons]
  cases Segment.mapCode pass s with
  | error e => rfl
  | ok a => cases ss.mapM (Segment.mapCode pass) <;> rfl

end

namespace Settings

/-- Three passes replace presence calls, references with a mark and references without one. -/
theorem substitute_eq_bind (s : Settings) (facts db : Facts) (text : List Char) :
    s.substitute facts db text =
      ((mapCode (s.resolvePresence facts db) text).bind (mapCode (s.substituteMarked facts))).bind
        (mapCode (s.substituteBare db)) := by
  unfold substitute
  cases mapCode (s.resolvePresence facts db) text <;> rfl

end Settings

end TripletFacts
