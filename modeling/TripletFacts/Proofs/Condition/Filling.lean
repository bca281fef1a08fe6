import TripletFacts.Proofs.Condition.Parts
import TripletFacts.Proofs.Condition.Passes
import TripletFacts.Proofs.Condition.Template

/-!
# Passes over references in a whole text

A text is cut into parts as its code is; the characters of its literals are kept. The two passes
over references in a text fill these parts. What a pass does before a blank does not depend on what
comes behind it.

## Main definitions

* `textParts`: the parts of a text.

## Main results

* `Part.fill_append_eq_ok_iff`: parts are filled one after the other.
* `Settings.mapCode_substituteMarked`, `Settings.mapCode_substituteBare`: the passes over a text.
* `textParts_append_blank`, `textParts_closed_append`: the parts before a blank and behind a
  literal.
-/

namespace TripletFacts

/-! ### Filling parts one after the other -/

namespace Part

variable {ε : Type} {value : List Char → List Char → Except ε (List Char)}

theorem fill_append (ps qs : List Part) :
    fill value (ps ++ qs) = (fill value ps).bind fun x => (fill value qs).map (x ++ ·) := by
  induction ps with
  | nil => exact (map_nil_append _).symm
  | cons p ps ih =>
    cases p with
    | kept c =>
      rw [List.cons_append, fill, fill, ih]
      exact (bind_map_append [c] (fill value ps) (fill value qs)).symm
    | reference p n =>
      rw [List.cons_append, fill, fill, ih]
      cases value p n with
      | error e => rfl
      | ok x => exact (bind_map_append x (fill value ps) (fill value qs)).symm

theorem fill_append_eq_ok_iff {ps qs : List Part} {t : List Char} :
    fill value (ps ++ qs) = .ok t ↔
      ∃ x y, fill value ps = .ok x ∧ fill value qs = .ok y ∧ t = x ++ y := by
  rw [fill_append, bind_eq_ok_iff]
  simp only [map_eq_ok_iff]
  constructor
  · rintro ⟨x, hx, y, hy, rfl⟩
    exact ⟨x, y, hx, hy, rfl⟩
  · rintro ⟨x, y, hx, hy, rfl⟩
    exact ⟨x, hx, y, hy, rfl⟩

theorem fill_kept_cons_eq_ok_iff {c : Char} {ps : List Part} {t : List Char} :
    fill value (kept c :: ps) = .ok t ↔ ∃ x, fill value ps = .ok x ∧ t = c :: x := by
  rw [fill, map_eq_ok_iff]
  exact exists_congr fun x => and_congr_right fun _ => eq_comm

/-- What is kept is kept. -/
theorem fill_map_kept (t : List Char) : fill value (t.map kept) = .ok t := by
  induction t with
  | nil => rfl
  | cons c t ih =>
    rw [List.map_cons, fill, ih]
    rfl

theorem fill_reference (p n : List Char) : fill value [reference p n] = value p n := by
  rw [fill]
  cases value p n with
  | error e => rfl
  | ok x => exact congrArg Except.ok (List.append_nil x)

theorem fill_concat_kept_eq_ok_iff {c : Char} {ps : List Part} {t : List Char} :
    fill value (ps ++ [kept c]) = .ok t ↔ ∃ x, fill value ps = .ok x ∧ t = x ++ [c] := by
  have hkept : fill value [kept c] = .ok [c] := fill_map_kept [c]
  rw [fill_append_eq_ok_iff]
  simp [hkept]

theorem fill_concat_reference_eq_ok_iff {p n : List Char} {ps : List Part} {t : List Char} :
    fill value (ps ++ [reference p n]) = .ok t ↔
      ∃ x y, fill value ps = .ok x ∧ value p n = .ok y ∧ t = x ++ y := by
  rw [fill_append_eq_ok_iff, fill_reference]

end Part

/-! ### The parts of a text -/

/-- The parts of a segment: code is cut, and the characters of a literal are kept. -/
def Segment.parts (marked : Bool) (s : Segment) : List Part :=
  if s.isCode then TripletFacts.parts marked true s.text else s.text.map .kept

/-- The parts of a text: those of its segments. -/
def textParts (marked : Bool) (text : List Char) : List Part :=
  (segments text).flatMap (Segment.parts marked)

section

variable {marked : Bool}

/-- A pass that fills the parts of code fills the parts of a text. -/
theorem mapCode_eq_fill {ε : Type} {value : List Char → List Char → Except ε (List Char)}
    {pass : List Char → Except ε (List Char)}
    (h : ∀ code, pass code = Part.fill value (parts marked true code)) (text : List Char) :
    mapCode pass text = Part.fill value (textParts marked text) := by
  have hsegments : ∀ ss,
      mapSegments pass ss = Part.fill value (ss.flatMap (Segment.parts marked)) := by
    intro ss
    induction ss with
    | nil => rfl
    | cons s ss ih =>
      have hseg : s.mapCode pass = Part.fill value (s.parts marked) := by
        rw [Segment.mapCode, Segment.parts]
        split
        · exact h s.text
        · exact (Part.fill_map_kept s.text).symm
      rw [mapSegments_cons, List.flatMap_cons, Part.fill_append, ih, hseg]
  exact hsegments (segments text)

@[simp] theorem textParts_nil : textParts marked [] = [] := by
  rw [textParts, segments]
  rfl

variable (marked)

/-- Code in front of a literal is cut by itself. -/
theorem textParts_code_append {u y : List Char} (hu : quoteFree u = true)
    (hy : y.head?.all isQuote = true) :
    textParts marked (u ++ y) = parts marked true u ++ textParts marked y := by
  rw [textParts, textParts, segments_append_code hu]
  cases y with
  | nil => by_cases hnil : u = [] <;> simp [segments, consCode, hnil, Segment.parts]
  | cons q y =>
    have hq : isQuote q = true := by simpa using hy
    by_cases hnil : u = [] <;> simp [segments, consCode, hnil, hq, Segment.parts]

theorem textParts_of_quoteFree {u : List Char} (hu : quoteFree u = true) :
    textParts marked u = parts marked true u := by
  have h := textParts_code_append marked hu (y := []) rfl
  rwa [List.append_nil, textParts_nil, List.append_nil] at h

/-- A text goes on with a literal where its code ends. -/
theorem exists_code (y : List Char) :
    ∃ u z, y = u ++ z ∧ quoteFree u = true ∧ z.head?.all isQuote = true := by
  refine ⟨y.takeWhile (!isQuote ·), y.dropWhile (!isQuote ·),
    List.takeWhile_append_dropWhile.symm, List.all_takeWhile, ?_⟩
  have hhead := List.head?_dropWhile_not (!isQuote ·) y
  cases hdrop : y.dropWhile (!isQuote ·) with
  | nil => rfl
  | cons c z =>
    rw [hdrop] at hhead
    simpa using hhead

/-- The parts before a blank and the parts behind it. -/
theorem textParts_append_blank {w : List Char} (hw : quoteFree w = true) (y : List Char) :
    textParts marked (w ++ ' ' :: y) = textParts marked w ++ .kept ' ' :: textParts marked y := by
  obtain ⟨u, z, rfl, hu, hz⟩ := exists_code y
  have hblank : isBoundary ' ' = true := by decide
  have hcode : quoteFree (w ++ ' ' :: u) = true :=
    quoteFree_append.2 ⟨hw, quoteFree_cons.2 ⟨by decide, hu⟩⟩
  have happend : w ++ ' ' :: (u ++ z) = (w ++ ' ' :: u) ++ z := by simp
  rw [happend, textParts_code_append marked hcode hz, textParts_code_append marked hu hz,
    textParts_of_quoteFree marked hw, parts_append (isForeign_of_isBoundary hblank marked), hblank]
  simp

/-- A literal is kept. -/
theorem textParts_closed_append {l : List Char} (hl : IsClosed l) (y : List Char) :
    textParts marked (l ++ y) = l.map .kept ++ textParts marked y := by
  rw [textParts, segments_append_closed hl, List.flatMap_cons]
  rfl

end

/-! ### The passes -/

namespace Settings

theorem mapCode_substituteMarked (facts : Facts) (text : List Char) :
    mapCode (standard.substituteMarked facts) text =
      Part.fill (fun p n => facts.operandOf p n (writtenReference true p n))
        (textParts true text) :=
  mapCode_eq_fill (substituteMarked_eq_fill facts) text

theorem mapCode_substituteBare (db : Facts) (text : List Char) :
    mapCode (standard.substituteBare db) text =
      Part.fill (fun p n => db.operandOf p n (writtenReference false p n))
        (textParts false text) :=
  mapCode_eq_fill (substituteBare_eq_fill db) text

end Settings

end TripletFacts
