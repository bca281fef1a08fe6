import TripletFacts.Proofs.Expr.Words
import TripletFacts.Triplet.Basic

/-!
# Templates of conditions

A template is a text with places for the texts of facts. It is made of pieces of code, of literals
that are written in the condition, and of places where the literal of a fact is spliced in. Filling
a template gives a text, and the segments of this text are the pieces of the template, with pieces
of code that meet joined: whatever the facts say, a spliced literal ends where it should.

## Main definitions

* `Place`, `Piece`: places of facts, and pieces of a template.
* `Piece.segment`, `Template.fill`: the segment of a piece, and the text of a template.
* `Template.WellFormed`: code has no quotes, and only the last literal may be open.
* `Template.join`: the template with pieces of code that meet joined.
* `Template.ofSegments`: the template of a text without places.

## Main results

* `Template.segments_fill`: the segments of a text that fills a template.
* `Template.wellFormed_ofSegments`: the template of a text is well formed.
-/

namespace TripletFacts

/-- The place of a fact in a condition: a fact of the first collection or of the second one, and its
key. -/
structure Place where
  marked : Bool
  key : Key
deriving DecidableEq

/-- The texts of the facts that are texts. -/
abbrev Texts := Place → Option String

/-- A piece of a condition. -/
inductive Piece where
  | code (text : List Char)
  /-- A literal that is written in the condition. -/
  | written (text : List Char)
  /-- The literal of a fact. -/
  | spliced (place : Place)

/-- The segment that a piece becomes. -/
def Piece.segment (p : Texts) : Piece → Segment
  | code t => ⟨true, t⟩
  | written t => ⟨false, t⟩
  | spliced x => ⟨false, (Value.str ((p x).getD "")).literal⟩

/-- Pieces of a condition, one after the other. -/
abbrev Template := List Piece

/-! ### Literals -/

/-- A literal that ends where its text ends, whatever comes after it. -/
def IsClosed (t : List Char) : Prop :=
  ∃ q body, isQuote q = true ∧ t = q :: body ∧
    ∀ rest, splitLiteral q false (body ++ rest) = (body, rest)

/-- A literal that reaches to the end of the text. -/
def IsOpen (t : List Char) : Prop :=
  ∃ q body, isQuote q = true ∧ t = q :: body ∧ splitLiteral q false body = (body, [])

theorem isClosed_literal (s : String) : IsClosed (Value.str s).literal := by
  refine ⟨'\'', Value.escape s.toList ++ ['\''], by decide, rfl, fun rest => ?_⟩
  rw [List.append_assoc]
  exact splitLiteral_escape s.toList rest

/-- Cutting a literal off does not depend on what follows it, if something does. -/
theorem splitLiteral_closed {quote : Char} {escaped : Bool} {cs : List Char}
    (h : (splitLiteral quote escaped cs).2 ≠ []) (rest : List Char) :
    splitLiteral quote escaped ((splitLiteral quote escaped cs).1 ++ rest) =
      ((splitLiteral quote escaped cs).1, rest) := by
  fun_induction splitLiteral quote escaped cs with
  | case1 => exact absurd rfl h
  | case2 => simp_all [splitLiteral]
  | case3 => simp_all [splitLiteral]
  | case4 => simp_all [splitLiteral]
  | case5 => simp_all [splitLiteral]

/-- What is cut off at the end of a text is open. -/
theorem splitLiteral_open {quote : Char} {escaped : Bool} {cs : List Char}
    (h : (splitLiteral quote escaped cs).2 = []) :
    splitLiteral quote escaped (splitLiteral quote escaped cs).1 =
      ((splitLiteral quote escaped cs).1, []) := by
  have happend := splitLiteral_append quote escaped cs
  rw [h, List.append_nil] at happend
  rw [happend]
  exact Prod.ext happend h

/-! ### Segments of parts -/

/-- Code in front of segments: it is joined with the code that comes first. -/
def consCode (t : List Char) : List Segment → List Segment
  | ⟨true, u⟩ :: ss => ⟨true, t ++ u⟩ :: ss
  | ss => if t = [] then ss else ⟨true, t⟩ :: ss

theorem segments_append_code {t : List Char} (ht : quoteFree t = true) (rest : List Char) :
    segments (t ++ rest) = consCode t (segments rest) := by
  cases t with
  | nil =>
    cases h : segments rest with
    | nil => simp [consCode, h]
    | cons s ss =>
      obtain ⟨isCode, u⟩ := s
      cases isCode <;> simp [consCode, h]
  | cons c cs =>
    rw [quoteFree_cons] at ht
    have hcs : ∀ x ∈ cs, (!isQuote x) = true := List.all_eq_true.1 ht.2
    rw [List.cons_append, segments, if_neg (by simp [ht.1]), List.takeWhile_append_of_pos hcs,
      List.dropWhile_append_of_pos hcs]
    cases rest with
    | nil => simp [segments, consCode]
    | cons d rest =>
      cases hd : isQuote d with
      | true => simp [segments, consCode, hd]
      | false => simp [segments, consCode, hd]

theorem segments_of_quoteFree {t : List Char} (ht : quoteFree t = true) :
    segments t = if t = [] then [] else [⟨true, t⟩] := by
  have happend := segments_append_code ht []
  rw [List.append_nil, segments, consCode] at happend
  · exact happend
  · simp

/-- A pass over code is a pass over the text. -/
theorem mapCode_of_quoteFree {ε : Type} (pass : List Char → Except ε (List Char)) {t : List Char}
    (ht : quoteFree t = true) (hne : t ≠ []) : mapCode pass t = pass t := by
  rw [mapCode, segments_of_quoteFree ht, if_neg hne, List.mapM_cons, List.mapM_nil,
    Segment.mapCode, if_pos rfl]
  cases h : pass t with
  | error e => rfl
  | ok u => exact congrArg Except.ok (List.append_nil u)

theorem segments_append_closed {t : List Char} (h : IsClosed t) (rest : List Char) :
    segments (t ++ rest) = ⟨false, t⟩ :: segments rest := by
  obtain ⟨q, body, hq, rfl, hsplit⟩ := h
  rw [List.cons_append, segments, if_pos hq, hsplit]

theorem segments_of_isOpen {t : List Char} (h : IsOpen t) : segments t = [⟨false, t⟩] := by
  obtain ⟨q, body, hq, rfl, hsplit⟩ := h
  rw [segments, if_pos hq, hsplit, segments]

namespace Template

/-! ### Filling a template -/

/-- The text of a template. -/
def fill (p : Texts) (K : Template) : List Char := K.flatMap fun x => (x.segment p).text

/-- Code has no quotes, and a literal that is written is closed unless it comes last. -/
def WellFormed : Template → Prop
  | [] => True
  | .code t :: K => quoteFree t = true ∧ WellFormed K
  | .written t :: K => (IsClosed t ∨ IsOpen t ∧ K = []) ∧ WellFormed K
  | .spliced _ :: K => WellFormed K

/-- Code in front of a template: it is joined with the code that comes first. -/
def consCode (t : List Char) : Template → Template
  | .code u :: K => .code (t ++ u) :: K
  | K => if t = [] then K else .code t :: K

/-- The template with pieces of code that meet joined, and without empty ones. -/
def join : Template → Template
  | [] => []
  | .code t :: K => consCode t (join K)
  | .written t :: K => .written t :: join K
  | .spliced x :: K => .spliced x :: join K

/-- The literals that are written in a condition. -/
def literals (K : Template) : List (List Char) :=
  K.filterMap fun
    | .written t => some t
    | .code _ | .spliced _ => none

/-- The places of a template. -/
def places (K : Template) : List Place :=
  K.filterMap fun
    | .spliced x => some x
    | .code _ | .written _ => none

theorem map_segment_consCode (p : Texts) (t : List Char) (K : Template) :
    (consCode t K).map (Piece.segment p) = TripletFacts.consCode t (K.map (Piece.segment p)) := by
  cases K with
  | nil => by_cases h : t = [] <;> simp [consCode, TripletFacts.consCode, h, Piece.segment]
  | cons x K =>
    cases x <;> by_cases h : t = [] <;> simp [consCode, TripletFacts.consCode, h, Piece.segment]

/-- The segments of a text that fills a template are its pieces. -/
theorem segments_fill (p : Texts) {K : Template} (hK : K.WellFormed) :
    segments (fill p K) = K.join.map (Piece.segment p) := by
  induction K with
  | nil => simp [fill, join, segments]
  | cons x K ih =>
    rw [fill, List.flatMap_cons, ← fill]
    cases x with
    | code t =>
      rw [join, map_segment_consCode, ← ih hK.2]
      exact segments_append_code hK.1 _
    | written t =>
      obtain ⟨hclosed | ⟨hopen, rfl⟩, hrest⟩ := hK
      · rw [join, List.map_cons, ← ih hrest]
        exact segments_append_closed hclosed _
      · simpa [fill, join, Piece.segment] using segments_of_isOpen hopen
    | spliced y =>
      rw [join, List.map_cons, ← ih hK]
      exact segments_append_closed (isClosed_literal _) _

theorem literals_consCode (t : List Char) (K : Template) :
    (consCode t K).literals = K.literals := by
  unfold consCode
  split
  · rfl
  · split <;> rfl

theorem literals_join (K : Template) : K.join.literals = K.literals := by
  induction K with
  | nil => rfl
  | cons x K ih =>
    cases x with
    | code t => rw [join, literals_consCode, ih]; rfl
    | written t => exact congrArg (t :: ·) ih
    | spliced y => exact ih

theorem places_consCode (t : List Char) (K : Template) : (consCode t K).places = K.places := by
  unfold consCode
  split
  · rfl
  · split <;> rfl

theorem places_join (K : Template) : K.join.places = K.places := by
  induction K with
  | nil => rfl
  | cons x K ih =>
    cases x with
    | code t => rw [join, places_consCode, ih]; rfl
    | written t => exact ih
    | spliced y => exact congrArg (y :: ·) ih

theorem wellFormed_consCode {t : List Char} (ht : quoteFree t = true) {K : Template}
    (hK : K.WellFormed) : (consCode t K).WellFormed := by
  unfold consCode
  split
  · exact ⟨quoteFree_append.2 ⟨ht, hK.1⟩, hK.2⟩
  · split
    · exact hK
    · exact ⟨ht, hK⟩

theorem WellFormed.join {K : Template} (hK : K.WellFormed) : K.join.WellFormed := by
  induction K with
  | nil => exact hK
  | cons x K ih =>
    cases x with
    | code t => exact wellFormed_consCode hK.1 (ih hK.2)
    | written t =>
      refine ⟨hK.1.imp_right fun h => ⟨h.1, ?_⟩, ih hK.2⟩
      rw [h.2, Template.join]
    | spliced y => exact ih hK

/-- Joining pieces of code does not change the text. -/
theorem fill_join (p : Texts) {K : Template} (hK : K.WellFormed) : fill p K.join = fill p K := by
  have htext := text_segments (fill p K)
  rw [segments_fill p hK, List.flatMap_map] at htext
  exact htext

/-- Where no literal is written, any well-formed template may follow. -/
theorem WellFormed.append {K L : Template} (hK : K.WellFormed) (hL : L.WellFormed)
    (hwritten : K.literals = []) : (K ++ L).WellFormed := by
  induction K with
  | nil => exact hL
  | cons x K ih =>
    cases x with
    | code t => exact ⟨hK.1, ih hK.2 hwritten⟩
    | written t => cases hwritten
    | spliced y => exact ih hK hwritten

theorem fill_append (p : Texts) (K L : Template) : fill p (K ++ L) = fill p K ++ fill p L :=
  List.flatMap_append

theorem literals_append (K L : Template) : (K ++ L).literals = K.literals ++ L.literals :=
  List.filterMap_append

theorem places_append (K L : Template) : (K ++ L).places = K.places ++ L.places :=
  List.filterMap_append

/-! ### Templates without places -/

/-- A template of code alone gives code. -/
theorem quoteFree_fill (p : Texts) {K : Template} (hK : K.WellFormed) (hliterals : K.literals = [])
    (hplaces : K.places = []) : quoteFree (fill p K) = true := by
  induction K with
  | nil => rfl
  | cons x K ih =>
    cases x with
    | code t => exact quoteFree_append.2 ⟨hK.1, ih hK.2 hliterals hplaces⟩
    | written t => cases hliterals
    | spliced y => cases hplaces

/-- The template of segments. -/
def ofSegments (ss : List Segment) : Template :=
  ss.map fun s => if s.isCode then .code s.text else .written s.text

theorem wellFormed_ofSegments (text : List Char) : (ofSegments (segments text)).WellFormed := by
  fun_induction segments text with
  | case1 => trivial
  | case2 c cs hc ih =>
    refine ⟨?_, ih⟩
    by_cases h : (splitLiteral c false cs).2 = []
    · refine .inr ⟨⟨c, _, hc, rfl, splitLiteral_open h⟩, ?_⟩
      rw [h, segments]
      rfl
    · exact .inl ⟨c, _, hc, rfl, splitLiteral_closed h⟩
  | case3 c cs hc ih =>
    exact ⟨quoteFree_cons_takeWhile hc cs, ih⟩

theorem places_ofSegments (ss : List Segment) : (ofSegments ss).places = [] := by
  induction ss with
  | nil => rfl
  | cons s ss ih =>
    obtain ⟨isCode, t⟩ := s
    cases isCode <;> exact ih

end Template

end TripletFacts
