import TripletFacts.Proofs.Facts.Marks

/-!
# The way over a triplet

Under the standard settings the pattern of triplets goes over a triplet in a text from its mark to
its own end. A value and a comment that may be written do not have the marks that would end them,
and so nothing behind a quote in them looks like the rest of a triplet.

## Main definitions

* `Parts.Legible`: parts that can be told apart.
* `Settings.tripletRegex`: the expression of triplets.

## Main results

* `Parts.Legible.before`: such parts are told apart whatever comes after the triplet.
* `Parts.exists_prefers`: the pattern goes over a triplet and keeps its parts.
-/

namespace TripletFacts

open Regex Cursor

/-! ### Parts -/

namespace Parts

/-- A comment in its quotes. -/
def commentText : Option (List Char) → List Char
  | none => []
  | some c => '"' :: (c ++ ['"'])

/-- The value with the mark of a request. -/
def raw (p : Parts) : List Char := (if p.bid then [':'] else []) ++ p.value

/-- A triplet of the parts. -/
def text (p : Parts) : List Char :=
  '$' :: (p.pfx ++ '.' :: (p.name.getD [] ++ '=' :: (p.raw ++ (commentText p.comment ++ [';']))))

/-- The text of a value: a text in quotes without the marks that would end it, or a text on one line
without any marks. -/
inductive IsValue : List Char → Prop
  | quoted {s : List Char} (hend : occursIn ['\'', ';'] s = false)
      (hcomment : occursIn ['\'', '"'] s = false) : IsValue ('\'' :: (s ++ ['\'']))
  | plain {v : List Char} (hv : ∀ x ∈ v, x ∉ ['\n', ';', '"'])
      (hhead : v.head? ∉ [some '\'', some ':']) : IsValue v

/-- Parts that are told apart in a triplet. -/
structure Legible (p : Parts) : Prop where
  pfx : IsWord p.pfx
  name : ∀ n ∈ p.name, IsWord n
  value : IsValue p.value
  comment : ∀ c ∈ p.comment, occursIn ['"', ';'] c = false

/-- The parts are kept. -/
structure KeptIn (p : Parts) (g : Captures) : Prop where
  pfx : (g.lookup 1).map Span.text = some p.pfx
  name : (g.lookup 2).map Span.text = p.name
  value : (g.lookup 3).map Span.text = some p.raw
  comment : (g.lookup 4).map Span.text = p.comment

end Parts

/-! ### The pattern -/

namespace Settings

/-- The expression of what stands after a value: perhaps a comment, and the end. -/
def closingRegex : Regex :=
  .seq (.alt .unit (.seq (.literal ['"']) (.seq (.group 4 (.star false (.char fun _ => true)))
    (.literal ['"'])))) (.literal [';'])

/-- The expression of a value without the mark of a request. -/
def bodyRegex : Regex :=
  .alt (.seq (.literal ['\'']) (.seq (.star false (.char fun _ => true)) (.literal ['\''])))
    (.star false (.char fun c => c != '\n'))

/-- The expression of a value. -/
def valueRegex : Regex := .group 3 (.seq (.alt (.literal [':']) .unit) bodyRegex)

/-- The expression of triplets. -/
def tripletRegex : Regex :=
  .seq (.literal ['$']) (.seq (wordRegex 1) (.seq (.literal ['.']) (.seq (.alt .unit (wordRegex 2))
    (.seq (.literal ['=']) (.seq valueRegex closingRegex)))))

theorem regex_triplet : standard.regex .triplet = tripletRegex := rfl

end Settings

/-! ### Parts that are told apart -/

namespace Parts

variable {p : Parts} {v : List Char}

/-- A value is told apart before a comment and before the mark of the end. -/
theorem IsValue.before (hv : IsValue v) {a : List Char} (ha : a.head? ∈ [some ';', some '"']) :
    Marks.standard.IsValue a v := by
  cases hv with
  | quoted hend hcomment =>
    exact .quoted (.of_occursIn hend hcomment fun _ =>
      Marks.cons_ne_commentText (by decide) (by decide) a)
  | plain hv hhead =>
    refine .plain hv fun hmem => ?_
    cases v with
    | nil =>
      rw [List.nil_append] at hmem
      simp only [List.mem_cons, List.not_mem_nil, or_false] at ha hmem
      rcases ha with ha | ha <;> simp [ha, Marks.standard] at hmem
    | cons d v => exact hhead hmem

/-- The mark of a request is no part of a value. -/
theorem IsValue.head?_ne (hv : IsValue v) : v.head? ≠ some ':' := by
  cases hv with
  | quoted => simp
  | plain hv hhead => exact fun h => hhead (by simp [h])

/-- Parts that are told apart are so whatever comes after the triplet. -/
theorem Legible.before (hp : p.Legible) (a : List Char) : Marks.standard.Legible a p where
  pfx := hp.pfx
  name := hp.name
  value := by
    refine hp.value.before ?_
    cases p.comment <;> simp [Marks.commentText, Marks.standard]
  comment := hp.comment

theorem commentText_eq (comment : Option (List Char)) :
    commentText comment = Marks.standard.commentText comment := by
  cases comment <;> rfl

theorem text_eq (p : Parts) : p.text = Marks.standard.text p := by
  rw [text, commentText_eq]
  rfl

/-- The pattern goes over a triplet to its own end, whatever comes after it, and keeps its parts. -/
theorem exists_prefers (hp : p.Legible) (b a : List Char) :
    ∃ g, p.KeptIn g ∧ (Settings.standard.regex .triplet).Prefers (between b (p.text ++ a)) []
      (between (p.text.reverse ++ b) a) g := by
  obtain ⟨g, hkeeps, hway⟩ := Marks.exists_prefers Marks.apart_standard (hp.before a) b
  rw [text_eq]
  exact ⟨g, ⟨hkeeps.pfx, hkeeps.name, hkeeps.value, hkeeps.comment⟩, hway⟩

end Parts

end TripletFacts
