import TripletFacts.Proofs.Facts.References
import TripletFacts.Proofs.Regex.Language
import TripletFacts.Triplet.Build

/-!
# Triplets under any marks

The marks, separators and quotes of the notation are settings. Here each of them is a character, and
the pattern of triplets is taken with these characters. It goes over a triplet in a text from its
mark to its own end: words end where a separator stands, and lazy loops go over the characters of a
value and of a comment as long as nothing behind a quote looks like the rest of a triplet.

## Main definitions

* `Parts`: the texts of the parts of a triplet.
* `Marks`: the characters of the notation.
* `Marks.tripletRegex`: the expression of triplets.
* `Marks.StaysOpen`: texts in quotes that are not closed too early.
* `Marks.Legible`: parts that can be told apart.

## Main results

* `Settings.HasMarks.regex_triplet`: the pattern of triplets under settings with these marks.
* `Marks.takes_closingRegex`: what may stand after a value.
* `Marks.exists_prefers`: the pattern goes over a triplet and keeps its parts.
* `Marks.exists_matchesIn_text`: in the text of a triplet only this triplet is found.
-/

namespace TripletFacts

open Regex Cursor

/-! ### Parts -/

/-- The texts of the parts of a triplet. -/
structure Parts where
  pfx : List Char
  name : Option (List Char)
  bid : Bool
  value : List Char
  comment : Option (List Char)

/-- A word. -/
def Parts.IsWord (w : List Char) : Prop := w ≠ [] ∧ ∀ x ∈ w, Unicode.isWord x = true

/-- The marks, separators and quotes of the notation, each of them a character. -/
structure Marks where
  start : Char
  nameSeparator : Char
  valueSeparator : Char
  bid : Char
  stop : Char
  valueQuote : Char
  commentQuote : Char

namespace Marks

/-- The marks that apply where nothing else is said. -/
def standard : Marks where
  start := '$'
  nameSeparator := '.'
  valueSeparator := '='
  bid := ':'
  stop := ';'
  valueQuote := '\''
  commentQuote := '"'

/-- Marks that can be told apart: the separators are no word characters, neither a request nor the
end begins as a text in quotes, and the end is no quote of a comment. -/
structure Apart (m : Marks) : Prop where
  nameSeparator : Unicode.isWord m.nameSeparator = false
  valueSeparator : Unicode.isWord m.valueSeparator = false
  bid : m.bid ≠ m.valueQuote
  stop : m.stop ≠ m.valueQuote
  stop_comment : m.stop ≠ m.commentQuote

theorem apart_standard : standard.Apart := by constructor <;> decide

variable (m : Marks)

/-- A comment in its quotes. -/
def commentText : Option (List Char) → List Char
  | none => []
  | some c => m.commentQuote :: (c ++ [m.commentQuote])

/-- A text in quotes. -/
def quotedText (s : List Char) : List Char := m.valueQuote :: (s ++ [m.valueQuote])

/-- The value of a triplet with the mark of a request. -/
def raw (p : Parts) : List Char := (if p.bid then [m.bid] else []) ++ p.value

/-- A triplet of the parts. -/
def text (p : Parts) : List Char :=
  m.start :: (p.pfx ++ m.nameSeparator :: (p.name.getD [] ++
    m.valueSeparator :: (m.raw p ++ (m.commentText p.comment ++ [m.stop]))))

/-- A text in quotes before another text is closed by its own last quote: behind none of the quotes
in it stands what may stand after a value. -/
def StaysOpen (s a : List Char) : Prop :=
  ∀ u v, s = u ++ m.valueQuote :: v → ∀ comment rest,
    v ++ m.valueQuote :: a ≠ m.commentText comment ++ m.stop :: rest

/-- The text of a value before another text: a text in quotes that stays open, or a text on one line
without marks. -/
inductive IsValue (a : List Char) : List Char → Prop
  | quoted {s : List Char} (hopen : m.StaysOpen s a) : IsValue a (m.quotedText s)
  | plain {v : List Char} (hv : ∀ x ∈ v, x ∉ ['\n', m.stop, m.commentQuote])
      (hhead : (v ++ a).head? ∉ [some m.valueQuote, some m.bid]) : IsValue a v

/-- Parts that are told apart in a triplet before another text. -/
structure Legible (a : List Char) (p : Parts) : Prop where
  pfx : Parts.IsWord p.pfx
  name : ∀ n ∈ p.name, Parts.IsWord n
  value : m.IsValue (m.commentText p.comment ++ m.stop :: a) p.value
  comment : ∀ c ∈ p.comment, occursIn [m.commentQuote, m.stop] c = false

/-- The parts are kept. -/
structure Keeps (p : Parts) (g : Captures) : Prop where
  pfx : (g.lookup 1).map Span.text = some p.pfx
  name : (g.lookup 2).map Span.text = p.name
  value : (g.lookup 3).map Span.text = some (m.raw p)
  comment : (g.lookup 4).map Span.text = p.comment

end Marks

/-- A text that does not occur does not begin anywhere. -/
theorem not_prefix_of_occursIn {c d : Char} {s : List Char} (h : occursIn [c, d] s = false)
    {p q : List Char} (hs : s = p ++ c :: q) : q.head? ≠ some d := by
  subst hs
  induction p with
  | nil =>
    intro hq
    obtain ⟨q, rfl⟩ := List.head?_eq_some_iff.1 hq
    simp [occursIn] at h
  | cons x p ih =>
    simp only [List.cons_append, occursIn, Bool.or_eq_false_iff] at h
    exact ih h.2

/-! ### The pattern -/

namespace Marks

variable (m : Marks)

/-- The expression of what stands after a value: perhaps a comment, and the end. -/
def closingRegex : Regex :=
  .seq (.alt .unit (.seq (.literal [m.commentQuote])
    (.seq (.group 4 (.star false (.char fun _ => true))) (.literal [m.commentQuote]))))
    (.literal [m.stop])

/-- The expression of a value without the mark of a request. -/
def bodyRegex : Regex :=
  .alt (.seq (.literal [m.valueQuote])
    (.seq (.star false (.char fun _ => true)) (.literal [m.valueQuote])))
    (.star false (.char fun c => c != '\n'))

/-- The expression of a value. -/
def valueRegex : Regex := .group 3 (.seq (.alt (.literal [m.bid]) .unit) m.bodyRegex)

/-- The expression of triplets. -/
def tripletRegex : Regex :=
  .seq (.literal [m.start]) (.seq (Settings.wordRegex 1) (.seq (.literal [m.nameSeparator])
    (.seq (.alt .unit (Settings.wordRegex 2)) (.seq (.literal [m.valueSeparator])
      (.seq m.valueRegex m.closingRegex)))))

end Marks

/-- The marks of the settings are these characters. -/
structure Settings.HasMarks (s : Settings) (m : Marks) : Prop where
  start : s.startMark.toList = [m.start]
  nameSeparator : s.nameSeparator.toList = [m.nameSeparator]
  valueSeparator : s.valueSeparator.toList = [m.valueSeparator]
  bid : s.bidMark.toList = [m.bid]
  stop : s.endMark.toList = [m.stop]
  valueQuote : s.valueQuote.toList = [m.valueQuote]
  commentQuote : s.commentQuote.toList = [m.commentQuote]

theorem Settings.hasMarks_standard : standard.HasMarks .standard := by constructor <;> rfl

theorem Settings.HasMarks.regex_triplet {s : Settings} {m : Marks} (h : s.HasMarks m) :
    s.regex .triplet = m.tripletRegex := by
  simp only [regex, pattern, tripletPattern, valuePattern, commentPattern, Pattern.regex,
    Pattern.compile, h.start, h.nameSeparator, h.valueSeparator, h.bid, h.stop, h.valueQuote,
    h.commentQuote]
  rfl

/-! ### What is kept -/

/-- The texts that are kept under a number after more has been kept under it. -/
structure Adds (index : Nat) (text : Option (List Char)) (g g' : Captures) : Prop where
  same : ∀ i ≠ index, g'.lookup i = g.lookup i
  text : g.lookup index = none → (g'.lookup index).map Span.text = text

theorem adds_none (index : Nat) (g : Captures) : Adds index none g g :=
  ⟨fun _ _ => rfl, fun h => by rw [h]; rfl⟩

/-- A stretch of the text is kept. -/
theorem adds_between (index : Nat) (b u r : List Char) (g : Captures) :
    Adds index (some u) g
      ((index, ⟨between b (u ++ r), between (u.reverse ++ b) r⟩) :: g) := by
  refine ⟨fun i hi => ?_, fun _ => ?_⟩
  · rw [List.lookup_cons, beq_eq_false_iff_ne.2 hi]
  · rw [List.lookup_cons_self]
    exact congrArg some (Span.text_between b u r)

/-- The four parts are kept one after the other. -/
theorem Marks.keeps_of_adds {m : Marks} {p : Parts} {g₁ g₂ g₃ g₄ : Captures}
    (h₁ : Adds 1 (some p.pfx) [] g₁) (h₂ : Adds 2 p.name g₁ g₂)
    (h₃ : Adds 3 (some (m.raw p)) g₂ g₃) (h₄ : Adds 4 p.comment g₃ g₄) : m.Keeps p g₄ where
  pfx := by
    rw [h₄.same 1 (by decide), h₃.same 1 (by decide), h₂.same 1 (by decide)]
    exact h₁.text rfl
  name := by
    rw [h₄.same 2 (by decide), h₃.same 2 (by decide)]
    exact h₂.text (h₁.same 2 (by decide))
  value := by
    rw [h₄.same 3 (by decide)]
    exact h₃.text ((h₂.same 3 (by decide)).trans (h₁.same 3 (by decide)))
  comment := h₄.text ((h₃.same 4 (by decide)).trans
    ((h₂.same 4 (by decide)).trans (h₁.same 4 (by decide))))

/-! ### Words -/

namespace Parts

open Settings

/-- A word is gone over as a whole where no word character follows. -/
theorem prefers_wordRegex {w : List Char} (hw : IsWord w) (index : Nat) {a : List Char}
    (ha : a.head?.any Unicode.isWord = false) (b : List Char) (g : Captures) :
    (wordRegex index).Prefers (between b (w ++ a)) g (between (w.reverse ++ b) a)
      ((index, ⟨between b (w ++ a), between (w.reverse ++ b) a⟩) :: g) :=
  Prefers.group (prefers_plus hw.1 hw.2 ha g)

theorem head?_append_ne {w : List Char} (hw : IsWord w) {d : Char}
    (hd : Unicode.isWord d = false) (a : List Char) : (w ++ a).head? ≠ some d := by
  obtain ⟨e, w, rfl⟩ := List.exists_cons_of_ne_nil hw.1
  have he := hw.2 e (by simp)
  rintro h
  obtain rfl : e = d := by simpa using h
  rw [he] at hd
  cases hd

/-- A name is gone over as a whole, and it is left aside only if there is none. -/
theorem exists_prefers_name {name : Option (List Char)} (h : ∀ n ∈ name, IsWord n) {d : Char}
    (hd : Unicode.isWord d = false) (b a : List Char) (g : Captures) :
    ∃ g₁, Adds 2 name g g₁ ∧ ∀ {r : Regex} {c' : Cursor} {g' : Captures},
      r.Prefers (between (d :: ((name.getD []).reverse ++ b)) a) g₁ c' g' →
        (Regex.seq (.alt .unit (wordRegex 2)) (.seq (.literal [d]) r)).Prefers
          (between b (name.getD [] ++ d :: a)) g c' g' := by
  cases name with
  | none =>
    exact ⟨g, adds_none 2 g, fun hr => Prefers.skip (Prefers.seq (prefers_literal [d] b a g) hr)⟩
  | some n =>
    have hn := h n rfl
    refine ⟨_, adds_between 2 b n (d :: a) g, fun hr => Prefers.take ?_
      (prefers_wordRegex hn 2 (a := d :: a) hd b g) (Prefers.seq (prefers_literal [d] _ a _) hr)⟩
    exact Fails.seq (fails_literal [] b (head?_append_ne hn hd _))

end Parts

/-! ### Texts in quotes -/

section

variable {α : Type} {k : Cursor → Captures → Option α} {x : α} {b a u : List Char} {g : Captures}

/-- A lazy loop goes on to the last quote if the rest of the work fails behind every other one. -/
theorem run_until_quote {quote : Char} (f : Cursor → Captures → Captures)
    (hfail : ∀ p q, u = p ++ quote :: q →
      ∀ b g, k (between b (q ++ quote :: a)) g = none)
    (hk : k (between (quote :: (u.reverse ++ b)) a)
      (f (between (u.reverse ++ b) (quote :: a)) g) = some x) :
    (Regex.star false (.char fun _ => true)).run (between b (u ++ quote :: a)) g
      (fun c' g' => (Regex.literal [quote]).run c' (f c' g') k) = some x := by
  refine run_star_lazy (fun _ _ => rfl) (fun p d q hq => ?_) ?_
  · by_cases hd : d = quote
    · subst hd
      exact (run_literal (a := q ++ d :: a) [d]).trans (hfail p q hq _ _)
    · exact run_literal_eq_none [] (by simpa using hd)
  · exact (run_literal (a := a) [quote]).trans hk

end

namespace Marks

/-! ### Comments -/

section

variable (m : Marks)

/-- After a value stand perhaps a comment, and the mark of the end. -/
theorem takes_closingRegex :
    m.closingRegex.Takes fun u => ∃ comment, u = m.commentText comment ++ [m.stop] := by
  have hcomment := (takes_literal [m.commentQuote]).seq
    (((takes_star_char false fun _ => true).group 4).seq (takes_literal [m.commentQuote]))
  refine ((takes_unit.alt hcomment).seq (takes_literal [m.stop])).congr fun u => ?_
  constructor
  · rintro ⟨_, _, rfl | ⟨_, _, rfl, ⟨c, _, -, rfl, rfl⟩, rfl⟩, rfl, rfl⟩
    · exact ⟨none, rfl⟩
    · exact ⟨some c, rfl⟩
  · rintro ⟨comment, rfl⟩
    refine ⟨_, [m.stop], ?_, rfl, rfl⟩
    cases comment with
    | none => exact .inl rfl
    | some c =>
      exact .inr ⟨[m.commentQuote], c ++ [m.commentQuote], rfl, ⟨c, _, fun _ _ => rfl, rfl, rfl⟩,
        rfl⟩

/-- Nothing else may stand after a value. -/
theorem fails_closingRegex {a : List Char}
    (h : ∀ comment rest, a ≠ m.commentText comment ++ m.stop :: rest) (b : List Char) :
    m.closingRegex.Fails (between b a) := by
  refine m.takes_closingRegex.fails ?_ b
  rintro _ rest ⟨comment, rfl⟩ ha
  exact h comment rest (by rw [ha, List.append_assoc, List.singleton_append])

end

variable {m : Marks}

theorem cons_ne_commentText {d : Char} (hstop : d ≠ m.stop) (hcomment : d ≠ m.commentQuote)
    (a : List Char) (comment : Option (List Char)) (rest : List Char) :
    d :: a ≠ m.commentText comment ++ m.stop :: rest := by
  cases comment <;> simp [commentText, hstop, hcomment]

/-- A text without the marks that would end it stays open if its last quote, where it ends with one,
and what comes behind it do not look like the rest of a triplet. -/
theorem StaysOpen.of_occursIn {s a : List Char}
    (hstop : occursIn [m.valueQuote, m.stop] s = false)
    (hcomment : occursIn [m.valueQuote, m.commentQuote] s = false)
    (hlast : s.getLast? = some m.valueQuote →
      ∀ comment rest, m.valueQuote :: a ≠ m.commentText comment ++ m.stop :: rest) :
    m.StaysOpen s a := by
  intro u v hs
  cases v with
  | nil => exact hlast (by rw [hs, List.getLast?_concat])
  | cons d v =>
    exact cons_ne_commentText (by simpa using not_prefix_of_occursIn hstop hs)
      (by simpa using not_prefix_of_occursIn hcomment hs) _

/-- A text stays open, whatever comes behind it, if there are no marks in it that would end it, also
where its own last quote stands. -/
theorem StaysOpen.of_occursIn_concat {s : List Char}
    (hstop : occursIn [m.valueQuote, m.stop] (s ++ [m.valueQuote]) = false)
    (hcomment : occursIn [m.valueQuote, m.commentQuote] (s ++ [m.valueQuote]) = false)
    (a : List Char) : m.StaysOpen s a := by
  intro u v hs
  have hconcat : s ++ [m.valueQuote] = u ++ m.valueQuote :: (v ++ [m.valueQuote]) := by simp [hs]
  have hstop := not_prefix_of_occursIn hstop hconcat
  have hcomment := not_prefix_of_occursIn hcomment hconcat
  obtain ⟨d, w, hw⟩ := List.exists_cons_of_ne_nil (List.concat_ne_nil m.valueQuote v)
  rw [hw] at hstop hcomment
  rw [List.append_cons, hw]
  exact cons_ne_commentText (by simpa using hstop) (by simpa using hcomment) _

/-- A comment is gone over to its own end. -/
theorem exists_prefers_closingRegex (hstop : m.stop ≠ m.commentQuote)
    {comment : Option (List Char)}
    (h : ∀ c ∈ comment, occursIn [m.commentQuote, m.stop] c = false) (b a : List Char)
    (g : Captures) :
    ∃ g', Adds 4 comment g g' ∧
      m.closingRegex.Prefers (between b (m.commentText comment ++ m.stop :: a)) g
        (between (m.stop :: ((m.commentText comment).reverse ++ b)) a) g' := by
  cases comment with
  | none => exact ⟨g, adds_none 4 g, Prefers.skip (prefers_literal [m.stop] b a g)⟩
  | some c =>
    refine ⟨_, adds_between 4 (m.commentQuote :: b) c (m.commentQuote :: m.stop :: a) g,
      ⟨fun k x hk => ?_⟩⟩
    have hskip : (literal [m.stop]).Fails
        (between b (m.commentQuote :: (c ++ m.commentQuote :: m.stop :: a))) :=
      fails_literal [] b (by simpa using hstop.symm)
    have htext : m.commentText (some c) ++ m.stop :: a =
        m.commentQuote :: (c ++ m.commentQuote :: m.stop :: a) := by
      simp [commentText]
    rw [htext, closingRegex, run_skip_of_none (hskip.run g k), run_seq]
    refine (run_literal (a := c ++ m.commentQuote :: m.stop :: a) [m.commentQuote]).trans ?_
    refine run_until_quote (fun c' g' =>
      (4, ⟨between (m.commentQuote :: b) (c ++ m.commentQuote :: m.stop :: a), c'⟩) :: g')
      (fun p q hq b g => ?_) ?_
    · refine run_literal_eq_none [] ?_
      cases q with
      | nil => simpa using hstop.symm
      | cons e q => simpa using not_prefix_of_occursIn (h c rfl) hq
    · refine (run_literal (a := a) [m.stop]).trans ?_
      simpa [commentText] using hk

/-! ### Values -/

section

variable {α : Type} {k : Cursor → Captures → Option α} {x : α} {b a v : List Char} {g : Captures}

/-- A value is gone over to its own end, if the rest of the work fails where nothing that may stand
after a value begins. -/
theorem run_bodyRegex (hv : m.IsValue a v)
    (hfail : ∀ {c}, m.closingRegex.Fails c → ∀ g, k c g = none)
    (hk : k (between (v.reverse ++ b) a) g = some x) :
    m.bodyRegex.run (between b (v ++ a)) g k = some x := by
  cases hv with
  | @quoted s hopen =>
    refine run_alt_of_some ?_
    rw [run_seq, quotedText, List.cons_append, List.append_assoc, List.singleton_append]
    refine (run_literal (a := s ++ m.valueQuote :: a) [m.valueQuote]).trans ?_
    refine run_until_quote (fun _ g => g) (fun p q hq b g => ?_) (by simpa [quotedText] using hk)
    exact hfail (m.fails_closingRegex (hopen p q hq) b) g
  | plain hv hhead =>
    rw [bodyRegex, run_alt_of_none]
    · refine run_star_lazy (fun y hy => ?_) (fun p d q hq => ?_) hk
      · have hy := hv y hy
        simp only [List.mem_cons, not_or] at hy
        simpa using hy.1
      · have hd := hv d (by simp [hq])
        simp only [List.mem_cons, List.not_mem_nil, or_false, not_or] at hd
        exact hfail (m.fails_closingRegex (cons_ne_commentText hd.2.1 hd.2.2 _) _) _
    · rw [run_seq]
      exact run_literal_eq_none [] fun h => hhead (by simp [h])

/-- The mark of a request is no part of a value. -/
theorem IsValue.head?_ne (h : m.Apart) (hv : m.IsValue a v) : (v ++ a).head? ≠ some m.bid := by
  cases hv with
  | quoted => simpa [quotedText] using h.bid.symm
  | plain hv hhead => exact fun h => hhead (by simp [h])

/-- A value with the mark of a request, or without it, is gone over to its own end. -/
theorem run_valueRegex (h : m.Apart) {p : Parts} (hv : m.IsValue a p.value)
    (hfail : ∀ {c}, m.closingRegex.Fails c → ∀ g, k c g = none)
    (hk : k (between ((m.raw p).reverse ++ b) a)
      ((3, ⟨between b (m.raw p ++ a), between ((m.raw p).reverse ++ b) a⟩) :: g) = some x) :
    m.valueRegex.run (between b (m.raw p ++ a)) g k = some x := by
  obtain ⟨pfx, name, bid, v, comment⟩ := p
  cases bid with
  | false =>
    have hmark := run_literal_eq_none (α := α) (b := b) (g := g)
      (k := fun c g' => m.bodyRegex.run c g' fun c' g' =>
        k c' ((3, ⟨between b (v ++ a), c'⟩) :: g')) [] (hv.head?_ne h)
    have hunmarked : (Regex.alt (.literal [m.bid]) .unit).run (between b (v ++ a)) g _ = _ :=
      run_alt_of_none hmark
    exact hunmarked.trans (run_bodyRegex hv (fun hc g => hfail hc _) hk)
  | true =>
    refine run_alt_of_some (k := fun c g' => m.bodyRegex.run c g' fun c' g' =>
      k c' ((3, ⟨between b (m.bid :: (v ++ a)), c'⟩) :: g')) ?_
    refine (run_literal (a := v ++ a) [m.bid]).trans
      (run_bodyRegex hv (fun hc g => hfail hc _) ?_)
    simpa [raw] using hk

end

/-! ### Triplets -/

variable {p : Parts}

/-- A value and what stands after it are gone over to the end of the triplet. -/
theorem exists_prefers_value (h : m.Apart) {a : List Char} (hp : m.Legible a p) (b : List Char)
    (g : Captures) :
    ∃ g₁ g', Adds 3 (some (m.raw p)) g g₁ ∧ Adds 4 p.comment g₁ g' ∧
      (Regex.seq m.valueRegex m.closingRegex).Prefers
        (between b (m.raw p ++ (m.commentText p.comment ++ m.stop :: a))) g
        (between (m.stop :: ((m.commentText p.comment).reverse ++ ((m.raw p).reverse ++ b))) a)
          g' := by
  obtain ⟨g', hadds, hclosing⟩ := exists_prefers_closingRegex h.stop_comment hp.comment
    ((m.raw p).reverse ++ b) a
    ((3, ⟨between b (m.raw p ++ (m.commentText p.comment ++ m.stop :: a)),
      between ((m.raw p).reverse ++ b) (m.commentText p.comment ++ m.stop :: a)⟩) :: g)
  refine ⟨_, g', adds_between 3 b (m.raw p) _ g, hadds, ⟨fun k x hk => ?_⟩⟩
  exact run_valueRegex (k := fun c g => m.closingRegex.run c g k) h hp.value
    (fun hc g => hc.run g k) (hclosing.run k x hk)

/-- The pattern goes over a triplet to its own end and keeps its parts. -/
theorem exists_prefers (h : m.Apart) {a : List Char} (hp : m.Legible a p) (b : List Char) :
    ∃ g, m.Keeps p g ∧ m.tripletRegex.Prefers (between b (m.text p ++ a)) []
      (between ((m.text p).reverse ++ b) a) g := by
  have hafter : m.text p ++ a = [m.start] ++ (p.pfx ++ m.nameSeparator :: (p.name.getD [] ++
      m.valueSeparator :: (m.raw p ++ (m.commentText p.comment ++ m.stop :: a)))) := by
    simp [text]
  have hbefore : (m.text p).reverse ++ b =
      m.stop :: ((m.commentText p.comment).reverse ++ ((m.raw p).reverse ++
        m.valueSeparator :: ((p.name.getD []).reverse ++
          m.nameSeparator :: (p.pfx.reverse ++ m.start :: b)))) := by
    simp [text]
  have hpfx := adds_between 1 (m.start :: b) p.pfx (m.nameSeparator :: (p.name.getD [] ++
    m.valueSeparator :: (m.raw p ++ (m.commentText p.comment ++ m.stop :: a)))) []
  obtain ⟨g₂, hname, hrest⟩ := Parts.exists_prefers_name hp.name h.valueSeparator
    (m.nameSeparator :: (p.pfx.reverse ++ m.start :: b))
    (m.raw p ++ (m.commentText p.comment ++ m.stop :: a)) _
  obtain ⟨g₃, g₄, hvalue, hcomment, hclosing⟩ := exists_prefers_value h hp
    (m.valueSeparator :: ((p.name.getD []).reverse ++
      m.nameSeparator :: (p.pfx.reverse ++ m.start :: b))) g₂
  refine ⟨g₄, keeps_of_adds hpfx hname hvalue hcomment, ?_⟩
  rw [hafter, hbefore]
  exact Prefers.seq (prefers_literal [m.start] b _ [])
    (Prefers.seq (Parts.prefers_wordRegex hp.pfx 1 (a := m.nameSeparator :: _)
      h.nameSeparator (m.start :: b) [])
      (Prefers.seq (prefers_literal [m.nameSeparator] _ _ _) (hrest hclosing)))

/-- A triplet at the beginning of a text is found first, and the search goes on behind it. -/
theorem exists_matchesIn_append (h : m.Apart) {a : List Char} (hp : m.Legible a p) :
    ∃ k, m.tripletRegex.matchesIn (m.text p ++ a) =
      k :: m.tripletRegex.findAll (between (m.text p).reverse a) false ∧ m.Keeps p k.captures := by
  obtain ⟨g, hkeeps, hway⟩ := exists_prefers h hp []
  rw [List.append_nil] at hway
  exact ⟨_, matchesIn_append (List.cons_ne_nil _ _) hway, hkeeps⟩

/-- Nothing is found at the end of a text. -/
theorem findFrom_nil (m : Marks) (b : List Char) :
    m.tripletRegex.findFrom (between b []) = none := by
  have hfails : m.tripletRegex.Fails (between b []) := Fails.seq (fails_literal [] b (by simp))
  rw [findFrom, hfails.matchAt]
  rfl

/-- In the text of a triplet this triplet is found, and nothing else. -/
theorem exists_matchesIn_text (h : m.Apart) (hp : m.Legible [] p) :
    ∃ k, m.tripletRegex.matchesIn (m.text p) = [k] ∧ m.Keeps p k.captures := by
  obtain ⟨k, hmatches, hkeeps⟩ := exists_matchesIn_append h hp
  rw [findAll_of_findFrom_eq_none (m.findFrom_nil _), List.append_nil] at hmatches
  exact ⟨k, hmatches, hkeeps⟩

end Marks

end TripletFacts
