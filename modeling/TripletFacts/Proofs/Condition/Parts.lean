import TripletFacts.Condition.Evaluate
import TripletFacts.Proofs.Facts.References
import TripletFacts.Proofs.Number.Characters
import TripletFacts.Proofs.Outcome
import TripletFacts.Proofs.Regex.Replacing

/-!
# References as parts of code

Code is made of references and of single characters between them. The two passes that replace
references cut code into such parts from left to right: a reference is taken as long as its words go
on, and where none begins the next character is kept. A reference with a mark may begin anywhere;
one without a mark begins at the beginning of the code or behind a character that is neither a word
character nor a mark, and never directly behind another reference.

## Main definitions

* `pairAt?`, `referenceAt?`: the two words of a reference at the beginning of a text.
* `Part`, `parts`: the parts of code.
* `Part.fill`: code with its references replaced.

## Main results

* `written_parts`: the parts are the code, cut.
* `Settings.substituteMarked_eq_fill`, `Settings.substituteBare_eq_fill`: what the passes do.
* `parts_append`: a character that no reference has cuts the parts.
-/

namespace TripletFacts

open Regex Cursor

/-! ### Two words with a point between them -/

/-- Two words with a point between them at the beginning of a text, as long as they go on, and the
text behind them. -/
def pairAt? (a : List Char) : Option (List Char × List Char × List Char) :=
  match a.dropWhile Unicode.isWord with
  | '.' :: a' =>
    if a.takeWhile Unicode.isWord = [] ∨ a'.takeWhile Unicode.isWord = [] then none
    else some (a.takeWhile Unicode.isWord, a'.takeWhile Unicode.isWord,
      a'.dropWhile Unicode.isWord)
  | _ => none

/-- The words `p` and `n` are not empty, and `n` goes on as long as it can before `r`. -/
structure IsPair (p n r : List Char) : Prop where
  pfx_ne : p ≠ []
  name_ne : n ≠ []
  pfx : ∀ x ∈ p, Unicode.isWord x = true
  name : ∀ x ∈ n, Unicode.isWord x = true
  stop : r.head?.any Unicode.isWord = false

theorem pairAt?_eq_some_iff {a p n r : List Char} :
    pairAt? a = some (p, n, r) ↔ a = p ++ '.' :: (n ++ r) ∧ IsPair p n r := by
  constructor
  · intro h
    unfold pairAt? at h
    split at h
    · rename_i a' hdrop
      split at h
      · cases h
      rename_i hne
      obtain ⟨rfl, rfl, rfl⟩ := by simpa using h
      rw [not_or] at hne
      refine ⟨?_, hne.1, hne.2, fun x hx => List.all_eq_true.1 List.all_takeWhile x hx,
        fun x hx => List.all_eq_true.1 List.all_takeWhile x hx, any_head?_dropWhile a'⟩
      rw [List.takeWhile_append_dropWhile, ← hdrop, List.takeWhile_append_dropWhile]
    · cases h
  · rintro ⟨rfl, hpair⟩
    have hpoint : ('.' :: (n ++ r)).head?.any Unicode.isWord = false := by
      simp only [List.head?_cons, Option.any_some]
      decide
    rw [pairAt?, dropWhile_append_of_head? hpair.pfx hpoint]
    simp only
    rw [takeWhile_append_of_head? hpair.pfx hpoint, takeWhile_append_of_head? hpair.name hpair.stop,
      dropWhile_append_of_head? hpair.name hpair.stop,
      if_neg (not_or.2 ⟨hpair.pfx_ne, hpair.name_ne⟩)]

/-- Two words with a point between them are found, however they go on. -/
theorem exists_pairAt?_eq_some {p r : List Char} {d : Char} (hne : p ≠ [])
    (hp : ∀ x ∈ p, Unicode.isWord x = true) (hd : Unicode.isWord d = true) :
    ∃ t, pairAt? (p ++ '.' :: d :: r) = some t := by
  refine ⟨(p, d :: r.takeWhile Unicode.isWord, r.dropWhile Unicode.isWord),
    pairAt?_eq_some_iff.2 ⟨by simp [List.takeWhile_append_dropWhile], hne, by simp, hp, ?_, ?_⟩⟩
  · intro x hx
    rcases List.mem_cons.1 hx with rfl | hx
    · exact hd
    · exact List.all_eq_true.1 List.all_takeWhile x hx
  · exact any_head?_dropWhile r

/-! ### References -/

/-- The reference at the beginning of a text, with a mark or without one; `start` says that one
without a mark may begin there. -/
def referenceAt? (marked start : Bool) (a : List Char) :
    Option (List Char × List Char × List Char) :=
  if marked then
    match a with
    | '$' :: cs => pairAt? cs
    | _ => none
  else if start && a.head?.any isLetter then pairAt? a
  else none

/-- The mark of a reference. -/
def markText (marked : Bool) : List Char := if marked then ['$'] else []

theorem referenceAt?_cons_of_ne {start : Bool} {c : Char} {a : List Char} (hc : c ≠ '$') :
    referenceAt? true start (c :: a) = none := by
  rw [referenceAt?, if_pos rfl]
  rintro cs heq
  exact absurd (List.cons_eq_cons.1 heq).1 hc

/-- A reference without a mark begins where it may, and with a letter. -/
theorem referenceAt?_bare {start : Bool} {a : List Char} : referenceAt? false start a =
    if start && a.head?.any isLetter then pairAt? a else none :=
  rfl

theorem referenceAt?_false_false (a : List Char) : referenceAt? false false a = none :=
  referenceAt?_bare

theorem eq_of_referenceAt? {marked start : Bool} {a p n r : List Char}
    (h : referenceAt? marked start a = some (p, n, r)) :
    a = markText marked ++ (p ++ '.' :: (n ++ r)) ∧ IsPair p n r := by
  cases marked with
  | true =>
    unfold referenceAt? at h
    rw [if_pos rfl] at h
    split at h
    · obtain ⟨rfl, hpair⟩ := pairAt?_eq_some_iff.1 h
      exact ⟨rfl, hpair⟩
    · cases h
  | false =>
    rw [referenceAt?_bare] at h
    split at h
    · exact pairAt?_eq_some_iff.1 h
    · cases h

theorem length_lt_of_referenceAt? {marked start : Bool} {a p n r : List Char}
    (h : referenceAt? marked start a = some (p, n, r)) : r.length < a.length := by
  obtain ⟨rfl, -⟩ := eq_of_referenceAt? h
  simp only [List.length_append, List.length_cons]
  omega

/-! ### Parts -/

/-- A part of code: a character that is kept, or a reference. -/
inductive Part where
  | kept (c : Char)
  | reference (pfx name : List Char)
deriving DecidableEq

/-- The parts of code, which are found from left to right. -/
def parts (marked start : Bool) : List Char → List Part
  | [] => []
  | c :: cs =>
    match _h : referenceAt? marked start (c :: cs) with
    | some (p, n, r) => .reference p n :: parts marked false r
    | none => .kept c :: parts marked (isBoundary c) cs
termination_by a => a.length
decreasing_by
  · exact length_lt_of_referenceAt? _h
  · simp

/-- How a reference is written. -/
def writtenReference (marked : Bool) (p n : List Char) : List Char :=
  markText marked ++ (p ++ '.' :: n)

/-- How a part is written. -/
def Part.written (marked : Bool) : Part → List Char
  | kept c => [c]
  | reference p n => writtenReference marked p n

section

variable {marked start : Bool} {a : List Char}

theorem referenceAt?_nil : referenceAt? marked start [] = none := by
  cases marked <;> cases start <;> rfl

theorem parts_of_referenceAt? {p n r : List Char}
    (h : referenceAt? marked start a = some (p, n, r)) :
    parts marked start a = .reference p n :: parts marked false r := by
  cases a with
  | nil =>
    rw [referenceAt?_nil] at h
    cases h
  | cons c cs =>
    rw [parts]
    split
    · rename_i p' n' r' h'
      obtain ⟨rfl, rfl, rfl⟩ := by simpa using h.symm.trans h'
      rfl
    · rename_i h'
      rw [h'] at h
      cases h

theorem parts_cons_of_none {c : Char} (h : referenceAt? marked start (c :: a) = none) :
    parts marked start (c :: a) = .kept c :: parts marked (isBoundary c) a := by
  rw [parts]
  split
  · rename_i h'
    rw [h'] at h
    cases h
  · rfl

@[simp] theorem parts_nil : parts marked start [] = [] := by rw [parts]

end

/-- Where no reference begins, it does not matter whether one may begin. -/
theorem parts_bare_of_none {start : Bool} {a : List Char}
    (h : referenceAt? false true a = none) : parts false start a = parts false false a := by
  cases start with
  | false => rfl
  | true =>
    cases a with
    | nil => rw [parts_nil, parts_nil]
    | cons c cs => rw [parts_cons_of_none h, parts_cons_of_none (referenceAt?_false_false _)]

/-- The parts are the code, cut. -/
theorem written_parts (marked start : Bool) (a : List Char) :
    (parts marked start a).flatMap (Part.written marked) = a := by
  fun_induction parts marked start a with
  | case1 start => rfl
  | case2 start c cs p n r h ih =>
    rw [(eq_of_referenceAt? h).1, List.flatMap_cons, ih]
    simp [Part.written, writtenReference]
  | case3 start c cs h ih => rw [List.flatMap_cons, ih, Part.written, List.singleton_append]

/-- Code with its references replaced. -/
def Part.fill {ε : Type} (value : List Char → List Char → Except ε (List Char)) :
    List Part → Except ε (List Char)
  | [] => .ok []
  | kept c :: ps => (fill value ps).map (c :: ·)
  | reference p n :: ps => (value p n).bind fun x => (fill value ps).map (x ++ ·)

/-! ### Characters that no reference has -/

/-- A character that no reference has. -/
structure IsForeign (marked : Bool) (c : Char) : Prop where
  word : Unicode.isWord c = false
  point : c ≠ '.'
  mark : marked = true → c ≠ '$'

theorem isForeign_of_isBoundary {c : Char} (hc : isBoundary c = true) (marked : Bool) :
    IsForeign marked c where
  word := by simpa using (Bool.and_eq_true_iff.1 hc).1
  point := by
    rintro rfl
    exact absurd hc (by decide)
  mark := by
    rintro - rfl
    exact absurd hc (by decide)

section

variable {marked start : Bool} {c : Char}

theorem IsPair.append {p n r : List Char} (h : IsPair p n r) (hc : IsForeign marked c)
    (y : List Char) : IsPair p n (r ++ c :: y) where
  pfx_ne := h.pfx_ne
  name_ne := h.name_ne
  pfx := h.pfx
  name := h.name
  stop := by
    cases r with
    | nil => simpa using hc.word
    | cons d r => exact h.stop

/-- Whether two words begin a text is seen before the first foreign character. -/
theorem pairAt?_append (hc : IsForeign marked c) (x y : List Char) :
    pairAt? (x ++ c :: y) = (pairAt? x).map fun t => (t.1, t.2.1, t.2.2 ++ c :: y) := by
  cases hx : pairAt? x with
  | some t =>
    obtain ⟨p, n, r⟩ := t
    obtain ⟨rfl, hpair⟩ := pairAt?_eq_some_iff.1 hx
    exact pairAt?_eq_some_iff.2 ⟨by simp, hpair.append hc y⟩
  | none =>
    cases hxy : pairAt? (x ++ c :: y) with
    | none => rfl
    | some t =>
      obtain ⟨p, n, r⟩ := t
      obtain ⟨heq, hpair⟩ := pairAt?_eq_some_iff.1 hxy
      have hnot : c ∉ p ++ '.' :: n := by
        intro hmem
        have hword := hc.word
        simp only [List.mem_append, List.mem_cons] at hmem
        rcases hmem with hmem | hmem | hmem
        · simp [hpair.pfx c hmem] at hword
        · exact hc.point hmem
        · simp [hpair.name c hmem] at hword
      have heq' : (p ++ '.' :: n) ++ r = x ++ c :: y := by rw [heq]; simp
      obtain ⟨r', rfl⟩ := exists_eq_append_of_not_mem heq' hnot
      obtain rfl : r = r' ++ c :: y := by simpa using heq'
      have hstop : r'.head?.any Unicode.isWord = false := by
        cases r' with
        | nil => rfl
        | cons d r' => exact hpair.stop
      have hsome : pairAt? (p ++ '.' :: n ++ r') = some (p, n, r') :=
        pairAt?_eq_some_iff.2 ⟨by simp, hpair.pfx_ne, hpair.name_ne, hpair.pfx, hpair.name, hstop⟩
      exact absurd (hsome.symm.trans hx) (Option.some_ne_none _)

theorem referenceAt?_append (hc : IsForeign marked c) (start : Bool) (x y : List Char) :
    referenceAt? marked start (x ++ c :: y) =
      (referenceAt? marked start x).map fun t => (t.1, t.2.1, t.2.2 ++ c :: y) := by
  cases marked with
  | true =>
    cases x with
    | nil => exact referenceAt?_cons_of_ne (hc.mark rfl)
    | cons d x =>
      by_cases hd : d = '$'
      · subst hd
        exact pairAt?_append hc x y
      · rw [List.cons_append, referenceAt?_cons_of_ne hd, referenceAt?_cons_of_ne hd]
        rfl
  | false =>
    rw [referenceAt?_bare, referenceAt?_bare]
    cases x with
    | nil => simp [isLetter, hc.word]
    | cons d x =>
      rw [List.cons_append, List.head?_cons, List.head?_cons, ← List.cons_append,
        pairAt?_append hc]
      split <;> rfl

/-- The code before a foreign character and the code behind it are cut apart. -/
theorem parts_append (hc : IsForeign marked c) (start : Bool) (x y : List Char) :
    parts marked start (x ++ c :: y) =
      parts marked start x ++ .kept c :: parts marked (isBoundary c) y := by
  fun_induction parts marked start x with
  | case1 start =>
    have hnone := referenceAt?_append hc start [] y
    rw [referenceAt?_nil] at hnone
    rw [List.nil_append, parts_cons_of_none hnone]
    rfl
  | case2 start d x p n r h ih =>
    have hsome := referenceAt?_append hc start (d :: x) y
    rw [h] at hsome
    rw [parts_of_referenceAt? hsome, ih]
    rfl
  | case3 start d x h ih =>
    have hnone := referenceAt?_append hc start (d :: x) y
    rw [h, List.cons_append] at hnone
    rw [List.cons_append, parts_cons_of_none hnone, ih]
    rfl

end

/-! ### Ways over references -/

namespace Settings

variable {b a p n r : List Char} {start : Bool} {g : Captures}

/-- A word is taken as long as it goes on. -/
theorem prefers_wordRegex (index : Nat) {u : List Char} (hne : u ≠ [])
    (hu : ∀ x ∈ u, Unicode.isWord x = true) (ha : a.head?.any Unicode.isWord = false)
    (b : List Char) (g : Captures) : (wordRegex index).Prefers (between b (u ++ a)) g
      (between (u.reverse ++ b) a)
      ((index, ⟨between b (u ++ a), between (u.reverse ++ b) a⟩) :: g) :=
  .group (prefers_plus hne hu ha g)

theorem any_isWord_point (a : List Char) : ('.' :: a).head?.any Unicode.isWord = false := by
  simp only [List.head?_cons, Option.any_some]
  decide

theorem exists_prefers_pairRegex (hpair : IsPair p n r) (b : List Char) (g : Captures) :
    ∃ s₁ s₂ : Span, s₁.text = p ∧ s₂.text = n ∧
      pairRegex.Prefers (between b (p ++ '.' :: (n ++ r))) g
        (between ((p ++ '.' :: n).reverse ++ b) r) ((2, s₂) :: (1, s₁) :: g) := by
  have hfirst := prefers_wordRegex 1 hpair.pfx_ne hpair.pfx (any_isWord_point (n ++ r)) b g
  have hstop : (p ++ '.' :: n).reverse ++ b = n.reverse ++ '.' :: (p.reverse ++ b) := by simp
  rw [hstop]
  exact ⟨_, _, Span.text_between b p _, Span.text_between _ n r,
    .seq hfirst (.seq (prefers_literal ['.'] _ _ _)
      (prefers_wordRegex 2 hpair.name_ne hpair.name hpair.stop _ _))⟩

theorem exists_prefers_referenceTail {l : Char} {w : List Char} (hpair : IsPair (l :: w) n r)
    (hl : isLetter l = true) (b : List Char) (g : Captures) :
    ∃ s₁ s₂ : Span, s₁.text = l :: w ∧ s₂.text = n ∧
      referenceTail.Prefers (between b (l :: (w ++ '.' :: (n ++ r)))) g
        (between ((l :: (w ++ '.' :: n)).reverse ++ b) r) ((3, s₂) :: (2, s₁) :: g) := by
  have hfirst := Prefers.seq (prefers_char hl b (w ++ '.' :: (n ++ r)) g)
    (prefers_star (fun x hx => hpair.pfx x (List.mem_cons_of_mem l hx))
      (any_isWord_point (n ++ r)) g)
  have hlast := prefers_wordRegex 3 hpair.name_ne hpair.name hpair.stop
    ('.' :: (w.reverse ++ l :: b)) (g := (2, ⟨between b (l :: (w ++ '.' :: (n ++ r))),
      between (w.reverse ++ l :: b) ('.' :: (n ++ r))⟩) :: g)
  have hstop : (l :: (w ++ '.' :: n)).reverse ++ b =
      n.reverse ++ '.' :: (w.reverse ++ l :: b) := by simp
  have htext := Span.text_between b (l :: w) ('.' :: (n ++ r))
  rw [List.reverse_cons, List.append_assoc, List.singleton_append] at htext
  rw [hstop]
  exact ⟨_, _, htext, Span.text_between _ n r,
    .seq (.group hfirst) (.seq (prefers_literal ['.'] _ _ _) hlast)⟩

/-- No way leads over a reference where none begins. -/
theorem not_leads_referenceTail (h : referenceAt? false true a = none) {c' : Cursor}
    {g' : Captures} : ¬referenceTail.Leads (between b a) g c' g' := by
  intro hleads
  obtain ⟨l, w, d, r, rfl, hl, hw, hd⟩ := leads_referenceTail_iff.1 ⟨c', g', hleads⟩
  have hword : ∀ x ∈ l :: w, Unicode.isWord x = true := by
    rintro x (_ | ⟨_, hx⟩)
    · exact (Bool.and_eq_true_iff.1 hl).1
    · exact hw x hx
  obtain ⟨t, ht⟩ := exists_pairAt?_eq_some (List.cons_ne_nil l w) hword hd (r := r)
  rw [referenceAt?_bare, if_pos (by simpa using hl)] at h
  exact Option.some_ne_none t (ht.symm.trans h)

/-! ### References with a mark -/

/-- A reference with a mark has characters. -/
theorem consumes_reference : (standard.regex .reference).Consumes := by
  intro c m hm
  obtain ⟨-, hleads⟩ := leads_of_matchAt hm
  rw [regex_reference, ← between_before_after c] at hleads
  obtain ⟨c₁, g₁, hmark, hpair⟩ := leads_seq_iff.1 hleads
  obtain ⟨a', hafter, rfl, rfl⟩ := leads_literal_iff.1 hmark
  have hle := hpair.matches.left_le
  rw [c.left_eq, hafter]
  exact Nat.lt_of_le_of_lt hle (Nat.lt_succ_self _)

/-- A reference with a mark is matched as far as its words go. -/
theorem exists_matchAt_reference (h : referenceAt? true start a = some (p, n, r)) (b : List Char) :
    ∃ m, (standard.regex .reference).matchAt (between b a) = some m ∧
      m.span.stop = between ((writtenReference true p n).reverse ++ b) r ∧
      m.text = writtenReference true p n ∧ m.groupText 1 = p ∧ m.groupText 2 = n := by
  obtain ⟨rfl, hpair⟩ := eq_of_referenceAt? h
  obtain ⟨s₁, s₂, rfl, rfl, hprefers⟩ := exists_prefers_pairRegex hpair ('$' :: b) []
  have hmatch := (Prefers.seq (prefers_literal ['$'] b _ []) hprefers).matchAt
  have hstop : (s₁.text ++ '.' :: s₂.text).reverse ++ '$' :: b =
      (writtenReference true s₁.text s₂.text).reverse ++ b := by
    simp [writtenReference, markText]
  have htext := Span.text_between b (writtenReference true s₁.text s₂.text) r
  rw [hstop] at hmatch
  simp only [writtenReference, markText, if_true, List.append_assoc, List.cons_append] at htext ⊢
  exact ⟨_, hmatch, rfl, htext, rfl, rfl⟩

/-- Nothing is matched where no reference with a mark begins. -/
theorem matchAt_reference_eq_none (h : referenceAt? true start a = none) (b : List Char) :
    (standard.regex .reference).matchAt (between b a) = none := by
  refine (Fails.of_not_leads fun g c' g' hleads => ?_).matchAt
  obtain ⟨c₁, g₁, hmark, hpair⟩ := leads_seq_iff.1 hleads
  obtain ⟨a, rfl, rfl, rfl⟩ := leads_literal_iff.1 hmark
  obtain ⟨x, w, d, r, rfl, hx, hw, hd, -⟩ := exists_of_leads_pairRegex hpair
  have hword : ∀ y ∈ x :: w, Unicode.isWord y = true := by
    rintro y (_ | ⟨_, hy⟩)
    · exact hx
    · exact hw y hy
  obtain ⟨t, ht⟩ := exists_pairAt?_eq_some (List.cons_ne_nil x w) hword hd (r := r)
  exact Option.some_ne_none t (ht.symm.trans h)

/-- What the pass over references with a mark does after a position. -/
theorem replaceAfter_reference (facts : Facts) (b : List Char) (start : Bool) (a : List Char) :
    (standard.regex .reference).replaceAfter
        (fun m => facts.operandOf (m.groupText 1) (m.groupText 2) m.text) (between b a) =
      Part.fill (fun p n => facts.operandOf p n (writtenReference true p n))
        (parts true start a) := by
  generalize hmarked : true = marked
  fun_induction parts marked start a generalizing b with
  | case1 start => exact replaceAfter_nil consumes_reference b
  | case2 start c cs p n r h ih =>
    subst hmarked
    obtain ⟨m, hm, hstop, htext, rfl, rfl⟩ := exists_matchAt_reference h b
    rw [replaceAfter_of_matchAt consumes_reference hm, hstop, ih, htext]
    rfl
  | case3 start c cs h ih =>
    subst hmarked
    rw [replaceAfter_cons consumes_reference (matchAt_reference_eq_none h b), ih]
    rfl

/-- The pass over references with a mark replaces the references with a mark. -/
theorem substituteMarked_eq_fill (facts : Facts) (code : List Char) :
    standard.substituteMarked facts code =
      Part.fill (fun p n => facts.operandOf p n (writtenReference true p n))
        (parts true true code) :=
  (replaceM_eq_replaceAfter code).trans (replaceAfter_reference facts [] true code)

/-! ### References without a mark -/

/-- A reference without a mark has characters. -/
theorem consumes_bareReference : (standard.regex .bareReference).Consumes := by
  intro c m hm
  obtain ⟨-, hleads⟩ := leads_of_matchAt hm
  obtain ⟨c₁, g₁, hbefore, htail⟩ := leads_seq_iff.1 hleads
  rw [← between_before_after c₁] at htail
  obtain ⟨c₂, g₂, hword, hrest⟩ := leads_seq_iff.1 htail
  obtain ⟨g₃, hfirst, rfl⟩ := leads_group_iff.1 hword
  obtain ⟨c₃, g₄, hletter, hstar⟩ := leads_seq_iff.1 hfirst
  obtain ⟨l, a', hafter, -, rfl, rfl⟩ := leads_char_iff.1 hletter
  have hle₁ := hbefore.matches.left_le
  have hle₂ := hstar.matches.left_le
  have hle₃ := hrest.matches.left_le
  rw [c₁.left_eq, hafter] at hle₁
  simp only [between, List.length_cons] at hle₁ hle₂
  omega

/-- A reference without a mark is matched as far as its words go, with what stands before it. -/
theorem exists_matchAt_bareReference {x : List Char} {s : Span}
    (h : referenceAt? false true a = some (p, n, r)) (hs : s.text = x)
    (hbefore : ∀ {c' g'}, referenceTail.Prefers (between (x.reverse ++ b) a) [(1, s)] c' g' →
      (standard.regex .bareReference).Prefers (between b (x ++ a)) [] c' g') :
    ∃ m, (standard.regex .bareReference).matchAt (between b (x ++ a)) = some m ∧
      m.span.stop = between ((x ++ writtenReference false p n).reverse ++ b) r ∧
      m.groupText 1 = x ∧ m.groupText 2 = p ∧ m.groupText 3 = n := by
  have hletter : a.head?.any isLetter = true := by
    rw [referenceAt?_bare] at h
    split at h
    · rename_i hl
      simpa using hl
    · cases h
  obtain ⟨rfl, hpair⟩ := eq_of_referenceAt? h
  obtain ⟨l, w, rfl⟩ := List.exists_cons_of_ne_nil hpair.pfx_ne
  obtain ⟨s₁, s₂, hs₁, rfl, hprefers⟩ := exists_prefers_referenceTail hpair
    (by simpa [markText] using hletter) (x.reverse ++ b) [(1, s)]
  refine ⟨_, (hbefore hprefers).matchAt, ?_, hs, hs₁, rfl⟩
  simp [writtenReference, markText]

/-- The beginning of a text needs nothing before a reference. -/
theorem exists_matchAt_bareReference_start (h : referenceAt? false true a = some (p, n, r)) :
    ∃ m, (standard.regex .bareReference).matchAt (between [] a) = some m ∧
      m.span.stop = between (writtenReference false p n).reverse r ∧
      m.groupText 1 = [] ∧ m.groupText 2 = p ∧ m.groupText 3 = n := by
  have hmatch := exists_matchAt_bareReference (b := []) h (Span.text_between [] [] a)
    fun htail => .seq (.group (.altLeft (prefers_look rfl []))) htail
  rwa [List.append_nil] at hmatch

/-- A character before a reference is matched with it. -/
theorem exists_matchAt_bareReference_cons {x : Char} (hx : isBoundary x = true)
    (hnot : b = [] → referenceAt? false true (x :: a) = none)
    (h : referenceAt? false true a = some (p, n, r)) :
    ∃ m, (standard.regex .bareReference).matchAt (between b (x :: a)) = some m ∧
      m.span.stop = between ((x :: writtenReference false p n).reverse ++ b) r ∧
      m.groupText 1 = [x] ∧ m.groupText 2 = p ∧ m.groupText 3 = n := by
  refine exists_matchAt_bareReference h (Span.text_between b [x] a) fun htail => ?_
  refine .groupAltRight (.of_not_leads fun g c' g' hleads => ?_)
    (.seq (.group (prefers_char hx b a [])) htail)
  -- the beginning of a text would be needed
  obtain ⟨c₁, g₁, hgroup, hrest⟩ := leads_seq_iff.1 hleads
  obtain ⟨g₂, hlook, rfl⟩ := leads_group_iff.1 hgroup
  obtain ⟨hnil, rfl, rfl⟩ := leads_look_iff.1 hlook
  obtain rfl : b = [] := by simpa [textStart, between, previous] using hnil
  exact not_leads_referenceTail (hnot rfl) hrest

/-- Nothing is matched where neither a reference nor a character before one begins. -/
theorem matchAt_bareReference_eq_none {x : Char}
    (hstart : b = [] → referenceAt? false true (x :: a) = none)
    (hcons : isBoundary x = true → referenceAt? false true a = none) :
    (standard.regex .bareReference).matchAt (between b (x :: a)) = none := by
  refine (Fails.of_not_leads fun g c' g' hleads => ?_).matchAt
  obtain ⟨c₁, g₁, hgroup, hrest⟩ := leads_seq_iff.1 hleads
  obtain ⟨g₂, halt, rfl⟩ := leads_group_iff.1 hgroup
  rcases leads_alt_iff.1 halt with hlook | hchar
  · obtain ⟨hnil, rfl, rfl⟩ := leads_look_iff.1 hlook
    obtain rfl : b = [] := by simpa [textStart, between, previous] using hnil
    exact not_leads_referenceTail (hstart rfl) hrest
  · obtain ⟨x', a', heq, hx, rfl, rfl⟩ := leads_char_iff.1 hchar
    obtain ⟨rfl, rfl⟩ := List.cons_eq_cons.1 heq
    exact not_leads_referenceTail (hcons hx) hrest

section

variable {ε : Type} (value : List Char → List Char → Except ε (List Char))

/-- What the pass over references without a mark puts in the place of a match. -/
def bareText (m : Match) : Except ε (List Char) :=
  (value (m.groupText 2) (m.groupText 3)).map (m.groupText 1 ++ ·)

/-- What the pass over references without a mark does after a position. -/
theorem replaceAfter_bareReference (b a : List Char) :
    (standard.regex .bareReference).replaceAfter (bareText value) (between b a) =
      Part.fill value (parts false b.isEmpty a) := by
  match a with
  | [] => rw [parts_nil]; exact replaceAfter_nil consumes_bareReference b
  | x :: a =>
    cases hstart : referenceAt? false b.isEmpty (x :: a) with
    | some t =>
      obtain ⟨p, n, r⟩ := t
      obtain rfl : b = [] := by
        cases b with
        | nil => rfl
        | cons y b => cases (referenceAt?_false_false _).symm.trans hstart
      obtain ⟨m, hm, hstop, hbefore, rfl, rfl⟩ := exists_matchAt_bareReference_start hstart
      have hlt := length_lt_of_referenceAt? hstart
      have hnotEmpty : (writtenReference false (m.groupText 2) (m.groupText 3)).reverse.isEmpty =
          false := List.isEmpty_eq_false_iff.2 (by simp [writtenReference])
      rw [replaceAfter_of_matchAt consumes_bareReference hm, hstop, replaceAfter_bareReference,
        parts_of_referenceAt? hstart, bareText, hbefore, bind_map_append, hnotEmpty]
      exact map_nil_append _
    | none =>
      have hnot : b = [] → referenceAt? false true (x :: a) = none := by
        rintro rfl
        exact hstart
      rw [parts_cons_of_none hstart]
      by_cases hnext : isBoundary x = true ∧ referenceAt? false true a ≠ none
      · obtain ⟨⟨p, n, r⟩, hnext'⟩ := Option.ne_none_iff_exists'.1 hnext.2
        obtain ⟨m, hm, hstop, hbefore, rfl, rfl⟩ :=
          exists_matchAt_bareReference_cons hnext.1 hnot hnext'
        have hlt := length_lt_of_referenceAt? hnext'
        have hnotEmpty : ((x :: writtenReference false (m.groupText 2) (m.groupText 3)).reverse ++
            b).isEmpty = false := List.isEmpty_eq_false_iff.2 (by simp)
        rw [replaceAfter_of_matchAt consumes_bareReference hm, hstop, replaceAfter_bareReference,
          bareText, hbefore, bind_map_append, hnext.1, parts_of_referenceAt? hnext', hnotEmpty]
        rfl
      · have hnone : isBoundary x = true → referenceAt? false true a = none := fun hx =>
          Decidable.not_not.1 fun hne => hnext ⟨hx, hne⟩
        rw [replaceAfter_cons consumes_bareReference (matchAt_bareReference_eq_none hnot hnone),
          replaceAfter_bareReference]
        cases hx : isBoundary x with
        | false => rfl
        | true =>
          rw [Part.fill, @parts_bare_of_none true a (hnone hx)]
          rfl
termination_by a.length
decreasing_by
  all_goals
    simp only [List.length_cons] at *
    omega

end

/-- The pass over references without a mark replaces the references without a mark. -/
theorem substituteBare_eq_fill (db : Facts) (code : List Char) :
    standard.substituteBare db code =
      Part.fill (fun p n => db.operandOf p n (writtenReference false p n))
        (parts false true code) := by
  have hwritten : ∀ p n : List Char,
      writtenReference false p n = p ++ standard.nameSeparator.toList ++ n := by
    intro p n
    simp [writtenReference, markText, standard]
  simp only [hwritten]
  exact (replaceM_eq_replaceAfter code).trans (replaceAfter_bareReference
    (fun p n => db.operandOf p n (p ++ standard.nameSeparator.toList ++ n)) [] code)

end Settings

end TripletFacts
