import TripletFacts.Proofs.Yaml.Places

/-!
# Plain scalars are read back

A text that can stand plain is read up to the end of its line. It has spaces between its words and
no other gaps, and these are kept. No word begins with the sign of a comment, and no colon stands at
the end of a word, so that nothing in the text ends the scalar.

## Main results

* `Yaml.isPlain_of_plainSafe`: what holds of the texts that can stand plain.
* `Yaml.readPlain_line`: a plain scalar at the end of a line is read back.
-/

namespace TripletFacts.Yaml

/-! ### Gaps -/

theorem gapText_spaces (n : Nat) : gapText (spaces n) = spaces n := by
  rw [gapText, breaksIn_of_isLine (isLine_spaces n)]

theorem tabInIndent_of_notMem {indent : Nat} {gap : List Char} (h : '\t' ∉ gap)
    (column : Option Nat) : tabInIndent indent column gap = false := by
  induction gap generalizing column with
  | nil => rfl
  | cons c gap ih =>
    rw [List.mem_cons, not_or] at h
    have hc : (c == '\t') = false := beq_false_of_ne (Ne.symm h.1)
    rw [tabInIndent, hc, Bool.false_and, Bool.false_or, ih h.2, ih h.2, ite_self]

/-- The gap between two lines. -/
theorem takeWhile_isGap_newLine {n : Nat} {tail : List Char} (h : Begins tail) :
    ('\n' :: (spaces n ++ tail)).takeWhile isGap = '\n' :: spaces n := by
  have hgap : ∀ x ∈ '\n' :: spaces n, isGap x = true :=
    List.forall_mem_cons.2 ⟨rfl, isGap_of_mem_spaces⟩
  exact takeWhile_append_of_head? hgap h.any_isGap

/-! ### Plain texts -/

/-- The texts that are read plain from their first character to the end of their line. -/
structure IsPlain (cs : List Char) : Prop where
  gap : ∀ x ∈ cs, isGap x = true → x = ' '
  mark : '\ufeff' ∉ cs
  first : cs.head?.any isGap = false
  last : cs.getLast? ≠ some ' '
  colon : ∀ u v, cs = u ++ ':' :: v → gapNext v = false
  comment : cs.head? ≠ some '#' ∧ ∀ u v, cs ≠ u ++ ' ' :: '#' :: v

theorem holdsMark_append {u v : List Char} {a c : Char}
    (h : holdsMark (u ++ a :: c :: v) = false) :
    (c = ':' → gapNext v = false) ∧ (c = '#' → isGap a = false) := by
  induction u with
  | nil =>
    rw [List.nil_append, holdsMark, Bool.or_eq_false_iff, Bool.or_eq_false_iff] at h
    refine ⟨?_, ?_⟩
    · rintro rfl
      simpa using h.1.1
    · rintro rfl
      simpa using h.1.2
  | cons b u ih =>
    cases u with
    | nil =>
      rw [List.cons_append, List.nil_append, holdsMark, Bool.or_eq_false_iff] at h
      exact ih h.2
    | cons d u =>
      rw [List.cons_append, List.cons_append, holdsMark, Bool.or_eq_false_iff] at h
      exact ih h.2

/-- A text that can stand plain is read plain. -/
theorem isPlain_of_plainSafe {cs : List Char} (h : plainSafe cs = true) : IsPlain cs := by
  simp only [plainSafe, singleSafe, Bool.and_eq_true, Bool.not_eq_true', List.all_eq_true,
    List.any_eq_false] at h
  obtain ⟨⟨⟨⟨⟨⟨⟨⟨hprintable, -⟩, -⟩, hbreak⟩, hfirst⟩, hlast⟩, -⟩, hstart⟩, hmark⟩ := h
  have hgap : ∀ x ∈ cs, isGap x = true → x = ' ' := by
    intro x hx hgap
    have hx' : isBreak x = false := by simpa using hbreak x hx
    rw [isGap, hx', Bool.or_false, isBlank, Bool.or_eq_true, beq_iff_eq, beq_iff_eq] at hgap
    refine hgap.resolve_right ?_
    rintro rfl
    exact absurd (hprintable _ hx) (by decide)
  refine ⟨hgap, fun hmem => absurd (hprintable _ hmem) (by decide), ?_, ?_, ?_, ?_, ?_⟩
  · cases cs with
    | nil => rfl
    | cons c cs =>
      rw [← Bool.not_eq_true]
      intro hc
      rw [hgap c List.mem_cons_self hc] at hfirst
      cases hfirst
  · intro hspace
    rw [hspace] at hlast
    cases hlast
  · rintro u v rfl
    rcases List.eq_nil_or_concat u with rfl | ⟨u, a, rfl⟩
    · rw [List.nil_append, startsMarked, Bool.or_eq_false_iff] at hstart
      simpa using hstart.2
    · rw [List.concat_eq_append, List.append_assoc] at hmark
      exact (holdsMark_append hmark).1 rfl
  · intro hhash
    cases cs with
    | nil => cases hhash
    | cons c cs =>
      obtain rfl := Option.some.inj hhash
      simp [startsMarked] at hstart
  · rintro u v rfl
    exact absurd ((holdsMark_append hmark).2 rfl) (by decide)

/-! ### Words -/

/-- A word with no colon before a gap is read up to the gap behind it. -/
theorem plainRun_word {u rest : List Char} (hu : ∀ x ∈ u, isGap x = false)
    (hcolon : ∀ v w, u = v ++ ':' :: w → gapNext (w ++ rest) = false)
    (hrest : rest.head?.any isGap = true) : plainRun false (u ++ rest) = some u := by
  induction u with
  | nil =>
    cases rest with
    | nil => cases hrest
    | cons c rest =>
      have hc : isGap c = true := hrest
      rw [List.nil_append, plainRun, if_pos hc]
  | cons c u ih =>
    obtain ⟨hc, hu⟩ := List.forall_mem_cons.1 hu
    have hmark : (c == ':' && gapNext (u ++ rest)) = false := by
      by_cases hcolon' : c = ':'
      · rw [hcolon [] u (by rw [hcolon', List.nil_append]), Bool.and_false]
      · rw [beq_false_of_ne hcolon', Bool.false_and]
    have hrun := ih hu fun v w huv => hcolon (c :: v) w (by rw [huv, List.cons_append])
    simp only [List.cons_append, plainRun, hc, hmark, hrun, Bool.false_and, Bool.false_or,
      Bool.false_eq_true, if_false, Option.map_some]

/-- Behind a word and a gap of a plain text, what remains is plain. -/
theorem IsPlain.rest {cs u g v : List Char} (h : IsPlain cs) (hs : Stretches isGap cs u g v) :
    IsPlain v where
  gap x hx := h.gap x (by simp [hs.text, hx])
  mark hmem := h.mark (by simp [hs.text, hmem])
  first := hs.next
  last := by
    intro hlast
    refine h.last ?_
    rw [hs.text, List.getLast?_append, List.getLast?_append, hlast]
    rfl
  colon := by
    rintro a b rfl
    exact h.colon (u ++ (g ++ a)) b (by simp [hs.text])
  comment := by
    refine ⟨fun hhash => ?_, ?_⟩
    · obtain ⟨d, rfl⟩ := List.head?_eq_some_iff.1 hhash
      rcases List.eq_nil_or_concat g with rfl | ⟨g, c, rfl⟩
      · cases hs.last rfl
      · -- the sign of a comment would stand behind a space
        have hc : c = ' ' := h.gap c (by simp [hs.text]) (hs.gap c (by simp))
        exact h.comment.2 (u ++ g) d (by simp [hs.text, hc])
    · rintro a b rfl
      exact h.comment.2 (u ++ (g ++ a)) b (by simp [hs.text])

theorem IsPlain.head?_ne_comment {cs u g v : List Char} (h : IsPlain cs)
    (hs : Stretches isGap cs u g v) : u.head? ≠ some '#' := by
  have hfirst := h.comment.1
  rw [hs.text, List.head?_append] at hfirst
  intro hhash
  rw [hhash] at hfirst
  exact hfirst rfl

/-- The gap behind a word of a plain text is made of spaces, if something follows, and is none
otherwise. -/
theorem IsPlain.exists_spaces {cs u g v : List Char} (h : IsPlain cs)
    (hs : Stretches isGap cs u g v) :
    ∃ n, g = spaces n ∧ (v = [] ↔ n = 0) := by
  have hg : g = spaces g.length :=
    List.eq_replicate_iff.2 ⟨rfl, fun x hx => h.gap x (by simp [hs.text, hx]) (hs.gap x hx)⟩
  refine ⟨g.length, hg, fun hv => ?_, fun hn => hs.last (List.eq_nil_of_length_eq_zero hn)⟩
  rcases List.eq_nil_or_concat g with rfl | ⟨g', c, rfl⟩
  · rfl
  · have hc : c = ' ' := h.gap c (by simp [hs.text]) (hs.gap c (by simp))
    refine absurd ?_ h.last
    rw [hs.text, hv, hc]
    simp

/-! ### Plain scalars -/

theorem IsPlain.begins {cs : List Char} (h : IsPlain cs) (hne : cs ≠ []) (w : List Char) :
    Begins (cs ++ w) := by
  obtain ⟨c, cs, rfl⟩ := List.exists_cons_of_ne_nil hne
  have hgap : isGap c = false := h.first
  have hcomment : c ≠ '#' := fun hc => h.comment.1 (by rw [hc]; rfl)
  have hmark : c ≠ '\ufeff' := fun hc => h.mark (by simp [hc])
  simp [Begins, hgap, hcomment, hmark]

theorem IsPlain.isLine {cs : List Char} (h : IsPlain cs) : IsLine cs := by
  intro x hx
  rw [← Bool.not_eq_true]
  intro hbreak
  rw [h.gap x hx (isGap_of_isBreak hbreak)] at hbreak
  cases hbreak

/-- One word of a plain scalar with the gap behind it. -/
theorem readPlain_word {u g rest : List Char} {p : Place}
    (hrest : p.rest = u ++ (g ++ rest)) (hline : IsLine u) (hne : u ≠ [])
    (hmark : p.atDocumentMark = false)
    (hcomment : u.head? ≠ some '#') (hrun : plainRun false (u ++ (g ++ rest)) = some u)
    (hgap : (g ++ rest).takeWhile isGap = g) (htab : '\t' ∉ g) (indent fuel : Nat)
    (gap : List Char) :
    readPlain false indent (fuel + 1) gap p =
      if g.isEmpty || decide ((p.past (u ++ g) rest).column < indent) then
        some (gapText gap ++ u, g.any isBreak, p.past (u ++ g) rest)
      else
        (readPlain false indent fuel g (p.past (u ++ g) rest)).map fun (text, broken, p) =>
          (gapText gap ++ u ++ text, broken, p) := by
  obtain ⟨c, u, rfl⟩ := List.exists_cons_of_ne_nil hne
  have hnext : (p.next? == some '#') = false := by
    rw [Place.next?, hrest]
    exact beq_false_of_ne hcomment
  have hskip := Place.skip_of_rest (p := p.past (c :: u) (g ++ rest)) (Place.rest_past ..)
  rw [Place.past_past hline.notMem] at hskip
  rw [readPlain, hmark, hnext, Bool.false_or, if_neg Bool.false_ne_true, hrest, hrun]
  dsimp only
  rw [Place.skip_of_rest hrest, Place.rest_past, hgap, tabInIndent_of_notMem htab, hskip,
    if_neg Bool.false_ne_true, Bool.not_false, Bool.true_and]

/-- A plain scalar is read up to the next line if this is not indented as deep as the scalar has to
be. -/
theorem readPlain_line {indent n : Nat} {tail : List Char} (htail : Begins tail) (hn : n < indent)
    {cs : List Char} (h : IsPlain cs) (hne : cs ≠ []) {fuel : Nat} (hfuel : cs.length < fuel)
    (gap : List Char) {p : Place} (hrest : p.rest = cs ++ '\n' :: (spaces n ++ tail))
    (hmark : p.atDocumentMark = false) (hindent : indent ≤ p.column) :
    readPlain false indent fuel gap p =
      some (gapText gap ++ cs, true, p.past (cs ++ '\n' :: spaces n) tail) := by
  induction hlength : cs.length using Nat.strongRecOn generalizing cs fuel gap p with
  | ind length ih =>
    obtain ⟨fuel, rfl⟩ : ∃ m, fuel = m + 1 := ⟨fuel - 1, by omega⟩
    obtain ⟨u, g, v, hs⟩ := exists_stretches isGap cs
    have hu : u ≠ [] := hs.word_ne_nil hne h.first
    have hline : IsLine u := fun x hx => h.isLine x (by simp [hs.text, hx])
    have hcomment := h.head?_ne_comment hs
    have hcolon : ∀ a b, u = a ++ ':' :: b → gapNext (b ++ (g ++ v)) = false := fun a b hab =>
      h.colon a _ (by rw [hs.text, hab, List.append_assoc, List.cons_append])
    obtain ⟨k, rfl, hv⟩ := h.exists_spaces hs
    by_cases hnil : v = []
    · -- the last word ends with the line
      obtain rfl := hv.1 hnil
      obtain rfl : u = cs := by rw [hs.text, hnil]; simp [spaces]
      have hrun : plainRun false (u ++ ('\n' :: spaces n ++ tail)) = some u := by
        refine plainRun_word hs.word (fun a b hab => ?_) rfl
        have hb := hcolon a b hab
        rw [hnil] at hb
        cases b with
        | nil => cases hb
        | cons d b => exact hb
      have hword := readPlain_word hrest hline hu hmark hcomment hrun
        (takeWhile_isGap_newLine htail) (by simp [spaces]) indent fuel gap
      rw [hword, Place.column_past_newLine hline, decide_eq_true hn, Bool.or_true, if_pos rfl]
      rfl
    · -- another word follows behind spaces
      obtain ⟨d, v, rfl⟩ := List.exists_cons_of_ne_nil hnil
      obtain ⟨k, rfl⟩ : ∃ j, k = j + 1 := ⟨k - 1, by have := mt hv.2 hnil; omega⟩
      have hrest' : p.rest = u ++ (spaces (k + 1) ++ ((d :: v) ++ '\n' :: (spaces n ++ tail))) := by
        rw [hrest, hs.text, List.append_assoc, List.append_assoc]
      have hrun : plainRun false
          (u ++ (spaces (k + 1) ++ ((d :: v) ++ '\n' :: (spaces n ++ tail)))) = some u := by
        refine plainRun_word hs.word (fun a b hab => ?_) rfl
        have hb := hcolon a b hab
        cases b <;> exact hb
      have hgap : (spaces (k + 1) ++ ((d :: v) ++ '\n' :: (spaces n ++ tail))).takeWhile isGap =
          spaces (k + 1) := takeWhile_append_of_head? isGap_of_mem_spaces hs.next
      have hcolumn : ∀ rest, (p.past (u ++ spaces (k + 1)) rest).column =
          p.column + (u ++ spaces (k + 1)).length := fun rest => by
        rw [Place.past_of_isLine (hline.append (isLine_spaces _))]
      have hword := readPlain_word hrest' hline hu hmark hcomment hrun hgap (by simp [spaces])
        indent fuel gap
      have hshort := hs.length_lt hne
      have hfuel' : (d :: v).length < fuel := by omega
      have hread := ih _ (hlength ▸ hshort) (h.rest hs) hnil hfuel' (spaces (k + 1))
        (p := p.past (u ++ spaces (k + 1)) _) rfl
        (Place.atDocumentMark_of_column (by rw [hcolumn]; simp; omega)) (by rw [hcolumn]; omega) rfl
      have hdeep : ¬p.column + (u ++ spaces (k + 1)).length < indent := by omega
      have hempty : (spaces (k + 1)).isEmpty = false := rfl
      rw [hword, hcolumn, decide_eq_false hdeep, hempty, Bool.or_false, if_neg Bool.false_ne_true,
        hread, Option.map_some, gapText_spaces,
        Place.past_past (hline.append (isLine_spaces _)).notMem, hs.text]
      simp only [List.append_assoc]

end TripletFacts.Yaml
