import TripletFacts.Proofs.Number.Characters
import TripletFacts.Yaml.Printer

/-!
# Places behind a stretch of text

Readers of documents move over stretches of text: to the end of a token, over blanks, or into the
next line. Where a stretch ends is known from its characters: on the same line if there is no line
end among them, and otherwise in the column that the characters behind the last line end make up.

## Main definitions

* `Yaml.Place.past`: the place behind a stretch of text.
* `Yaml.Begins`: texts that begin with no gap and no comment.

## Main results

* `Yaml.Place.skip_of_rest`, `Yaml.Place.moveTo_of_rest`: moving over a stretch.
* `Yaml.Place.past_of_isLine`, `Yaml.Place.column_past_breaks`: lines and columns.
-/

namespace TripletFacts.Yaml

/-! ### Lines and breaks -/

/-- A stretch without the end of a line. -/
def IsLine (u : List Char) : Prop := ∀ x ∈ u, isBreak x = false

/-- Line ends that count as they are written. -/
def IsBreaks (u : List Char) : Prop := ∀ x ∈ u, isBreak x = true ∧ breakValue x = x

theorem ne_return_of_breakValue {c : Char} (h : breakValue c = c) : c ≠ '\r' := by
  rintro rfl
  exact absurd h (by decide)

theorem isLine_spaces (n : Nat) : IsLine (spaces n) := by
  intro x hx
  rw [List.eq_of_mem_replicate hx]
  rfl

theorem IsLine.notMem {u : List Char} (h : IsLine u) : '\r' ∉ u := fun hmem => by
  cases h _ hmem

theorem IsBreaks.notMem {u : List Char} (h : IsBreaks u) : '\r' ∉ u := fun hmem =>
  ne_return_of_breakValue (h _ hmem).2 rfl

theorem IsLine.append {u v : List Char} (hu : IsLine u) (hv : IsLine v) : IsLine (u ++ v) :=
  fun x hx => (List.mem_append.1 hx).elim (hu x) (hv x)

theorem breaksIn_cons {c : Char} (hc : c ≠ '\r') (cs : List Char) :
    breaksIn (c :: cs) = if isBreak c then breakValue c :: breaksIn cs else breaksIn cs := by
  rw [breaksIn.eq_3 c cs fun cs' h => absurd h hc]

theorem breaksIn_of_isLine {u : List Char} (h : IsLine u) : breaksIn u = [] := by
  induction u with
  | nil => rfl
  | cons c u ih =>
    obtain ⟨hc, hu⟩ := List.forall_mem_cons.1 h
    have hreturn : c ≠ '\r' := by
      rintro rfl
      cases hc
    rw [breaksIn_cons hreturn, hc, if_neg Bool.false_ne_true, ih hu]

theorem breaksIn_append {bs : List Char} (h : IsBreaks bs) (u : List Char) :
    breaksIn (bs ++ u) = bs ++ breaksIn u := by
  induction bs with
  | nil => rfl
  | cons b bs ih =>
    obtain ⟨⟨hb, hvalue⟩, hbs⟩ := List.forall_mem_cons.1 h
    rw [List.cons_append, breaksIn_cons (ne_return_of_breakValue hvalue), hb, if_pos rfl, hvalue,
      ih hbs]
    rfl

theorem breaksIn_of_isBreaks {bs : List Char} (h : IsBreaks bs) : breaksIn bs = bs := by
  have happend := breaksIn_append h []
  rwa [List.append_nil, breaksIn, List.append_nil] at happend

theorem dropBreak_cons {b : Char} (hb : isBreak b = true) (hvalue : breakValue b = b)
    (cs : List Char) : dropBreak (b :: cs) = cs := by
  rw [dropBreak.eq_2 b cs fun cs' h => absurd h (ne_return_of_breakValue hvalue), if_pos hb]

/-! ### Stretches -/

theorem isGap_of_isBreak {c : Char} (h : isBreak c = true) : isGap c = true := by
  rw [isGap, h, Bool.or_true]

theorem spaces_succ (n : Nat) : spaces (n + 1) = ' ' :: spaces n := rfl

theorem isGap_of_mem_spaces {n : Nat} : ∀ x ∈ spaces n, isGap x = true := by
  intro x hx
  rw [List.eq_of_mem_replicate hx]
  rfl

section

variable {test : Char → Bool} {cs u g v : List Char}

variable (test) in
/-- The first stretch of a text without the characters of a gap, the gap behind it, and the rest;
`test` says which characters make up gaps. -/
structure Stretches (cs u g v : List Char) : Prop where
  text : cs = u ++ (g ++ v)
  word : ∀ x ∈ u, test x = false
  gap : ∀ x ∈ g, test x = true
  next : v.head?.any test = false
  last : g = [] → v = []

variable (test) in
theorem exists_stretches (cs : List Char) : ∃ u g v, Stretches test cs u g v := by
  refine ⟨cs.takeWhile fun x => !test x, (cs.dropWhile fun x => !test x).takeWhile test,
    (cs.dropWhile fun x => !test x).dropWhile test, ?_, ?_, ?_, any_head?_dropWhile _, ?_⟩
  · rw [List.takeWhile_append_dropWhile, List.takeWhile_append_dropWhile]
  · exact fun x hx => by simpa using List.all_eq_true.1 List.all_takeWhile x hx
  · exact List.all_eq_true.1 List.all_takeWhile
  · intro hgap
    have hword : (cs.dropWhile fun x => !test x).head?.any (fun x => !test x) = false :=
      any_head?_dropWhile cs
    generalize cs.dropWhile (fun x => !test x) = w at hgap hword ⊢
    cases w with
    | nil => rfl
    | cons c w =>
      have hc : test c = true := by simpa using hword
      rw [List.takeWhile_cons, if_pos hc] at hgap
      cases hgap

namespace Stretches

theorem word_ne_nil (h : Stretches test cs u g v) (hne : cs ≠ [])
    (hfirst : cs.head?.any test = false) : u ≠ [] := by
  rintro rfl
  cases g with
  | nil => exact hne (by rw [h.text, h.last rfl]; rfl)
  | cons c g =>
    rw [h.text] at hfirst
    cases hfirst.symm.trans (h.gap c List.mem_cons_self)

theorem length_lt (h : Stretches test cs u g v) (hne : cs ≠ []) : v.length < cs.length := by
  have hlength := congrArg List.length h.text
  rw [List.length_append, List.length_append] at hlength
  rcases List.eq_nil_or_concat g with rfl | ⟨g, c, rfl⟩
  · rw [h.last rfl]
    exact List.length_pos_iff.2 hne
  · rw [List.concat_eq_append, List.length_append, List.length_singleton] at hlength
    omega

end Stretches

end

/-! ### Indented lines -/

theorem indentLines_line (n : Nat) {u : List Char} (hu : IsLine u) (w : List Char) :
    indentLines n false (u ++ w) = u ++ indentLines n false w := by
  induction u with
  | nil => rfl
  | cons c u ih =>
    obtain ⟨hc, hu⟩ := List.forall_mem_cons.1 hu
    rw [List.cons_append, indentLines, hc, if_neg Bool.false_ne_true, ih hu,
      if_neg Bool.false_ne_true]
    rfl

/-- The indentation of a line stands in front of its first character. -/
theorem indentLines_fresh (n : Nat) {w : List Char} (h : w.head?.all isBreak = false) :
    indentLines n true w = spaces n ++ indentLines n false w := by
  cases w with
  | nil => cases h
  | cons c w =>
    have hc : isBreak c = false := h
    rw [indentLines, indentLines, hc]
    rfl

theorem head?_indentLines (n : Nat) (w : List Char) :
    (indentLines n false w).head? = w.head? := by
  cases w with
  | nil => rfl
  | cons c w =>
    rw [indentLines]
    split <;> rfl

theorem indentLines_breaks (n : Nat) {bs : List Char} (hbs : ∀ x ∈ bs, isBreak x = true)
    (hne : bs ≠ []) (fresh : Bool) (w : List Char) :
    indentLines n fresh (bs ++ w) = bs ++ indentLines n true w := by
  induction bs generalizing fresh with
  | nil => exact absurd rfl hne
  | cons b bs ih =>
    obtain ⟨hb, hbs⟩ := List.forall_mem_cons.1 hbs
    rw [List.cons_append, indentLines, if_pos hb]
    by_cases hnil : bs = []
    · rw [hnil]
      rfl
    · rw [ih hbs hnil]
      rfl

theorem indentLines_append_breaks (n : Nat) {bs : List Char} (hbs : ∀ x ∈ bs, isBreak x = true)
    (fresh : Bool) (cs : List Char) :
    indentLines n fresh (cs ++ bs) = indentLines n fresh cs ++ bs := by
  induction cs generalizing fresh with
  | nil =>
    rcases List.eq_nil_or_concat bs with rfl | ⟨bs', b, rfl⟩
    · rfl
    · have h := indentLines_breaks n hbs (by simp) fresh []
      rw [List.append_nil] at h
      rw [List.nil_append, h]
      cases fresh <;> exact List.append_nil _
  | cons c cs ih =>
    rw [List.cons_append, indentLines, indentLines]
    split
    case isTrue => rw [ih, List.cons_append]
    case isFalse => rw [ih, List.append_assoc, List.cons_append]

theorem length_le_indentLines (n : Nat) (fresh : Bool) (cs : List Char) :
    cs.length ≤ (indentLines n fresh cs).length := by
  induction cs generalizing fresh with
  | nil => exact Nat.zero_le _
  | cons c cs ih =>
    rw [indentLines]
    split
    case isTrue => exact Nat.succ_le_succ (ih true)
    case isFalse =>
      have hcs := ih false
      simp only [List.length_append, List.length_cons]
      omega

/-- A character behind indented lines, in a new line if the last one has ended. -/
theorem indentLines_concat (n : Nat) {q : Char} (hq : isBreak q = false) (fresh : Bool)
    (cs : List Char) : indentLines n fresh (cs ++ [q]) =
      indentLines n fresh cs ++
        ((if (cs.getLast?.map isBreak).getD fresh then spaces n else []) ++ [q]) := by
  induction cs generalizing fresh with
  | nil => cases fresh <;> simp [indentLines, hq]
  | cons c cs ih =>
    have hlast : (((c :: cs).getLast?).map isBreak).getD fresh =
        (cs.getLast?.map isBreak).getD (isBreak c) := by
      cases cs with
      | nil => rfl
      | cons d cs => simp [List.getLast?_cons]
    rw [List.cons_append, indentLines, indentLines, hlast]
    cases hc : isBreak c with
    | true => simp [ih]
    | false => simp [ih]

/-! ### Places -/

namespace Place

theorem advance_cons {c : Char} (hc : c ≠ '\r') (line column : Nat) (cs : List Char) :
    advance line column (c :: cs) =
      if isBreak c then advance (line + 1) 0 cs else advance line (column + 1) cs :=
  advance.eq_3 line column c cs fun _ h => absurd h hc

theorem advance_of_isLine {u : List Char} (h : IsLine u) (line column : Nat) :
    advance line column u = (line, column + u.length) := by
  induction u generalizing column with
  | nil => rfl
  | cons c u ih =>
    obtain ⟨hc, hu⟩ := List.forall_mem_cons.1 h
    have hreturn : c ≠ '\r' := by
      rintro rfl
      cases hc
    rw [advance_cons hreturn, hc, if_neg Bool.false_ne_true, ih hu, List.length_cons]
    congr 1
    omega

theorem advance_append {u : List Char} (h : '\r' ∉ u) (line column : Nat) (v : List Char) :
    advance line column (u ++ v) =
      advance (advance line column u).1 (advance line column u).2 v := by
  induction u generalizing line column with
  | nil => rfl
  | cons c u ih =>
    rw [List.mem_cons, not_or] at h
    rw [List.cons_append, advance_cons (Ne.symm h.1), advance_cons (Ne.symm h.1)]
    split <;> exact ih h.2 _ _

/-- Behind line ends only what follows them counts. -/
theorem advance_breaks {bs u : List Char} (hbs : IsBreaks bs) (hne : bs ≠ []) (hu : IsLine u)
    (line column : Nat) : advance line column (bs ++ u) = (line + bs.length, u.length) := by
  induction bs generalizing line column with
  | nil => exact absurd rfl hne
  | cons b bs ih =>
    obtain ⟨⟨hb, hvalue⟩, hbs⟩ := List.forall_mem_cons.1 hbs
    rw [List.cons_append, advance_cons (ne_return_of_breakValue hvalue), hb, if_pos rfl]
    by_cases hnil : bs = []
    · rw [hnil, List.nil_append, advance_of_isLine hu, Nat.zero_add]
      rfl
    · rw [ih hbs hnil, List.length_cons]
      congr 1
      omega

/-- The place behind a stretch of text, with the text that remains. -/
def past (p : Place) (u rest : List Char) : Place :=
  ⟨rest, p.index + u.length, (advance p.line p.column u).1, (advance p.line p.column u).2⟩

variable {p : Place} {u rest : List Char}

@[simp] theorem rest_past (p : Place) (u rest : List Char) : (p.past u rest).rest = rest := rfl

theorem skip_of_rest (h : p.rest = u ++ rest) : p.skip u.length = p.past u rest := by
  have hmin : min u.length (u ++ rest).length = u.length := by simp
  rw [skip, h, List.take_left' rfl, List.drop_left' rfl, hmin, past]

theorem skip_one {c : Char} (h : p.rest = c :: rest) : p.skip 1 = p.past [c] rest :=
  skip_of_rest (u := [c]) h

theorem moveTo_of_rest (h : p.rest = u ++ rest) : p.moveTo rest = p.past u rest := by
  have hlength : p.rest.length - rest.length = u.length := by
    rw [h, List.length_append]
    omega
  rw [moveTo, hlength, skip_of_rest h]

theorem skip_zero (p : Place) : p.skip 0 = p :=
  skip_of_rest (show p.rest = [] ++ p.rest from rfl)

theorem past_past (h : '\r' ∉ u) (v rest' : List Char) :
    (p.past u rest).past v rest' = p.past (u ++ v) rest' := by
  simp only [past, advance_append h, List.length_append, Nat.add_assoc]

theorem past_of_isLine (h : IsLine u) (rest : List Char) :
    p.past u rest = ⟨rest, p.index + u.length, p.line, p.column + u.length⟩ := by
  rw [past, advance_of_isLine h]

theorem column_past_breaks {bs : List Char} (hbs : IsBreaks bs) (hne : bs ≠ []) (n : Nat) :
    (p.past (bs ++ spaces n) rest).column = n := by
  rw [past, advance_breaks hbs hne (isLine_spaces n)]
  exact List.length_replicate

theorem advance_newLine (hu : IsLine u) (n line column : Nat) :
    advance line column (u ++ '\n' :: spaces n) = (line + 1, n) := by
  have hbreak : IsBreaks ['\n'] := by simp [IsBreaks, isBreak, breakValue]
  rw [advance_append hu.notMem, advance_of_isLine hu, ← List.singleton_append,
    advance_breaks hbreak (List.cons_ne_nil _ _) (isLine_spaces n)]
  simp [spaces]

theorem column_past_newLine (hu : IsLine u) (n : Nat) (rest : List Char) :
    (p.past (u ++ '\n' :: spaces n) rest).column = n := by
  rw [past, advance_newLine hu]

theorem line_past_newLine (hu : IsLine u) (n : Nat) (rest : List Char) :
    (p.past (u ++ '\n' :: spaces n) rest).line = p.line + 1 := by
  rw [past, advance_newLine hu]

theorem skipWhile_of_rest {test : Char → Bool} (h : p.rest = u ++ rest)
    (hu : ∀ x ∈ u, test x = true) (hrest : rest.head?.any test = false) :
    p.skipWhile test = p.past u rest := by
  rw [skipWhile, h, takeWhile_append_of_head? hu hrest, skip_of_rest h]

theorem skipBreak_of_rest {b : Char} (hb : isBreak b = true) (hvalue : breakValue b = b)
    (h : p.rest = b :: rest) : p.skipBreak = p.past [b] rest := by
  rw [skipBreak, h, dropBreak_cons hb hvalue, moveTo_of_rest (u := [b]) h]

/-- The mark of a document stands at the beginning of a line. -/
theorem atDocumentMark_of_column (h : 0 < p.column) : p.atDocumentMark = false := by
  have hcolumn : (p.column == 0) = false := beq_false_of_ne (by omega)
  rw [atDocumentMark, hcolumn, Bool.false_and, Bool.false_and]

end Place

/-- A text that begins with no gap, no comment and no byte order mark. -/
def Begins (cs : List Char) : Prop :=
  cs.head?.all (fun c => !isGap c && c != '#' && c != '\ufeff') = true

theorem Begins.ne_mark {c : Char} {cs : List Char} (h : Begins (c :: cs)) : c ≠ '\ufeff' := by
  rintro rfl
  cases h

theorem Begins.ne_comment {c : Char} {cs : List Char} (h : Begins (c :: cs)) : c ≠ '#' := by
  rintro rfl
  cases h

theorem Begins.any_isGap {cs : List Char} (h : Begins cs) : cs.head?.any isGap = false := by
  cases cs with
  | nil => rfl
  | cons c cs =>
    simp only [Begins, List.head?_cons, Option.all_some, Bool.and_eq_true, Bool.not_eq_true'] at h
    exact h.1.1

end TripletFacts.Yaml
