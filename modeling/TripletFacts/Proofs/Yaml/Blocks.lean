import TripletFacts.Proofs.Yaml.Places

/-!
# Blocks are read back

A text with line feeds is written as a block of indented lines. Its lines are read one by one, each
with the line ends behind it, up to a line that is not indented as deep as the block. The sign in
the first line of the block says what becomes of the last line ends, such that the text comes back.

## Main definitions

* `Yaml.AtLine`: places at which a line of a block begins.
* `Yaml.LastLine`: a text cut at the end of its last line.

## Main results

* `Yaml.blockLines_lines`: the lines of a block are read up to the next line that is outside of it.
* `Yaml.readBlock_writeLiteral`: a text is read back from a block.
-/

namespace TripletFacts.Yaml

/-! ### Lines of blocks -/

/-- The texts that are read back from blocks. -/
def IsBlock (cs : List Char) : Prop :=
  ∀ x ∈ cs, x ≠ '\t' ∧ (isBreak x = true → breakValue x = x)

theorem isBlock_of_isPrintable {cs : List Char} (h : cs.all isPrintable = true) : IsBlock cs := by
  intro x hx
  have hx := List.all_eq_true.1 h x hx
  refine ⟨?_, fun hbreak => ?_⟩
  · rintro rfl
    cases hx
  · simp only [isBreak, Bool.or_eq_true, beq_iff_eq] at hbreak
    rcases hbreak with (((rfl | rfl) | rfl) | rfl) | rfl
    · rfl
    · cases hx
    · cases hx
    · rfl
    · rfl

theorem IsBlock.isBreaks {cs : List Char} (h : IsBlock cs) (hbreak : ∀ x ∈ cs, isBreak x = true) :
    IsBreaks cs := fun x hx => ⟨hbreak x hx, (h x hx).2 (hbreak x hx)⟩

theorem IsBlock.of_append {u v : List Char} (h : IsBlock (u ++ v)) : IsBlock u ∧ IsBlock v :=
  ⟨fun x hx => h x (List.mem_append_left v hx), fun x hx => h x (List.mem_append_right u hx)⟩

section

variable {n m fuel : Nat} {v tail : List Char} {p : Place}

/-- A place where the lines `v` of a block begin that is indented by `n`, behind the indentation of
the first of them. If there are no more lines, the place is behind the indentation `m` of the text
after the block. -/
def AtLine (n m : Nat) (v tail : List Char) (p : Place) : Prop :=
  if v = [] then p.rest = tail ∧ p.column = m
  else p.rest = indentLines n false v ++ (spaces m ++ tail) ∧ p.column = n

/-- The indentation of a line is skipped as far as it belongs to the block. -/
theorem blockIndent_spaces {w : List Char} (hrest : p.rest = spaces m ++ w) (hcolumn : p.column = 0)
    (hm : min (p.rest.takeWhile (· == ' ')).length n = m)
    (hnext : w.head?.all (fun c => c != '\t' && !isBreak c) = true) (least greatest : Nat) :
    ∃ q : Place, q.rest = w ∧ q.column = m ∧
      blockIndent least (some n) (fuel + 1) greatest p = some (n, [], q) := by
  have hskip : p.skip m = p.past (spaces m) w := by
    simpa [spaces] using Place.skip_of_rest hrest
  have hcolumn' : (p.past (spaces m) w).column = m := by
    rw [Place.past_of_isLine (isLine_spaces m), hcolumn]
    simp [spaces]
  have hnext' : ((p.past (spaces m) w).next? == some '\t') = false ∧
      (p.past (spaces m) w).next?.any isBreak = false := by
    rw [Place.next?, Place.rest_past]
    cases w with
    | nil => exact ⟨rfl, rfl⟩
    | cons c w => simpa using hnext
  refine ⟨p.past (spaces m) w, rfl, hcolumn', ?_⟩
  rw [blockIndent]
  simp only [hcolumn, Nat.sub_zero, hm, hskip, hnext'.1, hnext'.2, Bool.and_false,
    Bool.false_eq_true, if_false, Option.getD_some]

/-- A blank line counts with its line end. -/
theorem blockIndent_break {b : Char} (hb : isBreak b = true) (hvalue : breakValue b = b)
    {w : List Char} (hrest : p.rest = b :: w) (least greatest : Nat) :
    blockIndent least (some n) (fuel + 1) greatest p =
      (blockIndent least (some n) fuel (max greatest p.column) (p.past [b] w)).map
        fun (indent, breaks, q) => (indent, b :: breaks, q) := by
  have hspace : (b == ' ') = false ∧ b ≠ '\t' := by
    refine ⟨beq_false_of_ne ?_, ?_⟩
    all_goals
      rintro rfl
      cases hb
  have htab : (p.next? == some '\t') = false := by
    rw [Place.next?, hrest]
    exact beq_false_of_ne fun h => hspace.2 (Option.some.inj h)
  have hbreak : p.next?.any isBreak = true := by
    rw [Place.next?, hrest]
    exact hb
  have htake : breaksIn (p.rest.take (p.rest.length - (dropBreak p.rest).length)) = [b] := by
    rw [hrest, dropBreak_cons hb hvalue, List.length_cons, Nat.add_sub_cancel_left]
    exact breaksIn_of_isBreaks (List.forall_mem_singleton.2 ⟨hb, hvalue⟩)
  rw [blockIndent]
  simp only [hrest, List.takeWhile_cons, hspace.1, Bool.false_eq_true, if_false, List.length_nil,
    Nat.zero_min, Place.skip_zero]
  rw [← hrest, htab, hbreak, Bool.and_false, if_neg Bool.false_ne_true, if_pos rfl, htake,
    Place.skipBreak_of_rest hb hvalue hrest]
  rfl

/-- The blank lines in front of a line are read with its indentation. -/
theorem blockIndent_breaks {bs w : List Char} (hbs : IsBreaks bs) (hfuel : bs.length < fuel)
    (hrest : p.rest = bs ++ (spaces m ++ w)) (hcolumn : p.column = 0)
    (hm : min ((spaces m ++ w).takeWhile (· == ' ')).length n = m)
    (hnext : w.head?.all (fun c => c != '\t' && !isBreak c) = true) (least greatest : Nat) :
    ∃ q : Place, q.rest = w ∧ q.column = m ∧
      blockIndent least (some n) fuel greatest p = some (n, bs, q) := by
  induction bs generalizing p fuel greatest with
  | nil =>
    obtain ⟨fuel, rfl⟩ : ∃ k, fuel = k + 1 := ⟨fuel - 1, by omega⟩
    exact blockIndent_spaces hrest hcolumn (by rwa [hrest]) hnext least greatest
  | cons b bs ih =>
    obtain ⟨fuel, rfl⟩ : ∃ k, fuel = k + 1 := ⟨fuel - 1, by omega⟩
    obtain ⟨⟨hb, hvalue⟩, hbs'⟩ := List.forall_mem_cons.1 hbs
    rw [List.cons_append] at hrest
    have hcolumn' : (p.past [b] (bs ++ (spaces m ++ w))).column = 0 := by
      have hbreak : IsBreaks [b] := List.forall_mem_singleton.2 ⟨hb, hvalue⟩
      exact Place.column_past_breaks hbreak (List.cons_ne_nil _ _) 0
    obtain ⟨q, hq, hqcolumn, hread⟩ := ih hbs' (Nat.lt_of_succ_lt_succ hfuel) (p := p.past [b] _)
      rfl hcolumn' (max greatest p.column)
    exact ⟨q, hq, hqcolumn, by rw [blockIndent_break hb hvalue hrest least, hread]; rfl⟩

/-- Behind line ends begins the next line of the block, or the text after the block. -/
theorem exists_atLine {bs : List Char} (hbs : IsBreaks bs) (hv : IsBlock v)
    (hfirst : v.head?.any isBreak = false) (htail : Begins tail) (hm : m < n)
    (hfuel : bs.length < fuel) (hrest : p.rest = bs ++ (indentLines n true v ++ (spaces m ++ tail)))
    (hcolumn : p.column = 0) (least greatest : Nat) :
    ∃ q, AtLine n m v tail q ∧ blockIndent least (some n) fuel greatest p = some (n, bs, q) := by
  cases v with
  | nil =>
    have hgap := htail.any_isGap
    have hnext : tail.head?.any (· == ' ') = false ∧
        tail.head?.all (fun c => c != '\t' && !isBreak c) = true := by
      cases tail with
      | nil => exact ⟨rfl, rfl⟩
      | cons c tail => simpa [isGap, isBlank, and_assoc] using hgap
    have hm : min ((spaces m ++ tail).takeWhile (· == ' ')).length n = m := by
      rw [takeWhile_append_of_head? (by simp [spaces]) hnext.1]
      simp only [spaces, List.length_replicate]
      omega
    obtain ⟨q, hq, hqcolumn, hread⟩ := blockIndent_breaks hbs hfuel hrest hcolumn hm
      hnext.2 least greatest
    exact ⟨q, ⟨hq, hqcolumn⟩, hread⟩
  | cons c v =>
    have hc : isBreak c = false := hfirst
    have htab : c ≠ '\t' := (hv c List.mem_cons_self).1
    rw [indentLines_fresh n (w := c :: v) hc, List.append_assoc] at hrest
    have hm : min ((spaces n ++ (indentLines n false (c :: v) ++ (spaces m ++ tail))).takeWhile
        (· == ' ')).length n = n := by
      rw [List.takeWhile_append_of_pos (by simp [spaces]), List.length_append]
      simp only [spaces, List.length_replicate]
      omega
    obtain ⟨q, hq, hqcolumn, hread⟩ := blockIndent_breaks hbs hfuel hrest hcolumn hm
      (by rw [List.head?_append, head?_indentLines]; simp [hc, htab]) least greatest
    exact ⟨q, ⟨hq, hqcolumn⟩, hread⟩

theorem AtLine.column_eq (h : AtLine n m v tail p) (hne : v ≠ []) :
    p.rest = indentLines n false v ++ (spaces m ++ tail) ∧ p.column = n := by
  rwa [AtLine, if_neg hne] at h

/-- The text after a block ends it. -/
theorem blockLines_end (hm : m < n) (h : AtLine n m [] tail p) (ending blank : List Char)
    (indented : Bool) :
    blockLines false n (fuel + 1) ending blank indented p = some ([], ending, blank, p) := by
  rw [AtLine, if_pos rfl] at h
  rw [blockLines, if_pos (.inl (by omega))]

end

/-- A text cut at the end of its last line: the lines before, this line end, and the line ends after
it. -/
structure LastLine (cs body : List Char) (b : Char) (blank : List Char) : Prop where
  text : cs = body ++ b :: blank
  line : body.getLast?.all isBreak = false
  ending : isBreak b = true
  blank : ∀ x ∈ blank, isBreak x = true

theorem all_getLast?_append {test : Char → Bool} {v : List Char} (h : v.getLast?.all test = false)
    (u : List Char) : (u ++ v).getLast?.all test = false := by
  rw [List.getLast?_append]
  cases hv : v.getLast? with
  | none =>
    rw [hv] at h
    cases h
  | some c =>
    rw [hv] at h
    exact h

section

variable {n m fuel : Nat} {u v bs tail : List Char} {b : Char} {p : Place}

/-- One line of a block with the line ends behind it. -/
theorem blockLines_line (hu : IsLine u) (hne : u ≠ []) (hbs : IsBreaks (b :: bs)) (hv : IsBlock v)
    (hfirst : v.head?.any isBreak = false) (htail : Begins tail) (hm : m < n)
    (hrest : p.rest = u ++ b :: (bs ++ (indentLines n true v ++ (spaces m ++ tail))))
    (hcolumn : p.column = n) (fuel : Nat) (ending blank : List Char) (indented : Bool) :
    ∃ indented' q, AtLine n m v tail q ∧
      blockLines false n (fuel + 1) ending blank indented p =
        (blockLines false n fuel [b] bs indented' q).map fun (text, last) =>
          (ending ++ blank ++ u ++ text, last) := by
  obtain ⟨⟨hb, hvalue⟩, hbs'⟩ := List.forall_mem_cons.1 hbs
  have hnonempty : p.rest ≠ [] := by
    rw [hrest]
    exact List.append_ne_nil_of_left_ne_nil hne _
  have hline : p.rest.takeWhile (!isBreak ·) = u := by
    rw [hrest]
    exact takeWhile_append_of_head? (by simpa [IsLine] using hu) (by simpa using hb)
  generalize hmore : bs ++ (indentLines n true v ++ (spaces m ++ tail)) = more at hrest
  have hcolumn' : ((p.past u (b :: more)).past [b] more).column = 0 :=
    Place.column_past_breaks (List.forall_mem_singleton.2 ⟨hb, hvalue⟩) (List.cons_ne_nil _ _) 0
  have hfuel : bs.length < more.length + 1 := by
    rw [← hmore, List.length_append]
    omega
  obtain ⟨q, hq, hread⟩ := exists_atLine (p := (p.past u (b :: more)).past [b] more) hbs' hv hfirst
    htail hm hfuel hmore.symm hcolumn' 0 0
  have hending : breaksIn ((b :: more).take ((b :: more).length - more.length)) = [b] := by
    rw [List.length_cons, Nat.add_sub_cancel_left]
    exact breaksIn_of_isBreaks (List.forall_mem_singleton.2 ⟨hb, hvalue⟩)
  refine ⟨p.next?.any isBlank, q, hq, ?_⟩
  rw [blockLines, if_neg (by simp [hcolumn, hnonempty])]
  simp only [Bool.false_and, Bool.false_eq_true, if_false, hline, Place.skip_of_rest hrest,
    Place.skipBreak_of_rest hb hvalue (Place.rest_past ..), Place.rest_past, hending, hread]

/-- The lines of a block are read up to the text after it. -/
theorem blockLines_lines (htail : Begins tail) (hm : m < n) (hv : IsBlock v) (hne : v ≠ [])
    (hfirst : v.head?.any isBreak = false) (hlast : v.getLast?.all isBreak = true)
    (hfuel : v.length < fuel) (h : AtLine n m v tail p) (ending blank : List Char)
    (indented : Bool) :
    ∃ body b blank' q, LastLine (ending ++ (blank ++ v)) body b blank' ∧ q.rest = tail ∧
      q.column = m ∧
      blockLines false n fuel ending blank indented p = some (body, [b], blank', q) := by
  induction hlength : v.length using Nat.strongRecOn
      generalizing v fuel ending blank indented p with
  | ind length ih =>
    obtain ⟨fuel, rfl⟩ : ∃ k, fuel = k + 1 := ⟨fuel - 1, by omega⟩
    obtain ⟨u, g, w, hs⟩ := exists_stretches isBreak v
    have hu := hs.word_ne_nil hne hfirst
    have hlastline : u.getLast?.all isBreak = false := by
      rw [List.getLast?_eq_some_getLast hu]
      exact hs.word _ (List.getLast_mem hu)
    obtain ⟨b, bs, rfl⟩ : ∃ b bs, g = b :: bs := by
      refine List.exists_cons_of_ne_nil fun hnil => ?_
      rw [hs.text, hnil, hs.last hnil, List.append_nil, List.append_nil, hlastline] at hlast
      cases hlast
    obtain ⟨hg, hw⟩ : IsBlock (b :: bs) ∧ IsBlock w := by
      rw [hs.text] at hv
      exact hv.of_append.2.of_append
    obtain ⟨hrest, hcolumn⟩ := h.column_eq hne
    rw [hs.text, indentLines_line n hs.word, indentLines_breaks n hs.gap (List.cons_ne_nil _ _),
      List.append_assoc, List.append_assoc] at hrest
    obtain ⟨indented', q, hq, hread⟩ := blockLines_line hs.word hu (hg.isBreaks hs.gap) hw hs.next
      htail hm hrest hcolumn fuel ending blank indented
    have hlong : w.length < fuel := by
      have := hs.length_lt hne
      omega
    rw [hread]
    by_cases hnil : w = []
    · -- the last line
      subst hnil
      obtain ⟨fuel, rfl⟩ : ∃ k, fuel = k + 1 := ⟨fuel - 1, by omega⟩
      rw [blockLines_end hm hq]
      rw [AtLine, if_pos rfl] at hq
      refine ⟨ending ++ blank ++ u, b, bs, q, ⟨?_, all_getLast?_append hlastline _, ?_, ?_⟩, hq.1,
        hq.2, ?_⟩
      · simp [hs.text]
      · exact hs.gap b List.mem_cons_self
      · exact fun x hx => hs.gap x (List.mem_cons_of_mem b hx)
      · simp
    · have hlast' : w.getLast?.all isBreak = true := by
        rw [← Bool.not_eq_false]
        intro hfalse
        rw [hs.text, all_getLast?_append (all_getLast?_append hfalse _)] at hlast
        cases hlast
      obtain ⟨body, b', blank', q', hcut, hq', hcolumn', hread'⟩ :=
        ih _ (hlength ▸ hs.length_lt hne) hw hnil hs.next
        hlast' hlong hq [b] bs indented' rfl
      refine ⟨ending ++ blank ++ u ++ body, b', blank', q', ⟨?_, all_getLast?_append hcut.line _,
        hcut.ending, hcut.blank⟩, hq', hcolumn', ?_⟩
      · have htext := hcut.text
        rw [List.append_assoc, List.append_assoc, List.append_assoc, ← htext, hs.text]
        simp
      · rw [hread']
        rfl

end

/-! ### The ends of blocks -/

/-- What is left of the last line ends of a block. -/
def Chomping.keeps (ending blank : List Char) : Chomping → List Char
  | .strip => []
  | .clip => ending
  | .keep => ending ++ blank

/-- A line with one line end behind it has no other line ends behind it. -/
theorem LastLine.eq_of_concat {u body blank : List Char} {b c : Char}
    (h : LastLine (u ++ [c]) body b blank) (hu : u.getLast?.all isBreak = false) :
    body = u ∧ b = c ∧ blank = [] := by
  have htext := h.text
  rcases List.eq_nil_or_concat blank with rfl | ⟨blank, d, rfl⟩
  · obtain ⟨rfl, hbc⟩ := List.append_inj' htext rfl
    exact ⟨rfl, (List.cons.inj hbc).1.symm, rfl⟩
  · rw [List.concat_eq_append, ← List.cons_append, ← List.append_assoc] at htext
    obtain ⟨rfl, -⟩ := List.append_inj' htext rfl
    have hlast : (b :: blank).getLast?.all isBreak = true := by
      rw [List.getLast?_eq_some_getLast (List.cons_ne_nil b blank)]
      obtain hb | hblank := List.mem_cons.1 (List.getLast_mem (List.cons_ne_nil b blank))
      · rw [hb]
        exact h.ending
      · exact h.blank _ (by simp [hblank])
    rw [List.getLast?_append, List.getLast?_eq_some_getLast (List.cons_ne_nil b blank)] at hu
    rw [List.getLast?_eq_some_getLast (List.cons_ne_nil b blank)] at hlast
    cases hlast.symm.trans hu

/-- The line end that a block needs behind its text. -/
def blockEnding (cs : List Char) : List Char := if cs.getLast?.any isBreak then [] else ['\n']

theorem isBreak_of_mem_blockEnding (cs : List Char) : ∀ x ∈ blockEnding cs, isBreak x = true := by
  rw [blockEnding]
  split <;> simp [isBreak]

theorem IsBlock.append_blockEnding {cs : List Char} (h : IsBlock cs) :
    IsBlock (cs ++ blockEnding cs) := by
  refine fun x hx => (List.mem_append.1 hx).elim (h x) fun hx => ?_
  rw [blockEnding] at hx
  split at hx
  case isTrue => cases hx
  case isFalse =>
    rw [List.mem_singleton.1 hx]
    exact ⟨by decide, fun _ => rfl⟩

theorem getLast?_append_blockEnding (cs : List Char) :
    (cs ++ blockEnding cs).getLast?.all isBreak = true := by
  rw [blockEnding]
  split
  case isTrue hbreak =>
    rw [List.append_nil]
    cases hc : cs.getLast? <;> simp_all
  case isFalse =>
    rw [List.getLast?_concat]
    rfl

/-- The sign of a block, and what it says. -/
inductive Signs (cs : List Char) : List Char → Chomping → Prop
  | strip : cs.getLast?.all isBreak = false → Signs cs ['-'] .strip
  | keep : cs.getLast?.any isBreak = true → Signs cs ['+'] .keep
  | clip {u : List Char} {c : Char} : cs = u ++ [c] → u.getLast?.all isBreak = false →
      isBreak c = true → Signs cs [] .clip

theorem exists_signs {cs : List Char} (hne : cs ≠ []) :
    ∃ chomping, Signs cs (chompingSign cs) chomping := by
  obtain ⟨u, c, rfl⟩ := (List.eq_nil_or_concat cs).resolve_left hne
  rw [List.concat_eq_append, chompingSign, List.reverse_append, List.reverse_singleton,
    List.singleton_append]
  dsimp only
  rw [List.head?_reverse]
  cases hc : isBreak c with
  | false => exact ⟨_, .strip (by simpa using hc)⟩
  | true =>
    cases hu : u.getLast?.all isBreak with
    | true => exact ⟨_, .keep (by simpa using hc)⟩
    | false => exact ⟨_, .clip rfl hu hc⟩

namespace Signs

variable {cs sign body blank : List Char} {chomping : Chomping} {b : Char}

/-- The text comes back from its lines. -/
theorem keeps (h : Signs cs sign chomping) (hlines : LastLine (cs ++ blockEnding cs) body b blank) :
    body ++ chomping.keeps [b] blank = cs := by
  cases h with
  | strip hlast =>
    have hending : blockEnding cs = ['\n'] := by
      rw [blockEnding, if_neg]
      cases hc : cs.getLast? <;> simp_all
    rw [hending] at hlines
    rw [(hlines.eq_of_concat hlast).1]
    exact List.append_nil cs
  | keep hlast =>
    rw [blockEnding, if_pos hlast, List.append_nil] at hlines
    exact hlines.text.symm
  | clip hcs hu hc =>
    subst hcs
    rw [blockEnding, if_pos (by simpa using hc), List.append_nil] at hlines
    obtain ⟨rfl, rfl, -⟩ := hlines.eq_of_concat hu
    rfl

/-- Of line ends alone all are kept. -/
theorem keeps_breaks (h : Signs cs sign chomping) (hbreak : ∀ x ∈ cs, isBreak x = true) :
    chomping.keeps [] (cs ++ blockEnding cs) = cs := by
  have hlast : ∀ u : List Char, (∀ x ∈ u, isBreak x = true) → u.getLast?.all isBreak = true := by
    intro u hu
    rw [Option.all_eq_true]
    exact fun x hx => hu x (List.mem_of_getLast? hx)
  cases h with
  | strip h => cases (hlast cs hbreak).symm.trans h
  | keep h =>
    rw [blockEnding, if_pos h, List.append_nil]
    rfl
  | clip hcs hu =>
    subst hcs
    cases (hlast _ fun x hx => hbreak x (List.mem_append_left _ hx)).symm.trans hu

/-- The header of a block is read up to the end of its line. -/
theorem readHeader_eq (h : Signs cs sign chomping) (hint : Bool) (rest : List Char) :
    readHeader ((if hint then ['2'] else []) ++ sign ++ '\n' :: rest) =
      (⟨chomping, if hint then some 2 else none⟩, '\n' :: rest) := by
  cases h <;> cases hint <;> rfl

end Signs

/-! ### Literal blocks -/

section

variable {n m : Nat} {cs tail : List Char} {p : Place}

/-- Without a digit for it, the indentation of a block is that of its first line. -/
theorem blockIndent_none {least fuel : Nat} {c : Char} {w : List Char}
    (hrest : p.rest = spaces n ++ c :: w) (hcolumn : p.column = 0) (hspace : c ≠ ' ')
    (htab : c ≠ '\t') (hbreak : isBreak c = false) (hleast : least ≤ n) :
    ∃ q : Place, q.rest = c :: w ∧ q.column = n ∧
      blockIndent least none (fuel + 1) 0 p = some (n, [], q) := by
  have hcount : (p.rest.takeWhile (· == ' ')).length = n := by
    rw [hrest, takeWhile_append_of_head? (by simp [spaces]) (by simpa using hspace)]
    simp [spaces]
  have hskip : p.skip n = p.past (spaces n) (c :: w) := by
    simpa [spaces] using Place.skip_of_rest hrest
  have hcolumn' : (p.past (spaces n) (c :: w)).column = n := by
    rw [Place.past_of_isLine (isLine_spaces n), hcolumn]
    simp [spaces]
  have hnext : (p.past (spaces n) (c :: w)).next? = some c := rfl
  have htab' : (some c == some '\t') = false := beq_false_of_ne (by simpa using htab)
  refine ⟨p.past (spaces n) (c :: w), rfl, hcolumn', ?_⟩
  rw [blockIndent]
  simp only [hcount, hskip, hnext, htab', hcolumn', Option.any_some, hbreak, Bool.and_false,
    Bool.false_eq_true, if_false, Option.getD_none, Nat.zero_max, Nat.max_eq_left hleast]

theorem exists_atLine_first (h : IsBlock cs) (hne : cs ≠ []) {bs v : List Char}
    (hcs : cs = bs ++ v) (hbs : ∀ x ∈ bs, isBreak x = true) (hfirst : v.head?.any isBreak = false)
    (htail : Begins tail) (hm : m < n) {least fuel : Nat} (hleast : least ≤ n)
    (hfuel : bs.length < fuel) (hrest : p.rest = indentLines n true cs ++ (spaces m ++ tail))
    (hcolumn : p.column = 0) : ∃ q, AtLine n m v tail q ∧
      blockIndent least (if isLoose cs.head? then some n else none) fuel 0 p = some (n, bs, q) := by
  cases hloose : isLoose cs.head? with
  | true =>
    obtain ⟨hblank, hlines⟩ : IsBlock bs ∧ IsBlock v := by
      rw [hcs] at h
      exact h.of_append
    have hwritten : indentLines n true (bs ++ v) = bs ++ indentLines n true v := by
      by_cases hnil : bs = []
      · rw [hnil]
        rfl
      · exact indentLines_breaks n hbs hnil true v
    rw [hcs, hwritten, List.append_assoc] at hrest
    exact exists_atLine (hblank.isBreaks hbs) hlines hfirst htail hm hfuel hrest hcolumn least 0
  | false =>
    obtain ⟨c, w, rfl⟩ := List.exists_cons_of_ne_nil hne
    simp only [isLoose, List.head?_cons, Option.any_some, Bool.or_eq_false_iff] at hloose
    obtain ⟨hspace, hc⟩ := hloose
    have hspace : c ≠ ' ' := by simpa using hspace
    obtain ⟨rfl, rfl⟩ : bs = [] ∧ v = c :: w := by
      cases bs with
      | nil => exact ⟨rfl, hcs.symm⟩
      | cons b bs =>
        obtain ⟨rfl, -⟩ := List.cons.inj hcs
        cases hc.symm.trans (hbs _ List.mem_cons_self)
    obtain ⟨fuel, rfl⟩ : ∃ k, fuel = k + 1 := ⟨fuel - 1, by omega⟩
    have hwritten : indentLines n false (c :: w) = c :: indentLines n false w := by
      rw [indentLines, hc]
      rfl
    rw [indentLines_fresh n (w := c :: w) hc, hwritten, List.append_assoc] at hrest
    obtain ⟨q, hq, hqcolumn, hread⟩ := blockIndent_none hrest hcolumn hspace
      (h c List.mem_cons_self).1 hc hleast
    refine ⟨q, ?_, hread⟩
    rw [AtLine, if_neg (List.cons_ne_nil c w), hwritten]
    exact ⟨hq, hqcolumn⟩

/-- A block is read from its header and its lines. -/
theorem readBlock_of_lines {parent : Nat} {header : BlockHeader} {sign w : List Char}
    (hheader : readHeader p.rest = (header, '\n' :: w)) (hrest : p.rest = sign ++ '\n' :: w)
    {blank text ending blank' : List Char} {q q' : Place}
    (hindent : blockIndent (parent + 1) (header.indent.map (parent + ·)) (w.length + 1) 0
      ((p.past sign ('\n' :: w)).past ['\n'] w) = some (n, blank, q))
    (hlines : blockLines false n (q.rest.length + 1) [] blank false q =
      some (text, ending, blank', q')) :
    readBlock false (some parent) p = some (text ++ header.chomping.keeps ending blank', q') := by
  have hblank : (p.past sign ('\n' :: w)).skipWhile isBlank = p.past sign ('\n' :: w) := by
    rw [Place.skipWhile, Place.rest_past]
    exact Place.skip_zero _
  have hnext : (p.past sign ('\n' :: w)).next? = some '\n' := rfl
  have hbreak : (p.past sign ('\n' :: w)).skipBreak = (p.past sign ('\n' :: w)).past ['\n'] w :=
    Place.skipBreak_of_rest rfl rfl rfl
  have hcomment : (some '\n' == some '#') = false := rfl
  have hline : (!isBreak '\n') = false := rfl
  have hleast : max 1 (parent + 1) = parent + 1 := by omega
  rw [readBlock]
  simp only [hheader, Place.moveTo_of_rest hrest, hblank, hnext, hcomment, Bool.false_eq_true,
    if_false, Option.any_some, hline, hbreak, hleast, Place.rest_past, Option.getD_some, hindent,
    hlines]
  cases header.chomping <;> rfl

/-- The lines behind the blank ones at the beginning of a block give the text back. -/
theorem Signs.exists_blockLines {sign bs v : List Char} {chomping : Chomping}
    (h : Signs cs sign chomping) (hblock : IsBlock (cs ++ blockEnding cs))
    (hcut : cs ++ blockEnding cs = bs ++ v) (hbs : ∀ x ∈ bs, isBreak x = true)
    (hfirst : v.head?.any isBreak = false) (htail : Begins tail) (hm : m < n) {q : Place}
    (hq : AtLine n m v tail q) : ∃ text ending blank q',
      blockLines false n (q.rest.length + 1) [] bs false q = some (text, ending, blank, q') ∧
        q'.rest = tail ∧ q'.column = m ∧ text ++ chomping.keeps ending blank = cs := by
  by_cases hnil : v = []
  · -- all lines are blank
    subst hnil
    rw [List.append_nil] at hcut
    have hbreak : ∀ x ∈ cs, isBreak x = true := fun x hx =>
      hbs x (hcut ▸ List.mem_append_left _ hx)
    refine ⟨_, _, _, q, blockLines_end hm hq .., hq.1, hq.2, ?_⟩
    rw [List.nil_append, ← hcut, h.keeps_breaks hbreak]
  · have hlast : v.getLast?.all isBreak = true := by
      have hlast := getLast?_append_blockEnding cs
      rw [← Bool.not_eq_false]
      intro hfalse
      rw [hcut, all_getLast?_append hfalse] at hlast
      cases hlast
    have hlong : v.length < q.rest.length + 1 := by
      have hlong := length_le_indentLines n false v
      rw [(hq.column_eq hnil).1, List.length_append]
      omega
    have hv : IsBlock v := by
      rw [hcut] at hblock
      exact hblock.of_append.2
    obtain ⟨body, b, blank, q', hlines, hq', hcolumn, hread⟩ := blockLines_lines htail hm hv hnil
      hfirst hlast hlong hq [] bs false
    rw [List.nil_append, ← hcut] at hlines
    exact ⟨body, [b], blank, q', hread, hq', hcolumn, h.keeps hlines⟩

/-- A text is read back from a literal block. -/
theorem readBlock_writeLiteral (h : IsBlock cs) (hne : cs ≠ []) (htail : Begins tail)
    {parent : Nat} (hm : m < parent + 2)
    (hrest : '|' :: p.rest =
      writeLiteral (parent + 2) cs ++ (blockEnding cs ++ (spaces m ++ tail))) :
    ∃ q : Place, q.rest = tail ∧ q.column = m ∧
      readBlock false (some parent) p = some (cs, q) := by
  obtain ⟨chomping, hsigns⟩ := exists_signs hne
  have hblock := h.append_blockEnding
  have hnonempty : cs ++ blockEnding cs ≠ [] := List.append_ne_nil_of_left_ne_nil hne _
  have hhead : (cs ++ blockEnding cs).head? = cs.head? := by
    rw [List.head?_append, List.head?_eq_some_head hne, Option.some_or]
  -- the lines, behind the first line of the block
  generalize hw : indentLines (parent + 2) true (cs ++ blockEnding cs) ++ (spaces m ++ tail) = w
  have hrest' : p.rest =
      (if isLoose cs.head? then ['2'] else []) ++ chompingSign cs ++ '\n' :: w := by
    rw [writeLiteral, List.cons_append] at hrest
    rw [← hw, indentLines_append_breaks (parent + 2) (isBreak_of_mem_blockEnding cs),
      List.append_assoc]
    refine (List.cons.inj hrest).2.trans ?_
    simp only [List.append_assoc, List.cons_append]
  have hheader := hsigns.readHeader_eq (isLoose cs.head?) w
  rw [← hrest'] at hheader
  -- the blank lines at the beginning, and the lines behind them
  obtain ⟨bs, v, hcut, hbs, hfirst⟩ : ∃ bs v, cs ++ blockEnding cs = bs ++ v ∧
      (∀ x ∈ bs, isBreak x = true) ∧ v.head?.any isBreak = false :=
    ⟨_, _, List.takeWhile_append_dropWhile.symm, List.all_eq_true.1 List.all_takeWhile,
      any_head?_dropWhile _⟩
  have hfuel : bs.length < w.length + 1 := by
    have hlong := length_le_indentLines (parent + 2) true (cs ++ blockEnding cs)
    rw [hcut, List.length_append] at hlong
    rw [← hw, hcut, List.length_append]
    omega
  have hcolumn : ∀ sign, ((p.past sign ('\n' :: w)).past ['\n'] w).column = 0 := fun sign =>
    Place.column_past_breaks (List.forall_mem_singleton.2 ⟨rfl, rfl⟩) (List.cons_ne_nil _ _) 0
  obtain ⟨q, hq, hindent⟩ := exists_atLine_first hblock hnonempty hcut hbs hfirst htail hm
    (Nat.le_succ (parent + 1)) hfuel hw.symm (hcolumn _)
  have hknown : (if isLoose (cs ++ blockEnding cs).head? then some (parent + 2) else none) =
      (if isLoose cs.head? then some 2 else none).map (parent + ·) := by
    rw [hhead]
    split <;> rfl
  rw [hknown] at hindent
  obtain ⟨text, ending, blank, q', hlines, hq', hcolumn', hkept⟩ :=
    hsigns.exists_blockLines hblock hcut hbs hfirst htail hm hq
  exact ⟨q', hq', hcolumn', by rw [readBlock_of_lines hheader hrest' hindent hlines, hkept]⟩

end

end TripletFacts.Yaml
