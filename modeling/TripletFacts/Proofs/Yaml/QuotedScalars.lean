import TripletFacts.Proofs.Yaml.PlainScalars

/-!
# Quoted scalars are read back

A quoted scalar is read word by word, and the gaps between the words are read for themselves. In
double quotes all gaps but spaces are escaped, so that the gaps are spaces. In single quotes a gap
is either made of spaces or of line ends, behind which the next line is indented; the indentation
does not count.

## Main results

* `Yaml.readQuoted_double`: texts in double quotes are read back.
* `Yaml.readQuoted_single`: texts in single quotes are read back if they may be written so.
-/

namespace TripletFacts.Yaml

/-! ### Words and gaps -/

/-- A word in quotes and what follows. -/
def quotedRun (double : Bool) (cs : List Char) : Option (List Char × Stop × List Char) :=
  if double then doubleRun (cs.length + 1) cs else some (singleRun cs)

section

variable {double : Bool} {fuel : Nat} {p : Place} {w text rest : List Char}

/-- The last word is read up to the closing quote. -/
theorem readQuoted_close (hmark : p.atDocumentMark = false) (hrest : p.rest = w ++ rest)
    (hne : p.rest ≠ []) (hrun : quotedRun double p.rest = some (text, .close, rest)) :
    readQuoted double (fuel + 1) p = some (text, p.past w rest) := by
  have hnonempty : p.rest.isEmpty = false := by simpa using hne
  unfold quotedRun at hrun
  rw [readQuoted, hmark, hnonempty, Bool.or_false, if_neg Bool.false_ne_true]
  dsimp only
  rw [hrun]
  exact congrArg (fun q => some (text, q)) (Place.moveTo_of_rest hrest)

/-- Another word is read up to a gap, and the gap for itself. -/
theorem readQuoted_gap {g : List Char} (hmark : p.atDocumentMark = false)
    (hrest : p.rest = w ++ (g ++ rest)) (hne : p.rest ≠ [])
    (hrun : quotedRun double p.rest = some (text, .gap, g ++ rest))
    (hgap : (g ++ rest).takeWhile isGap = g) (fuel : Nat) :
    readQuoted double (fuel + 1) p =
      (readQuoted double fuel (p.past (w ++ g) rest)).map fun (more, q) =>
        (text ++ gapText g ++ more, q) := by
  have hnonempty : p.rest.isEmpty = false := by simpa using hne
  have hmove : p.moveTo rest = p.past (w ++ g) rest :=
    Place.moveTo_of_rest (by rw [hrest, List.append_assoc])
  unfold quotedRun at hrun
  rw [readQuoted, hmark, hnonempty, Bool.or_false, if_neg Bool.false_ne_true]
  dsimp only
  rw [hrun]
  dsimp only
  rw [hgap, List.drop_left' rfl, hmove]

end

/-! ### Double quotes -/

/-- Characters that are visible and stand on their own. -/
def IsVisible (c : Char) : Prop := 0x20 < c.toNat ∧ c.toNat < 0x7f

instance : DecidablePred IsVisible := fun c =>
  inferInstanceAs (Decidable (0x20 < c.toNat ∧ c.toNat < 0x7f))

theorem IsVisible.isGap_eq_false {c : Char} (h : IsVisible c) : isGap c = false := by
  rw [← Bool.not_eq_true]
  intro hgap
  simp only [isGap, isBlank, isBreak, Bool.or_eq_true, beq_iff_eq] at hgap
  rcases hgap with (rfl | rfl) | (((rfl | rfl) | rfl) | rfl) | rfl
  all_goals exact absurd h (by decide)

theorem isBreak_of_isGap_eq_false {c : Char} (h : isGap c = false) : isBreak c = false :=
  (Bool.or_eq_false_iff.1 h).2

/-- The escape `e`, without its backslash, stands for a character. -/
structure Escapes (e : List Char) (c : Char) : Prop where
  visible : ∀ x ∈ e, IsVisible x
  ne_nil : e ≠ []
  read : ∀ w, readEscape (e ++ w) = some (c, w)

/-- Every letter of the table is read as its character. -/
theorem escapes_of_mem : ∀ x ∈ escapeLetters, x.1 ≠ ' ' ∧ Escapes [x.2] x.1 := by
  simp only [escapeLetters, List.forall_mem_cons]
  refine ⟨?_, ?_, ?_, ?_, ?_, ?_, ?_, ?_, ?_, ?_, ?_, ?_, ?_, ?_, ?_, List.forall_mem_nil _⟩
  all_goals
    exact ⟨by decide, List.forall_mem_singleton.2 (by decide), List.cons_ne_nil _ _, fun _ => rfl⟩

/-- Digits in their full number are read as the character that they count. -/
theorem readCodePoint_append {digits : Nat} {u : List Char} {c : Char} (hlength : u.length = digits)
    (h : hexChar? u = some c) (w : List Char) : readCodePoint digits (u ++ w) = some (c, w) := by
  have hlong : ¬(u ++ w).length < digits := by
    rw [List.length_append]
    omega
  rw [readCodePoint, if_neg hlong, List.take_left' hlength, List.drop_left' hlength, h]
  rfl

theorem hexDigits_two : ∀ n < 256, (hexDigits 2 n).all (IsVisible ·) = true ∧
    (hexDigits 2 n).length = 2 ∧ hexChar? (hexDigits 2 n) = some (Char.ofNat n) := by
  decide +kernel

theorem hexDigits_four : ∀ n ∈ [0xfeff, 0xfffe, 0xffff], (hexDigits 4 n).all (IsVisible ·) = true ∧
    (hexDigits 4 n).length = 4 ∧ hexChar? (hexDigits 4 n) = some (Char.ofNat n) := by
  decide +kernel

/-- The characters that are not printed, have no letter and take more than two digits. -/
theorem mem_of_isPrintable_eq_false {c : Char} (h : isPrintable c = false)
    (hlong : 0xff < c.toNat) :
    c.toNat ∈ [0xfeff, 0xfffe, 0xffff] := by
  simp only [isPrintable, Bool.or_eq_false_iff, decide_eq_false_iff_not] at h
  simp only [List.mem_cons, List.not_mem_nil, or_false]
  omega

/-- Line ends, quotes and backslashes have letters. -/
theorem isPrintable_of_lookup_eq_none {c : Char} (h : escapeLetters.lookup c = none) :
    (isPrintable c && !isBreak c && c != '"' && c != '\\') = isPrintable c := by
  have hne : ∀ x, (escapeLetters.lookup x).isSome = true → c ≠ x := by
    rintro x hx rfl
    rw [h] at hx
    cases hx
  have hbreak : isBreak c = false := by
    rw [← Bool.not_eq_true]
    intro hbreak
    simp only [isBreak, Bool.or_eq_true, beq_iff_eq] at hbreak
    rcases hbreak with (((rfl | rfl) | rfl) | rfl) | rfl
    all_goals exact hne _ (by decide) rfl
  rw [hbreak, bne_iff_ne.2 (hne '"' (by decide)), bne_iff_ne.2 (hne '\\' (by decide))]
  simp only [Bool.not_false, Bool.and_true]

/-- A character in double quotes stands for itself, or an escape stands for it. -/
theorem doubleChar_cases (c : Char) :
    (doubleChar c = [c] ∧ (c = ' ' ∨ isGap c = false) ∧ c ≠ '"' ∧ c ≠ '\\' ∧
        isPrintable c = true) ∨
      (c ≠ ' ' ∧ ∃ e, doubleChar c = '\\' :: e ∧ Escapes e c) := by
  unfold doubleChar
  split
  case isTrue h =>
    left
    simp only [Bool.and_eq_true, Bool.not_eq_true', bne_iff_ne] at h
    obtain ⟨⟨⟨hprintable, hbreak⟩, hquote⟩, hslash⟩ := h
    refine ⟨rfl, ?_, hquote, hslash, hprintable⟩
    by_cases hspace : c = ' '
    · exact .inl hspace
    · have htab : c ≠ '\t' := by
        rintro rfl
        cases hprintable
      exact .inr (by rw [isGap, isBlank, hbreak, beq_false_of_ne hspace, beq_false_of_ne htab]; rfl)
  case isFalse h =>
    right
    split
    case h_1 l hl =>
      obtain ⟨u, v, htable, -⟩ := List.lookup_eq_some_iff.1 hl
      obtain ⟨hspace, hescapes⟩ := escapes_of_mem (c, l) (by rw [htable]; simp)
      exact ⟨hspace, [l], rfl, hescapes⟩
    case h_2 hl =>
      rw [isPrintable_of_lookup_eq_none hl, Bool.not_eq_true] at h
      have hspace : c ≠ ' ' := by
        rintro rfl
        cases h
      refine ⟨hspace, ?_⟩
      by_cases hshort : c.toNat ≤ 0xff
      · obtain ⟨hvisible, hlength, hread⟩ := hexDigits_two c.toNat (by omega)
        rw [Char.ofNat_toNat] at hread
        rw [if_pos hshort]
        exact ⟨_, rfl, List.forall_mem_cons.2 ⟨by decide, by simpa using hvisible⟩,
          List.cons_ne_nil _ _, readCodePoint_append hlength hread⟩
      · have hmem := mem_of_isPrintable_eq_false h (by omega)
        obtain ⟨hvisible, hlength, hread⟩ := hexDigits_four c.toNat hmem
        have hfour : c.toNat ≤ 0xffff := by
          simp only [List.mem_cons, List.not_mem_nil, or_false] at hmem
          omega
        rw [Char.ofNat_toNat] at hread
        rw [if_neg hshort, if_pos hfour]
        exact ⟨_, rfl, List.forall_mem_cons.2 ⟨by decide, by simpa using hvisible⟩,
          List.cons_ne_nil _ _, readCodePoint_append hlength hread⟩

theorem isLine_doubleChar (c : Char) : IsLine (doubleChar c) := by
  obtain ⟨hchar, hc, -⟩ | ⟨-, e, hchar, he⟩ := doubleChar_cases c
  · rw [hchar]
    refine List.forall_mem_singleton.2 ?_
    obtain rfl | hc := hc
    · rfl
    · exact isBreak_of_isGap_eq_false hc
  · rw [hchar]
    exact List.forall_mem_cons.2
      ⟨rfl, fun x hx => isBreak_of_isGap_eq_false (he.visible x hx).isGap_eq_false⟩

theorem isLine_flatMap_doubleChar (cs : List Char) : IsLine (cs.flatMap doubleChar) := fun x hx =>
  let ⟨c, _, hc⟩ := List.mem_flatMap.1 hx
  isLine_doubleChar c x hc

theorem flatMap_doubleChar_spaces (n : Nat) : (spaces n).flatMap doubleChar = spaces n := by
  have hspace : doubleChar ' ' = [' '] := by decide
  induction n with
  | zero => rfl
  | succ n ih => rw [spaces_succ, List.flatMap_cons, ih, hspace, List.singleton_append]

theorem length_le_flatMap_doubleChar (cs : List Char) :
    cs.length ≤ (cs.flatMap doubleChar).length := by
  induction cs with
  | nil => exact Nat.le_refl _
  | cons c cs ih =>
    rw [List.flatMap_cons, List.length_append, List.length_cons]
    obtain ⟨hchar, -⟩ | ⟨-, e, hchar, -⟩ := doubleChar_cases c
    all_goals
      rw [hchar, List.length_cons]
      omega

theorem isGap_head_flatMap_doubleChar {cs : List Char} (h : cs.head?.any (· == ' ') = false)
    (rest : List Char) : (cs.flatMap doubleChar ++ '"' :: rest).head?.any isGap = false := by
  cases cs with
  | nil => rfl
  | cons c cs =>
    have hne : c ≠ ' ' := by simpa using h
    obtain ⟨hchar, hc, -⟩ | ⟨-, e, hchar, -⟩ := doubleChar_cases c
    · rw [List.flatMap_cons, hchar]
      exact hc.resolve_left hne
    · rw [List.flatMap_cons, hchar]
      rfl

/-- The characters of a word in double quotes are read one by one. -/
theorem doubleRun_flatMap {cs : List Char} (h : ∀ x ∈ cs, (x == ' ') = false) (rest : List Char)
    (n : Nat) : doubleRun (cs.length + n) (cs.flatMap doubleChar ++ rest) =
      (doubleRun n rest).map fun (text, stop) => (cs ++ text, stop) := by
  induction cs with
  | nil => simp
  | cons c cs ih =>
    obtain ⟨hc, hcs⟩ := List.forall_mem_cons.1 h
    have hfuel : (c :: cs).length + n = cs.length + n + 1 := by
      rw [List.length_cons]
      omega
    rw [List.flatMap_cons, List.append_assoc, hfuel]
    obtain ⟨hchar, hgap, hquote, hslash, -⟩ | ⟨-, e, hchar, he⟩ := doubleChar_cases c
    · have hgap : isGap c = false := hgap.resolve_left (by simpa using hc)
      rw [hchar, List.singleton_append, doubleRun.eq_5 _ _ _ hquote hslash, hgap,
        if_neg Bool.false_ne_true, ih hcs, Option.map_map]
      rfl
    · have hbreak : (e ++ (cs.flatMap doubleChar ++ rest)).head?.any isBreak = false := by
        obtain ⟨x, e', rfl⟩ := List.exists_cons_of_ne_nil he.ne_nil
        exact isBreak_of_isGap_eq_false (he.visible x List.mem_cons_self).isGap_eq_false
      rw [hchar, List.cons_append, doubleRun, hbreak, if_neg Bool.false_ne_true, he.read]
      dsimp only
      rw [ih hcs, Option.map_map]
      rfl

/-- A word in double quotes is read up to what follows it. -/
theorem quotedRun_double {cs : List Char} (h : ∀ x ∈ cs, (x == ' ') = false) {c : Char}
    {rest : List Char} {stop : Stop × List Char}
    (hstop : ∀ n, doubleRun (n + 1) (c :: rest) = some ([], stop)) :
    quotedRun true (cs.flatMap doubleChar ++ c :: rest) = some (cs, stop) := by
  have hlength := length_le_flatMap_doubleChar cs
  obtain ⟨n, hn⟩ : ∃ n, (cs.flatMap doubleChar ++ c :: rest).length + 1 = cs.length + (n + 1) :=
    ⟨(cs.flatMap doubleChar ++ c :: rest).length - cs.length, by
      rw [List.length_append]
      omega⟩
  rw [quotedRun, if_pos rfl, hn, doubleRun_flatMap h, hstop, Option.map_some]
  dsimp only
  rw [List.append_nil]

/-- A text in double quotes is read back. -/
theorem readQuoted_double {cs rest : List Char} {fuel : Nat} (hfuel : cs.length < fuel) {p : Place}
    (hrest : p.rest = cs.flatMap doubleChar ++ '"' :: rest) (hcolumn : 0 < p.column) :
    readQuoted true fuel p = some (cs, p.past (cs.flatMap doubleChar ++ ['"']) rest) := by
  induction hlength : cs.length using Nat.strongRecOn generalizing cs fuel p with
  | ind length ih =>
    obtain ⟨fuel, rfl⟩ : ∃ m, fuel = m + 1 := ⟨fuel - 1, by omega⟩
    obtain ⟨u, g, v, hs⟩ := exists_stretches (· == ' ') cs
    have hmark := Place.atDocumentMark_of_column hcolumn
    have hne : p.rest ≠ [] := by
      rw [hrest]
      exact List.append_ne_nil_of_right_ne_nil _ (List.cons_ne_nil _ _)
    have hg : g = spaces g.length :=
      List.eq_replicate_iff.2 ⟨rfl, fun x hx => beq_iff_eq.1 (hs.gap x hx)⟩
    generalize g.length = k at hg
    subst hg
    cases k with
    | zero =>
      -- the last word ends with the quote
      obtain rfl : u = cs := by rw [hs.text, hs.last rfl]; simp [spaces]
      refine readQuoted_close hmark (by rw [hrest, List.append_assoc]; rfl) hne ?_
      rw [hrest]
      exact quotedRun_double hs.word fun _ => rfl
    | succ k =>
      -- another word may follow behind spaces
      have htext : cs.flatMap doubleChar =
          u.flatMap doubleChar ++ (spaces (k + 1) ++ v.flatMap doubleChar) := by
        rw [hs.text, List.flatMap_append, List.flatMap_append, flatMap_doubleChar_spaces]
      rw [htext, List.append_assoc, List.append_assoc] at hrest
      have hnonempty : cs ≠ [] := by
        rw [hs.text]
        exact List.append_ne_nil_of_right_ne_nil _ (List.cons_ne_nil _ _)
      have hshort := hs.length_lt hnonempty
      have hline := (isLine_flatMap_doubleChar u).append (isLine_spaces (k + 1))
      have hrun : quotedRun true p.rest =
          some (u, .gap, spaces (k + 1) ++ (v.flatMap doubleChar ++ '"' :: rest)) := by
        rw [hrest]
        exact quotedRun_double hs.word fun _ => rfl
      have hword := readQuoted_gap hmark hrest hne hrun (takeWhile_append_of_head?
        isGap_of_mem_spaces (isGap_head_flatMap_doubleChar hs.next rest)) fuel
      have hfuel' : v.length < fuel := by omega
      have hread := ih _ (hlength ▸ hshort) hfuel'
        (p := p.past (u.flatMap doubleChar ++ spaces (k + 1)) _) rfl
        (by rw [Place.past_of_isLine hline]; dsimp only; omega) rfl
      rw [hword, hread, Option.map_some, gapText_spaces, Place.past_past hline.notMem, htext,
        hs.text]
      simp only [List.append_assoc]

/-! ### Single quotes -/

/-- A character in single quotes; a quote is written twice. -/
def singleChar (c : Char) : List Char := if c == '\'' then ['\'', '\''] else [c]

theorem getLast?_flatMap_singleChar (cs : List Char) :
    (cs.flatMap singleChar).getLast? = cs.getLast? := by
  rcases List.eq_nil_or_concat cs with rfl | ⟨cs, c, rfl⟩
  · rfl
  · rw [List.concat_eq_append, List.flatMap_append, List.flatMap_singleton,
      List.getLast?_concat, singleChar]
    split
    case isTrue h =>
      rw [beq_iff_eq.1 h, List.getLast?_append]
      rfl
    case isFalse => exact List.getLast?_concat

/-- A text in single quotes behind the opening one. -/
def singleBody (indent : Nat) (cs : List Char) : List Char :=
  indentLines indent false (cs.flatMap singleChar ++ ['\''])

theorem writeSingle_eq (indent : Nat) (cs : List Char) :
    writeSingle indent cs = '\'' :: singleBody indent cs := by
  have hlast : ((cs.flatMap singleChar).getLast?.map isBreak).getD false =
      cs.getLast?.any isBreak := by
    rw [getLast?_flatMap_singleChar]
    cases cs.getLast? <;> rfl
  rw [singleBody, indentLines_concat indent rfl, hlast, ← List.append_assoc]
  rfl

theorem length_le_singleBody (indent : Nat) (cs : List Char) :
    cs.length ≤ (singleBody indent cs).length := by
  have hwords : cs.length ≤ (cs.flatMap singleChar).length := by
    induction cs with
    | nil => exact Nat.le_refl _
    | cons c cs ih =>
      rw [List.flatMap_cons, List.length_append, List.length_cons, singleChar]
      split
      all_goals
        simp only [List.length_cons, List.length_nil]
        omega
  have hlines := length_le_indentLines indent false (cs.flatMap singleChar ++ ['\''])
  rw [List.length_append] at hlines
  exact Nat.le_trans hwords (Nat.le_of_succ_le hlines)

theorem isLine_flatMap_singleChar {cs : List Char} (h : IsLine cs) :
    IsLine (cs.flatMap singleChar) := by
  intro x hx
  obtain ⟨c, hc, hxc⟩ := List.mem_flatMap.1 hx
  rw [singleChar] at hxc
  split at hxc
  case isTrue =>
    have hquote : x = '\'' := by simpa using hxc
    rw [hquote]
    rfl
  case isFalse =>
    rw [List.mem_singleton.1 hxc]
    exact h c hc

theorem flatMap_singleChar_gap {g : List Char} (h : ∀ x ∈ g, isGap x = true) :
    g.flatMap singleChar = g := by
  induction g with
  | nil => rfl
  | cons c g ih =>
    obtain ⟨hc, hg⟩ := List.forall_mem_cons.1 h
    have hquote : (c == '\'') = false := by
      refine beq_false_of_ne ?_
      rintro rfl
      cases hc
    rw [List.flatMap_cons, ih hg, singleChar, hquote]
    rfl

/-- The characters of a word in single quotes are read one by one. -/
theorem singleRun_flatMap {cs : List Char} (h : ∀ x ∈ cs, isGap x = false) (rest : List Char) :
    singleRun (cs.flatMap singleChar ++ rest) =
      (cs ++ (singleRun rest).1, (singleRun rest).2) := by
  induction cs with
  | nil => rfl
  | cons c cs ih =>
    obtain ⟨hc, hcs⟩ := List.forall_mem_cons.1 h
    rw [List.flatMap_cons, singleChar]
    split
    case isTrue hquote =>
      rw [beq_iff_eq.1 hquote, List.append_assoc]
      simp only [List.cons_append, List.nil_append, singleRun, ih hcs]
    case isFalse hquote =>
      have hquote : c ≠ '\'' := by simpa using hquote
      rw [List.append_assoc, List.singleton_append,
        singleRun.eq_4 _ _ (by simp [hquote]) (by simp [hquote]),
        hc, if_neg Bool.false_ne_true, ih hcs]
      rfl

theorem singleRun_gap {c : Char} (hc : isGap c = true) (rest : List Char) :
    singleRun (c :: rest) = ([], .gap, c :: rest) := by
  have hquote : c ≠ '\'' := by
    rintro rfl
    cases hc
  rw [singleRun.eq_4 _ _ (by simp [hquote]) (by simp [hquote]), if_pos hc]

theorem singleRun_close {rest : List Char} (h : rest.head? ≠ some '\'') :
    singleRun ('\'' :: rest) = ([], .close, rest) := by
  rw [singleRun.eq_3]
  rintro cs rfl
  exact h rfl

/-! ### Gaps in single quotes -/

theorem hasNeighbours_append {test : Char → Char → Bool} {u v : List Char}
    (h : hasNeighbours test (u ++ v) = false) :
    hasNeighbours test u = false ∧ hasNeighbours test v = false := by
  induction u with
  | nil => exact ⟨rfl, h⟩
  | cons a u ih =>
    cases u with
    | nil =>
      refine ⟨rfl, ?_⟩
      cases v with
      | nil => rfl
      | cons b v => exact (Bool.or_eq_false_iff.1 h).2
    | cons b u =>
      obtain ⟨hab, hrest⟩ := Bool.or_eq_false_iff.1 h
      obtain ⟨hu, hv⟩ := ih hrest
      exact ⟨Bool.or_eq_false_iff.2 ⟨hab, hu⟩, hv⟩

/-- The texts that are read back from single quotes: their gaps are spaces and line ends other than
line feeds, and neither kind stands beside the other. -/
structure IsSingle (cs : List Char) : Prop where
  gap : ∀ x ∈ cs, isGap x = true → x = ' ' ∨ (isBreak x = true ∧ breakValue x = x ∧ x ≠ '\n')
  ahead : spaceBreak cs = false
  behind : breakSpace cs = false

theorem isSingle_of_singleSafe {cs : List Char} (h : singleSafe cs = true)
    (hline : '\n' ∉ cs) : IsSingle cs := by
  simp only [singleSafe, Bool.and_eq_true, Bool.not_eq_true', List.all_eq_true] at h
  obtain ⟨⟨hprintable, hspace⟩, hbreak⟩ := h
  refine ⟨fun x hx hgap => ?_, hspace, hbreak⟩
  have hx' := hprintable x hx
  simp only [isGap, isBlank, isBreak, Bool.or_eq_true, beq_iff_eq] at hgap
  rcases hgap with (rfl | rfl) | (((rfl | rfl) | rfl) | rfl) | rfl
  · exact .inl rfl
  · cases hx'
  · exact absurd hx hline
  · cases hx'
  · cases hx'
  · exact .inr (by decide)
  · exact .inr (by decide)

theorem IsSingle.of_append {u v : List Char} (h : IsSingle (u ++ v)) : IsSingle u ∧ IsSingle v :=
  ⟨⟨fun x hx => h.gap x (List.mem_append_left v hx), (hasNeighbours_append h.ahead).1,
      (hasNeighbours_append h.behind).1⟩,
    ⟨fun x hx => h.gap x (List.mem_append_right u hx), (hasNeighbours_append h.ahead).2,
      (hasNeighbours_append h.behind).2⟩⟩

/-- A gap is made of spaces or of line ends. -/
theorem IsSingle.spaces_or_breaks {g : List Char} (h : IsSingle g)
    (hgap : ∀ x ∈ g, isGap x = true) :
    (∃ n, g = spaces n) ∨ (IsBreaks g ∧ g ≠ [] ∧ '\n' ∉ g) := by
  induction g with
  | nil => exact .inl ⟨0, rfl⟩
  | cons a g ih =>
    obtain ⟨-, hg⟩ := h.of_append (u := [a])
    obtain ha | ha := h.gap a List.mem_cons_self (hgap a List.mem_cons_self)
    · obtain ⟨n, rfl⟩ | ⟨hbreaks, hne, -⟩ := ih hg fun x hx => hgap x (List.mem_cons_of_mem a hx)
      · exact .inl ⟨n + 1, by rw [ha, spaces_succ]⟩
      · -- a line end behind a space
        obtain ⟨b, g, rfl⟩ := List.exists_cons_of_ne_nil hne
        have hspace := h.ahead
        rw [spaceBreak, hasNeighbours, ha, (hbreaks b List.mem_cons_self).1] at hspace
        cases hspace
    · obtain ⟨hbreak, hvalue, hline⟩ := ha
      obtain ⟨n, rfl⟩ | ⟨hbreaks, -, hlines⟩ := ih hg fun x hx => hgap x (List.mem_cons_of_mem a hx)
      · cases n with
        | zero => exact .inr ⟨by simpa [spaces, IsBreaks] using And.intro hbreak hvalue,
            List.cons_ne_nil _ _, by simpa [spaces] using hline.symm⟩
        | succ n =>
          -- a space behind a line end
          have hspace := h.behind
          rw [breakSpace, spaces_succ, hasNeighbours, hbreak] at hspace
          cases hspace
      · exact .inr ⟨List.forall_mem_cons.2 ⟨⟨hbreak, hvalue⟩, hbreaks⟩, List.cons_ne_nil _ _, by
          rw [List.mem_cons, not_or]
          exact ⟨hline.symm, hlines⟩⟩

theorem gapText_breaks {bs : List Char} (h : IsBreaks bs) (hne : bs ≠ []) (hline : '\n' ∉ bs)
    (n : Nat) : gapText (bs ++ spaces n) = bs := by
  have hbreaks : breaksIn (bs ++ spaces n) = bs := by
    rw [breaksIn_append h, breaksIn_of_isLine (isLine_spaces n), List.append_nil]
  obtain ⟨b, bs, rfl⟩ := List.exists_cons_of_ne_nil hne
  have hb : b ≠ '\n' := fun hb => hline (hb ▸ List.mem_cons_self)
  unfold gapText
  rw [hbreaks]
  split
  case h_1 heq => cases heq
  case h_2 heq => exact absurd (List.cons.inj heq).1 hb
  case h_3 heq => exact absurd (List.cons.inj heq).1 hb
  case h_4 => rfl

theorem exists_cons_flatMap_singleChar {cs : List Char} (h : cs.head?.any isGap = false) :
    ∃ c w, cs.flatMap singleChar ++ ['\''] = c :: w ∧ isGap c = false := by
  cases cs with
  | nil => exact ⟨'\'', [], rfl, rfl⟩
  | cons c cs =>
    rw [List.flatMap_cons, singleChar]
    split
    case isTrue => exact ⟨'\'', _, rfl, rfl⟩
    case isFalse => exact ⟨c, _, rfl, h⟩

theorem isGap_head_singleBody {cs : List Char} (h : cs.head?.any isGap = false) (indent : Nat)
    (rest : List Char) : (singleBody indent cs ++ rest).head?.any isGap = false := by
  obtain ⟨c, w, hcons, hc⟩ := exists_cons_flatMap_singleChar h
  rw [List.head?_append, singleBody, head?_indentLines, hcons]
  exact hc

section

variable {indent : Nat} {cs u g v : List Char}

/-- The last word stands before the closing quote. -/
theorem singleBody_word (hu : IsLine u) (indent : Nat) :
    singleBody indent u = u.flatMap singleChar ++ ['\''] := by
  rw [singleBody, indentLines_line indent (isLine_flatMap_singleChar hu)]
  rfl

/-- A gap of spaces is written as it is, and behind a gap of line ends the next line is indented. -/
theorem exists_gap_singleBody (h : IsSingle cs) (hs : Stretches isGap cs u g v) (hline : IsLine u)
    (indent : Nat) : ∃ g',
      singleBody indent cs = u.flatMap singleChar ++ (g' ++ singleBody indent v) ∧
      gapText g' = g ∧ (∀ x ∈ g', isGap x = true) ∧ '\r' ∉ g' ∧
      ∀ line column, 0 < indent → 0 < column → 0 < (Place.advance line column g').2 := by
  have hsplit : singleBody indent cs =
      u.flatMap singleChar ++ indentLines indent false (g ++ (v.flatMap singleChar ++ ['\''])) := by
    rw [singleBody, hs.text, List.flatMap_append, List.flatMap_append,
      flatMap_singleChar_gap hs.gap, List.append_assoc, List.append_assoc,
      indentLines_line indent (isLine_flatMap_singleChar hline)]
  have hg : IsSingle g := by
    rw [hs.text] at h
    exact h.of_append.2.of_append.1
  obtain ⟨n, rfl⟩ | ⟨hbreaks, hne, hlines⟩ := hg.spaces_or_breaks hs.gap
  · refine ⟨spaces n, ?_, gapText_spaces n, isGap_of_mem_spaces, (isLine_spaces n).notMem,
      fun line column _ hcolumn => ?_⟩
    · rw [hsplit, indentLines_line indent (isLine_spaces n)]
      rfl
    · rw [Place.advance_of_isLine (isLine_spaces n)]
      exact Nat.lt_of_lt_of_le hcolumn (Nat.le_add_right ..)
  · have hfresh : (v.flatMap singleChar ++ ['\'']).head?.all isBreak = false := by
      obtain ⟨c, w, hcons, hc⟩ := exists_cons_flatMap_singleChar hs.next
      rw [hcons]
      exact isBreak_of_isGap_eq_false hc
    refine ⟨g ++ spaces indent, ?_, gapText_breaks hbreaks hne hlines indent,
      fun x hx => (List.mem_append.1 hx).elim (hs.gap x) (isGap_of_mem_spaces x), ?_,
      fun line column hindent _ => ?_⟩
    · rw [hsplit, indentLines_breaks indent (fun x hx => (hbreaks x hx).1) hne,
        indentLines_fresh indent hfresh, List.append_assoc]
      rfl
    · rw [List.mem_append, not_or]
      exact ⟨hbreaks.notMem, (isLine_spaces indent).notMem⟩
    · rw [Place.advance_breaks hbreaks hne (isLine_spaces indent)]
      simpa [spaces] using hindent

/-- A text in single quotes is read back. -/
theorem readQuoted_single (hindent : 0 < indent) (h : IsSingle cs) {rest : List Char}
    (hquote : rest.head? ≠ some '\'') {fuel : Nat} (hfuel : cs.length < fuel)
    {p : Place} (hrest : p.rest = singleBody indent cs ++ rest) (hcolumn : 0 < p.column) :
    readQuoted false fuel p = some (cs, p.past (singleBody indent cs) rest) := by
  induction hlength : cs.length using Nat.strongRecOn generalizing cs fuel p with
  | ind length ih =>
    obtain ⟨fuel, rfl⟩ : ∃ m, fuel = m + 1 := ⟨fuel - 1, by omega⟩
    obtain ⟨u, g, v, hs⟩ := exists_stretches isGap cs
    have hmark := Place.atDocumentMark_of_column hcolumn
    have hline : IsLine u := fun x hx => isBreak_of_isGap_eq_false (hs.word x hx)
    have hline' := isLine_flatMap_singleChar hline
    by_cases hnil : g = []
    · -- the last word ends with the quote
      obtain rfl : u = cs := by rw [hs.text, hs.last hnil, hnil]; simp
      rw [singleBody_word hline] at hrest ⊢
      refine readQuoted_close hmark hrest (by simp [hrest]) ?_
      rw [hrest, List.append_assoc, quotedRun, if_neg Bool.false_ne_true, singleRun_flatMap hs.word,
        List.singleton_append, singleRun_close hquote, List.append_nil]
    · -- another word may follow behind the gap
      obtain ⟨g', hwritten, hvalue, hgap, hreturn, hdeep⟩ := exists_gap_singleBody h hs hline indent
      have hnext := isGap_head_singleBody hs.next indent rest
      have hv : IsSingle v := by
        rw [hs.text] at h
        exact h.of_append.2.of_append.2
      obtain ⟨c, g'', rfl⟩ : ∃ c g'', g' = c :: g'' := by
        refine List.exists_cons_of_ne_nil ?_
        rintro rfl
        exact hnil hvalue.symm
      rw [hwritten, List.append_assoc, List.append_assoc] at hrest
      have hrun : quotedRun false p.rest =
          some (u, .gap, c :: g'' ++ (singleBody indent v ++ rest)) := by
        rw [hrest, quotedRun, if_neg Bool.false_ne_true, singleRun_flatMap hs.word,
          List.cons_append, singleRun_gap (hgap c List.mem_cons_self), List.append_nil]
      have hword := readQuoted_gap hmark hrest (by simp [hrest]) hrun
        (takeWhile_append_of_head? hgap hnext) fuel
      have hshort : v.length < cs.length := hs.length_lt (by rw [hs.text]; simp [hnil])
      have hfuel' : v.length < fuel := by omega
      have hread := ih _ (hlength ▸ hshort) hv hfuel'
        (p := p.past (u.flatMap singleChar ++ c :: g'') _) rfl
        (by
          rw [Place.past, Place.advance_append hline'.notMem, Place.advance_of_isLine hline']
          exact hdeep _ _ hindent (by omega)) rfl
      have hreturn' : '\r' ∉ u.flatMap singleChar ++ c :: g'' := by
        rw [List.mem_append, not_or]
        exact ⟨hline'.notMem, hreturn⟩
      rw [hword, hread, Option.map_some, hvalue, Place.past_past hreturn', hwritten, hs.text]
      simp only [List.append_assoc]

end

end TripletFacts.Yaml
