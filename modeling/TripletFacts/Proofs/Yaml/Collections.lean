import TripletFacts.Proofs.Yaml.Lines

/-!
# Keys and items

A key is read as a plain scalar first. The colon behind it turns the scalar into a key: the token
for a key is put in front of it, and the token for a mapping too if the key stands further in than
the collections that are open. An item begins with a hyphen, in the column of the mapping whose
value the sequence is.

## Main definitions

* `Yaml.IsKey`: words of small letters, digits and underscores that are short enough for keys.

## Main results

* `Yaml.Lexer.exists_steps_key`: a key at the beginning of a line is read up to its value.
* `Yaml.Lexer.exists_steps_item`: an item is read up to the next line.
* `Yaml.Lexer.exists_steps_empty`: an empty sequence is read up to the next line.
-/

namespace TripletFacts.Yaml

/-! ### Words -/

/-- The characters of words and of numbers. -/
def IsWordChar (c : Char) : Prop := ('a' ≤ c ∧ c ≤ 'z') ∨ ('0' ≤ c ∧ c ≤ '9') ∨ c = '_'

/-- Words that are short enough for keys. -/
structure IsKey (cs : List Char) : Prop where
  ne_nil : cs ≠ []
  length_le : cs.length ≤ 1024
  word : ∀ x ∈ cs, IsWordChar x

instance : DecidablePred IsWordChar := fun c =>
  inferInstanceAs (Decidable (('a' ≤ c ∧ c ≤ 'z') ∨ ('0' ≤ c ∧ c ≤ '9') ∨ c = '_'))

/-- Only the characters of the text are looked at. -/
instance (cs : List Char) : Decidable (∀ x ∈ cs, IsWordChar x) := List.decidableBAll IsWordChar cs

instance (cs : List Char) : Decidable (IsKey cs) :=
  decidable_of_iff (cs ≠ [] ∧ cs.length ≤ 1024 ∧ ∀ x ∈ cs, IsWordChar x)
    ⟨fun h => ⟨h.1, h.2.1, h.2.2⟩, fun h => ⟨h.ne_nil, h.length_le, h.word⟩⟩

theorem IsWordChar.ne {c d : Char} (h : IsWordChar c) (hd : ¬IsWordChar d) : c ≠ d := by
  rintro rfl
  exact hd h

theorem IsWordChar.isVisible {c : Char} (h : IsWordChar c) : IsVisible c := by
  obtain ⟨hlow, hhigh⟩ | ⟨hlow, hhigh⟩ | rfl := h
  · have hlow : 'a'.toNat ≤ c.toNat := hlow
    have hhigh : c.toNat ≤ 'z'.toNat := hhigh
    exact ⟨Nat.lt_of_lt_of_le (by decide) hlow, Nat.lt_of_le_of_lt hhigh (by decide)⟩
  · have hlow : '0'.toNat ≤ c.toNat := hlow
    have hhigh : c.toNat ≤ '9'.toNat := hhigh
    exact ⟨Nat.lt_of_lt_of_le (by decide) hlow, Nat.lt_of_le_of_lt hhigh (by decide)⟩
  · decide

theorem IsWordChar.startsMarked_eq_false {c : Char} (h : IsWordChar c) (w : List Char) :
    startsMarked (c :: w) = false := by
  have hcontains : ∀ l : List Char, l.all (¬IsWordChar ·) = true → l.contains c = false := by
    intro l hl
    rw [← Bool.not_eq_true, List.contains_iff_mem]
    exact fun hmem => of_decide_eq_true (List.all_eq_true.1 hl c hmem) h
  rw [startsMarked, hcontains _ (by decide), hcontains _ (by decide)]
  rfl

theorem IsWordChar.begins {c : Char} (h : IsWordChar c) (w : List Char) : Begins (c :: w) := by
  have hgap := h.isVisible.isGap_eq_false
  have hcomment := h.ne (d := '#') (by decide)
  have hmark := h.ne (d := '\ufeff') (by decide)
  simp [Begins, hgap, hcomment, hmark]

theorem IsKey.isLine {cs : List Char} (h : IsKey cs) : IsLine cs := fun x hx =>
  isBreak_of_isGap_eq_false (h.word x hx).isVisible.isGap_eq_false

theorem plainRun_key {cs rest : List Char} (h : ∀ x ∈ cs, IsWordChar x)
    (hrest : gapNext rest = true) : plainRun false (cs ++ ':' :: rest) = some cs := by
  induction cs with
  | nil => simp [plainRun, hrest]
  | cons c cs ih =>
    obtain ⟨hc, hcs⟩ := List.forall_mem_cons.1 h
    have hcolon : (c == ':') = false := beq_false_of_ne (hc.ne (by decide))
    simp only [List.cons_append, plainRun, hc.isVisible.isGap_eq_false, hcolon, ih hcs,
      Bool.false_and, Bool.and_false, Bool.or_false, Bool.false_eq_true, if_false, Option.map_some]

namespace Lexer

section

variable {cols : List Nat} {ts : List Token} {c : Nat} {cs rest : List Char} {p : Place}

/-- The mark of a document is no key. -/
theorem atDocumentMark_key (h : IsKey cs) (hp : p.rest = cs ++ rest) :
    p.atDocumentMark = false := by
  obtain ⟨c, cs, rfl⟩ := List.exists_cons_of_ne_nil h.ne_nil
  have hc := h.word c List.mem_cons_self
  have hmark : isDocumentMark (p.rest.take 3) = false := by
    rw [hp, List.cons_append, List.take_succ_cons, isDocumentMark, Bool.or_eq_false_iff,
      beq_eq_false_iff_ne, beq_eq_false_iff_ne]
    exact ⟨fun hcs => hc.ne (by decide) (List.cons.inj hcs).1,
      fun hcs => hc.ne (by decide) (List.cons.inj hcs).1⟩
  rw [Place.atDocumentMark, hmark, Bool.and_false, Bool.false_and]

/-- A key is read up to its colon. -/
theorem readPlain_key (h : IsKey cs) (hgap : gapNext rest = true) (hp : p.rest = cs ++ ':' :: rest)
    (indent fuel : Nat) :
    readPlain false indent (fuel + 1) [] p = some (cs, false, p.past cs (':' :: rest)) := by
  have hmark := atDocumentMark_key h hp
  have hskip : (p.past cs (':' :: rest)).skip 0 = p.past cs (':' :: rest) := Place.skip_zero _
  have hcolon : (':' :: rest).takeWhile isGap = [] := rfl
  obtain ⟨c, cs, rfl⟩ := List.exists_cons_of_ne_nil h.ne_nil
  have hnext : (p.next? == some '#') = false := by
    rw [Place.next?, hp]
    exact beq_false_of_ne fun hc =>
      (h.word c List.mem_cons_self).ne (by decide) (Option.some.inj hc)
  rw [readPlain, hmark, hnext, Bool.false_or, if_neg Bool.false_ne_true, hp,
    plainRun_key h.word hgap]
  dsimp only
  rw [Place.skip_of_rest hp, Place.rest_past, hcolon, List.length_nil, hskip]
  rfl

theorem tokenAt_colon {s : Lexer} (hmark : s.place.atDocumentMark = false) {next : List Char}
    (hgap : gapNext next = true) : s.tokenAt ':' next = s.mappingValue := by
  rw [tokenAt, hmark, hgap, Bool.or_true]
  rfl

theorem closeBlocks_withKey (s : Lexer) (key : Option KeyMark) (column : Int) :
    (s.withKey key).closeBlocks column = (s.closeBlocks column).withKey key := by
  have hflow : (s.withKey key).inFlow = s.inFlow := rfl
  rw [closeBlocks, closeBlocks, hflow]
  split <;> rfl

/-- The tokens that open a collection at a column, if there is none yet. -/
def opening (cols : List Nat) (c : Nat) : List Token :=
  if indentOf cols < c then [.blockMapping] else []

/-- The open collections when there is one at a column. -/
def opened (cols : List Nat) (c : Nat) : List Nat := if indentOf cols < c then c :: cols else cols

theorem insert_within (us : List Token) (allowed : Bool) (key : Option KeyMark) (t : Token) :
    ((within cols (ts ++ us) allowed p).withKey key).insert ts.length t =
      (within cols (ts ++ t :: us) allowed p).withKey key := by
  have htokens : ((ts ++ us).toArray.extract 0 ts.length).push t ++
      (ts ++ us).toArray.extract ts.length (ts ++ us).toArray.size = (ts ++ t :: us).toArray := by
    apply Array.toList_inj.1
    simp
  rw [insert]
  simp only [within, withKey, htokens]

theorem openBlock_within (us : List Token) (allowed : Bool) (key : Option KeyMark) (c : Nat) :
    ((within cols (ts ++ us) allowed p).withKey key).openBlock c ts.length .blockMapping =
      (within (opened cols c) (ts ++ (opening cols c ++ us)) allowed p).withKey key := by
  have hindent : ((within cols (ts ++ us) allowed p).withKey key).indent = indentOf cols := rfl
  have hflow : ((within cols (ts ++ us) allowed p).withKey key).inFlow = false := rfl
  rw [openBlock, insert_within, hindent, hflow, opened, opening]
  by_cases hin : indentOf cols < c
  · rw [if_pos (by simpa using hin), if_pos hin, if_pos hin]
    rfl
  · rw [if_neg (by simpa using hin), if_neg hin, if_neg hin]
    rfl

/-- The colon turns a scalar into a key. -/
theorem mappingValue_within {k : KeyMark} (hposition : k.position = ts.length) (t : Token)
    (allowed : Bool) : ((within cols (ts ++ [t]) allowed p).withKey (some k)).mappingValue =
      some (within (opened cols k.column) (ts ++ (opening cols k.column ++ [.key, t, .value])) false
        (p.skip 1)) := by
  have hkey : ((within cols (ts ++ [t]) allowed p).withKey (some k)).key = some k := rfl
  rw [mappingValue, hkey]
  dsimp only
  rw [hposition, insert_within, openBlock_within]
  simp [within, withKey, take, allowKey]

/-- The mark of a key stays up to its colon. -/
theorem refresh_key {k : KeyMark} {q : Place} (hline : k.line = q.line)
    (hindex : q.index ≤ k.index + 1024) : KeyMark.refresh q (some k) = some (some k) := by
  have hstale : k.isStale q = false := by
    rw [KeyMark.isStale, decide_eq_false_iff_not]
    omega
  rw [KeyMark.refresh, hstale]
  rfl

/-- The word of a key is read as a plain scalar, in front of which a key may begin. -/
theorem exists_step_word {s : Lexer} (h : IsKey cs) (hgap : gapNext rest = true)
    (hadvance : s.advance = some (within cols ts true p)) (hp : p.rest = cs ++ ':' :: rest) :
    ∃ k : KeyMark, k.position = ts.length ∧ k.line = p.line ∧ k.index = p.index ∧
      k.column = p.column ∧ s.step = some
        ((within cols (ts ++ [.scalar .plain cs]) false (p.past cs (':' :: rest))).withKey
          (some k)) := by
  have hmark := atDocumentMark_key h hp
  have hread := readPlain_key h hgap hp (indentOf cols + 1).toNat p.rest.length
  obtain ⟨k, hk, hposition, hplace⟩ : ∃ k : KeyMark,
      (within cols ts true p).markKey = some ((within cols ts true p).withKey (some k)) ∧
        k.position = ts.length ∧ k.line = p.line ∧ k.index = p.index ∧ k.column = p.column :=
    ⟨_, rfl, rfl, rfl, rfl, rfl⟩
  obtain ⟨hline, hindex, hcolumn⟩ := hplace
  refine ⟨k, hposition, hline, hindex, hcolumn, ?_⟩
  obtain ⟨d, w, hcs⟩ := List.exists_cons_of_ne_nil h.ne_nil
  have hstart := (h.word d (by rw [hcs]; exact List.mem_cons_self)).startsMarked_eq_false
    (w ++ ':' :: rest)
  have hp' : p.rest = d :: (w ++ ':' :: rest) := by rw [hp, hcs, List.cons_append]
  rw [step_of_cons hadvance hp', tokenAt_plain rfl hmark hstart, plainScalar_eq hk hread,
    push_within]
  rfl

/-- The colon behind the word of a key is read. -/
theorem step_colon {k : KeyMark} (hgap : gapNext rest = true) (hp : p.rest = ':' :: rest)
    (hcolumn : 0 < p.column) (hin : indentOf cols ≤ p.column) (hposition : k.position = ts.length)
    (hline : k.line = p.line) (hindex : p.index ≤ k.index + 1024) (t : Token) :
    ((within cols (ts ++ [t]) false p).withKey (some k)).step =
      some (within (opened cols k.column) (ts ++ (opening cols k.column ++ [.key, t, .value])) false
        (p.skip 1)) := by
  have hbegins : Begins (':' :: rest) := rfl
  have hskip : skipGap false (p.rest.length + 1) false p = (false, p) := by
    rw [skipGap_spaces (n := 0) hp hbegins, ← hp]
    rfl
  have hclose := closeBlocks_within_of_le hin (ts ++ [t]) false p
  have hadvance : ((within cols (ts ++ [t]) false p).withKey (some k)).advance =
      some ((within cols (ts ++ [t]) false p).withKey (some k)) :=
    (advance_eq (s := (within cols (ts ++ [t]) false p).withKey (some k)) rfl hskip
      (refresh_key hline hindex)).trans
      (congrArg some ((closeBlocks_withKey _ (some k) _).trans
        (congrArg (·.withKey (some k)) hclose)))
  rw [step_of_cons hadvance hp, tokenAt_colon (Place.atDocumentMark_of_column hcolumn) hgap,
    mappingValue_within hposition]

/-- A key inside of the open collections is read up to its value. -/
theorem exists_steps_key_of_le {s : Lexer} (h : IsKey cs) (hgap : gapNext rest = true)
    (hs : s.Before cols ts c (cs ++ ':' :: rest)) (hle : indentOf cols ≤ c) :
    ∃ p : Place, p.rest = rest ∧ c < p.column ∧ Steps 2 s (within (opened cols c)
      (ts ++ (opening cols c ++ [.key, .scalar .plain cs, .value])) false p) := by
  obtain ⟨p, hp, rfl, hadvance⟩ := hs.advance_eq hle
  obtain ⟨k, hposition, hline, hindex, hcolumn, hfirst⟩ := exists_step_word h hgap hadvance hp
  have hplace := Place.past_of_isLine (p := p) h.isLine (':' :: rest)
  generalize p.past cs (':' :: rest) = q at hfirst hplace
  have hq : q.rest = ':' :: rest := by rw [hplace]
  have hqcolumn : q.column = p.column + cs.length := by rw [hplace]
  have hqindex : q.index = p.index + cs.length := by rw [hplace]
  have hqline : q.line = p.line := by rw [hplace]
  have hlength : 0 < cs.length := List.length_pos_iff.2 h.ne_nil
  have hshort := h.length_le
  have hin : indentOf cols ≤ q.column := by omega
  have hsecond := step_colon hgap hq (by omega) hin hposition (hline.trans hqline.symm) (by omega)
    (.scalar .plain cs)
  rw [hcolumn] at hsecond
  have hskip := Place.skip_one hq
  refine ⟨q.skip 1, by rw [hskip, Place.rest_past], ?_,
    .step hfirst (back?_ne_streamEnd rfl (by simp)) (.single hsecond ?_)⟩
  · have hcolon : IsLine [':'] := by simp [IsLine, isBreak]
    rw [hskip, Place.past_of_isLine hcolon]
    dsimp only [List.length_singleton]
    omega
  · have htokens : ts ++ (opening cols p.column ++ [.key, .scalar .plain cs, .value]) =
        ts ++ (opening cols p.column ++ [.key, .scalar .plain cs]) ++ [.value] := by simp
    rw [htokens]
    exact back?_ne_streamEnd rfl (by simp)

/-- A key at the beginning of a line is read up to its value. -/
theorem exists_steps_key {s : Lexer} {cols' : List Nat} {us : List Token} (h : IsKey cs)
    (hgap : gapNext rest = true) (henter : Enters c cols cols' us)
    (hs : s.Before cols ts c (cs ++ ':' :: rest)) :
    ∃ p : Place, p.rest = rest ∧ c < p.column ∧
      Steps 2 s (within cols' (ts ++ (us ++ [.key, .scalar .plain cs, .value])) false p) := by
  -- by induction on the collections that the column of the key closes
  induction henter generalizing ts with
  | @stay cols =>
    have hnot : ¬indentOf (c :: cols) < c := Int.lt_irrefl _
    have hsteps := exists_steps_key_of_le h hgap hs (Int.le_refl _)
    rwa [opened, opening, if_neg hnot, if_neg hnot] at hsteps
  | «open» hlt =>
    have hsteps := exists_steps_key_of_le h hgap hs (Int.le_of_lt hlt)
    rwa [opened, opening, if_pos hlt, if_pos hlt] at hsteps
  | close hlt _ ih =>
    obtain ⟨p, hp, hcolumn, hsteps⟩ := ih (hs.close hlt)
    exact ⟨p, hp, hcolumn, by rwa [List.append_assoc] at hsteps⟩

/-! ### Items -/

theorem tokenAt_hyphen {s : Lexer} (hmark : s.place.atDocumentMark = false) {next : List Char}
    (hgap : gapNext next = true) : s.tokenAt '-' next = s.blockEntry := by
  rw [tokenAt, hmark, hgap]
  rfl

/-- An item in the column of the collection around it. -/
theorem blockEntry_within (hcolumn : p.column = c) :
    (within (c :: cols) ts true p).blockEntry =
      some (within (c :: cols) (ts ++ [.blockEntry]) true (p.skip 1)) := by
  have hin : ((within (c :: cols) ts true p).inFlow || (within (c :: cols) ts true p).keyAllowed) =
      true := rfl
  have hstays : (within (c :: cols) ts true p).openBlock (within (c :: cols) ts true p).column
      (within (c :: cols) ts true p).tokens.size .blockSequence = within (c :: cols) ts true p := by
    have hnot : ¬indentOf (c :: cols) < p.column := by
      rw [hcolumn]
      exact Int.lt_irrefl _
    rw [openBlock]
    refine if_neg ?_
    show ¬(true && decide (indentOf (c :: cols) < p.column)) = true
    rw [decide_eq_false hnot]
    exact Bool.false_ne_true
  rw [blockEntry, if_pos hin, hstays]
  simp [within, allowKey, dropKey, take]

/-- An item with a plain scalar is read up to the next line. -/
theorem exists_steps_item {s : Lexer} {m : Nat} {tail : List Char} (h : IsPlain cs) (hne : cs ≠ [])
    (hstart : startsMarked cs = false) (hc : 0 < c) (htail : Begins tail) (hm : m ≤ c)
    (hs : s.Before (c :: cols) ts c ('-' :: ' ' :: (cs ++ '\n' :: (spaces m ++ tail)))) :
    ∃ s', Steps 2 s s' ∧
      s'.Before (c :: cols) (ts ++ [.blockEntry, .scalar .plain cs]) m tail := by
  obtain ⟨p, hp, hcolumn, hadvance⟩ := hs.advance_eq (Int.le_refl c)
  have hmark : p.atDocumentMark = false := Place.atDocumentMark_of_column (by omega)
  have hfirst : s.step = some (within (c :: cols) (ts ++ [.blockEntry]) true (p.skip 1)) := by
    rw [step_of_cons hadvance hp, tokenAt_hyphen hmark rfl, blockEntry_within hcolumn]
  have hline : IsLine ['-'] := by simp [IsLine, isBreak]
  have hskip := Place.skip_one hp
  have hdeep : c < (p.skip 1).column := by
    rw [hskip, Place.past_of_isLine hline, hcolumn]
    exact Nat.lt_succ_self c
  have hrest : (p.skip 1).rest = spaces 1 ++ (cs ++ '\n' :: (spaces m ++ tail)) := by
    rw [hskip, Place.rest_past]
    rfl
  obtain ⟨s', hsecond, hbefore⟩ := exists_steps_plain h hne hstart htail hm hdeep hrest
  refine ⟨s', .step hfirst (back?_ne_streamEnd rfl (by simp)) hsecond, ?_⟩
  rwa [List.append_assoc] at hbefore

/-! ### Empty sequences -/

/-- The state inside of the brackets of a sequence. -/
def withinBrackets (cols : List Nat) (ts : List Token) (p : Place) : Lexer :=
  { within cols ts true p with outerKeys := [none] }

theorem tokenAt_bracket {s : Lexer} (hmark : s.place.atDocumentMark = false) (next : List Char) :
    s.tokenAt '[' next = s.openFlow .flowSequence ∧
      s.tokenAt ']' next = s.closeFlow .flowSequenceEnd := by
  rw [tokenAt, tokenAt, hmark]
  exact ⟨rfl, rfl⟩

theorem openFlow_within : (within cols ts false p).openFlow .flowSequence =
    some (withinBrackets cols (ts ++ [.flowSequence]) (p.skip 1)) := by
  have hkey : (within cols ts false p).markKey = some (within cols ts false p) := rfl
  rw [openFlow, hkey]
  simp [within, withinBrackets, take, allowKey]

theorem closeFlow_withinBrackets : (withinBrackets cols ts p).closeFlow .flowSequenceEnd =
    some (within cols (ts ++ [.flowSequenceEnd]) false (p.skip 1)) := by
  have hkey : (withinBrackets cols ts p).dropKey = some (withinBrackets cols ts p) := rfl
  rw [closeFlow, hkey]
  simp [within, withinBrackets, take, allowKey]

theorem advance_withinBrackets (h : Begins p.rest) :
    (withinBrackets cols ts p).advance = some (withinBrackets cols ts p) := by
  have hin : (withinBrackets cols ts p).inFlow = true := rfl
  have hgap : skipGap true ((withinBrackets cols ts p).place.rest.length + 1)
      (withinBrackets cols ts p).keyAllowed (withinBrackets cols ts p).place = (true, p) :=
    skipGap_spaces (n := 0) rfl h true _ true
  have hkey : KeyMark.refresh p (withinBrackets cols ts p).key = some none := rfl
  have houter : (withinBrackets cols ts p).outerKeys.mapM (KeyMark.refresh p) = some [none] := rfl
  rw [advance]
  simp only [hin, hgap, hkey, houter]
  rfl

/-- An empty sequence is read up to the next line. -/
theorem exists_steps_empty {m : Nat} {tail : List Char} (htail : Begins tail)
    (hcolumn : c < p.column) (hp : p.rest = ' ' :: '[' :: ']' :: '\n' :: (spaces m ++ tail)) :
    ∃ s', Steps 2 (within (c :: cols) ts false p) s' ∧
      s'.Before (c :: cols) (ts ++ [.flowSequence, .flowSequenceEnd]) m tail := by
  obtain ⟨q, hq, hqcolumn, hadvance⟩ := exists_advance_within (n := 1) cols ts false hp rfl
    (Nat.le_of_lt hcolumn)
  have hmark : q.atDocumentMark = false := Place.atDocumentMark_of_column (by omega)
  have hline : IsLine ['['] := by simp [IsLine, isBreak]
  have hskip := Place.skip_one hq
  have hq' : (q.skip 1).rest = ']' :: '\n' :: (spaces m ++ tail) := by rw [hskip, Place.rest_past]
  have hdeep : 0 < (q.skip 1).column := by
    rw [hskip, Place.past_of_isLine hline]
    exact Nat.succ_pos _
  have hskip' := Place.skip_one hq'
  have hadvance' : (withinBrackets (c :: cols) (ts ++ [.flowSequence]) (q.skip 1)).advance =
      some (withinBrackets (c :: cols) (ts ++ [.flowSequence]) (q.skip 1)) :=
    advance_withinBrackets (by rw [hq']; rfl)
  have hfirst : (within (c :: cols) ts false p).step =
      some (withinBrackets (c :: cols) (ts ++ [.flowSequence]) (q.skip 1)) := by
    rw [step_of_cons hadvance hq, (tokenAt_bracket hmark _).1, openFlow_within]
  have hsecond : (withinBrackets (c :: cols) (ts ++ [.flowSequence]) (q.skip 1)).step =
      some (within (c :: cols) (ts ++ [.flowSequence, .flowSequenceEnd]) false
        ((q.skip 1).skip 1)) := by
    rw [step_of_cons hadvance' hq', (tokenAt_bracket (Place.atDocumentMark_of_column hdeep) _).2,
      closeFlow_withinBrackets, List.append_assoc]
    rfl
  have hbefore : (within (c :: cols) (ts ++ [.flowSequence, .flowSequenceEnd]) false
      ((q.skip 1).skip 1)).Before (c :: cols) (ts ++ [.flowSequence, .flowSequenceEnd]) m tail :=
    before_of_newLine htail (by rw [hskip', Place.rest_past]) false
  have htokens : ts ++ [Token.flowSequence, Token.flowSequenceEnd] =
      ts ++ [.flowSequence] ++ [.flowSequenceEnd] := by simp
  refine ⟨_, .step hfirst (back?_ne_streamEnd rfl (by simp)) (.single hsecond ?_), hbefore⟩
  rw [htokens]
  exact back?_ne_streamEnd rfl (by simp)

end

end Lexer

end TripletFacts.Yaml
