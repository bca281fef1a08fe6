import TripletFacts.Proofs.Yaml.Collections
import TripletFacts.Proofs.Yaml.Nodes

/-!
# Mappings are read back

A document is a mapping whose values are scalars, sequences of plain scalars, or mappings again.
Each kind of value is read back in the lines of its key, and a mapping is read back line by line.

## Main definitions

* `Yaml.HasValue`: the text of a value behind its key.
* `Yaml.HasEntries`, `Yaml.HasLines`: lines with keys and values, without and with the indentation
  of the first one.

## Main results

* `Yaml.hasValue_scalar`, `Yaml.hasValue_items`, `Yaml.HasLines.hasValue`: the kinds of values.
* `Yaml.HasValue.entry`, `Yaml.HasLines.append`: the lines of mappings.
* `Yaml.HasLines.ofText?_eq`: a mapping is read back from its lines.
-/

namespace TripletFacts.Yaml

open Lexer (Steps within)

/-! ### Characters -/

theorem isAllowed_of_isPrintable {c : Char} (h : isPrintable c = true) : isAllowed c = true := by
  have hvalid : c.toNat < 0xd800 ∨ (0xdfff < c.toNat ∧ c.toNat < 0x110000) := c.valid
  simp only [isPrintable, Bool.or_eq_true, decide_eq_true_eq, beq_iff_eq] at h
  simp only [isAllowed, Bool.or_eq_true, decide_eq_true_eq, beq_iff_eq]
  obtain ((rfl | h) | h) | h := h
  · simp
  all_goals omega

theorem IsVisible.isAllowed {c : Char} (h : IsVisible c) : isAllowed c = true := by
  obtain ⟨hlow, hhigh⟩ := h
  simp only [Yaml.isAllowed, Bool.or_eq_true, decide_eq_true_eq]
  omega

theorem all_isAllowed_spaces (n : Nat) : (spaces n).all isAllowed = true := by
  simp [spaces, isAllowed]

theorem all_isAllowed_indentLines {cs : List Char} (h : cs.all isAllowed = true) (n : Nat)
    (fresh : Bool) : (indentLines n fresh cs).all isAllowed = true := by
  induction cs generalizing fresh with
  | nil => rfl
  | cons c cs ih =>
    rw [List.all_cons, Bool.and_eq_true] at h
    rw [indentLines]
    split
    case isTrue => rw [List.all_cons, h.1, ih h.2, Bool.and_true]
    case isFalse =>
      rw [List.all_append, List.all_cons, h.1, ih h.2, Bool.and_true, Bool.and_true]
      split
      case isTrue => exact all_isAllowed_spaces n
      case isFalse => rfl

theorem all_isAllowed_flatMap_doubleChar (cs : List Char) :
    (cs.flatMap doubleChar).all isAllowed = true := by
  rw [List.all_flatMap, List.all_eq_true]
  intro c _
  obtain ⟨hchar, -, -, -, hprintable⟩ | ⟨-, e, hchar, he⟩ := doubleChar_cases c
  · rw [hchar, List.all_cons, isAllowed_of_isPrintable hprintable]
    rfl
  · have hvisible : e.all isAllowed = true :=
      List.all_eq_true.2 fun x hx => (he.visible x hx).isAllowed
    rw [hchar, List.all_cons, hvisible]
    rfl

/-- Scalars consist of characters that a document may consist of. -/
theorem all_isAllowed_writeValue (n : Nat) (v : String) :
    (writeValue n v).all isAllowed = true := by
  rw [writeValue]
  obtain hstyle | ⟨hprintable, hstyle⟩ := styleOf_cases v.toList
  · rw [hstyle]
    dsimp only
    rw [writeDouble, List.cons_append, List.all_cons, List.all_append, List.all_append,
      all_isAllowed_flatMap_doubleChar]
    rfl
  · have hallowed : v.toList.all isAllowed = true := by
      rw [List.all_eq_true] at hprintable ⊢
      exact fun x hx => isAllowed_of_isPrintable (hprintable x hx)
    obtain ⟨hstyle, -⟩ | ⟨hstyle, -⟩ | ⟨hstyle, -⟩ := hstyle
    all_goals
      rw [hstyle]
      dsimp only
    · have hheader : (chompingSign v.toList).all isAllowed = true ∧
          (if isLoose v.toList.head? then ['2'] else []).all isAllowed = true ∧
          (if v.toList.getLast?.any isBreak then [] else ['\n']).all isAllowed = true := by
        refine ⟨?_, by split <;> rfl, by split <;> rfl⟩
        rw [chompingSign]
        split
        case h_1 => rfl
        case h_2 => split; rfl; split <;> rfl
      rw [writeLiteral]
      simp only [List.cons_append, List.all_cons, List.all_append, hheader,
        all_isAllowed_indentLines hallowed]
      rfl
    · rw [List.all_append, hallowed]
      rfl
    · have hquotes : (v.toList.flatMap singleChar ++ ['\'']).all isAllowed = true := by
        have hwords : (v.toList.flatMap singleChar).all isAllowed = true := by
          rw [List.all_flatMap, List.all_eq_true]
          intro c hc
          rw [singleChar]
          split
          case isTrue => rfl
          case isFalse => rw [List.all_cons, List.all_eq_true.1 hallowed c hc, List.all_nil]; rfl
        rw [List.all_append, hwords]
        rfl
      rw [writeSingle_eq, List.cons_append, List.all_cons, List.all_append, singleBody,
        all_isAllowed_indentLines hquotes]
      rfl

/-! ### Values -/

/-- The text `w` behind a key in the column `c` is read as a value, up to the next line. -/
structure HasValue (c : Nat) (w : List Char) (node : Node) : Prop where
  gap : w.head?.any isGap = true
  allowed : w.all isAllowed = true
  read : ∃ us, Node.ReadsValue us node ∧
    ∀ ⦃cols : List Nat⦄ ⦃ts : List Token⦄ ⦃p : Place⦄ ⦃m : Nat⦄ ⦃tail : List Char⦄,
      Begins tail → m ≤ c → c < p.column → p.rest = w ++ (spaces m ++ tail) →
      ∃ k s, k ≤ w.length ∧ Steps k (within (c :: cols) ts false p) s ∧
        s.Before (c :: cols) (ts ++ us) m tail

/-- The lines `w` from the column `c` on are read as entries of a mapping, up to the next line that
is not further in. -/
structure HasEntries (c : Nat) (w : List Char) (entries : List (Node × Node)) : Prop where
  word : ∃ x w', w = x :: w' ∧ IsWordChar x
  allowed : w.all isAllowed = true
  read : ∃ ts, Node.ReadsEntries ts entries ∧
    ∀ ⦃cols cols' : List Nat⦄ ⦃us before : List Token⦄ ⦃m : Nat⦄ ⦃tail : List Char⦄ ⦃s : Lexer⦄,
      Enters c cols cols' us → Begins tail → m ≤ c →
      s.Before cols before c (w ++ (spaces m ++ tail)) →
      ∃ k s', k ≤ w.length ∧ Steps k s s' ∧ s'.Before cols' (before ++ (us ++ ts)) m tail

/-! ### Kinds of values -/

theorem hasValue_scalar (c : Nat) (v : String) :
    HasValue c (' ' :: writeValue (c + 2) v) (.scalar none (styleOf v.toList) v) where
  gap := rfl
  allowed := by rw [List.all_cons, all_isAllowed_writeValue]; rfl
  read := by
    have hnode := Node.readsValue_scalar (styleOf v.toList) v.toList
    rw [String.ofList_toList] at hnode
    refine ⟨_, hnode, fun cols ts p m tail htail hm hcolumn hrest => ?_⟩
    obtain ⟨s, hsteps, hbefore⟩ := Lexer.exists_steps_value (n := 1) v htail hm hcolumn hrest
    exact ⟨1, s, by simp, hsteps, hbefore⟩

/-- Texts that are read back as plain scalars. -/
structure IsPlainScalar (cs : List Char) : Prop where
  plain : IsPlain cs
  ne_nil : cs ≠ []
  start : startsMarked cs = false
  allowed : cs.all isAllowed = true

theorem isPlainScalar_of_word {cs : List Char} (hne : cs ≠ []) (h : ∀ x ∈ cs, IsWordChar x) :
    IsPlainScalar cs where
  plain :=
    { gap := fun x hx hgap => by
        rw [(h x hx).isVisible.isGap_eq_false] at hgap
        cases hgap
      mark := fun hmem => absurd (h _ hmem) (by decide)
      first := by
        obtain ⟨c, cs, rfl⟩ := List.exists_cons_of_ne_nil hne
        exact (h c List.mem_cons_self).isVisible.isGap_eq_false
      last := fun hlast => absurd (h _ (List.mem_of_getLast? hlast)) (by decide)
      colon := fun u v huv => absurd (h ':' (by simp [huv])) (by decide)
      comment := ⟨fun hhash => absurd (h _ (List.mem_of_head? hhash)) (by decide),
        fun u v huv => absurd (h '#' (by simp [huv])) (by decide)⟩ }
  ne_nil := hne
  start := by
    obtain ⟨c, cs, rfl⟩ := List.exists_cons_of_ne_nil hne
    exact (h c List.mem_cons_self).startsMarked_eq_false cs
  allowed := List.all_eq_true.2 fun x hx => (h x hx).isVisible.isAllowed

theorem hasValue_plain (c : Nat) {cs : List Char} (h : IsPlainScalar cs) :
    HasValue c (' ' :: (cs ++ ['\n'])) (.scalar none .plain (String.ofList cs)) where
  gap := rfl
  allowed := by
    rw [List.all_cons, List.all_append, h.allowed]
    rfl
  read := by
    refine ⟨_, Node.readsValue_scalar .plain cs, fun cols ts p m tail htail hm hcolumn hrest => ?_⟩
    have hrest' : p.rest = spaces 1 ++ (cs ++ '\n' :: (spaces m ++ tail)) := by
      rw [hrest, List.cons_append, List.append_assoc]
      rfl
    obtain ⟨s, hsteps, hbefore⟩ :=
      Lexer.exists_steps_plain h.plain h.ne_nil h.start htail hm hcolumn hrest'
    exact ⟨1, s, by simp, hsteps, hbefore⟩

theorem hasValue_empty (c : Nat) : HasValue c " []\n".toList (.sequence []) where
  gap := rfl
  allowed := by decide
  read := by
    refine ⟨_, Node.readsValue_empty, fun cols ts p m tail htail hm hcolumn hrest => ?_⟩
    obtain ⟨s, hsteps, hbefore⟩ := Lexer.exists_steps_empty htail hcolumn hrest
    exact ⟨2, s, by decide, hsteps, hbefore⟩

/-- The lines of items that are plain scalars. -/
def itemLines (c : Nat) (items : List (List Char)) : List Char :=
  items.flatMap fun cs => spaces c ++ '-' :: ' ' :: (cs ++ ['\n'])

/-- Items are read line by line. -/
theorem exists_steps_items {c : Nat} (hc : 0 < c) {items : List (List Char)}
    (h : ∀ cs ∈ items, IsPlainScalar cs) {m : Nat} {tail : List Char} (htail : Begins tail)
    (hm : m ≤ c) (cols : List Nat) (ts : List Token) :
    ∃ m' tail', itemLines c items ++ (spaces m ++ tail) = spaces m' ++ tail' ∧ Begins tail' ∧
      m' ≤ c ∧ ∀ s : Lexer, s.Before (c :: cols) ts m' tail' →
        ∃ k s', k ≤ (itemLines c items).length ∧ Steps k s s' ∧
          s'.Before (c :: cols) (ts ++ Node.itemTokens items) m tail := by
  -- the line behind an item is the next item or the line behind all of them
  induction items generalizing ts with
  | nil =>
    exact ⟨m, tail, rfl, htail, hm, fun s hs =>
      ⟨0, s, Nat.le_refl _, .refl s, by rwa [Node.itemTokens, List.flatMap_nil, List.append_nil]⟩⟩
  | cons cs items ih =>
    obtain ⟨hcs, hitems⟩ := List.forall_mem_cons.1 h
    obtain ⟨m', tail', htext, htail', hm', hread⟩ :=
      ih hitems (ts ++ [.blockEntry, .scalar .plain cs])
    have hlines : itemLines c (cs :: items) = spaces c ++ '-' :: ' ' :: (cs ++ ['\n']) ++
        itemLines c items := rfl
    refine ⟨c, '-' :: ' ' :: (cs ++ '\n' :: (spaces m' ++ tail')), ?_, rfl, Nat.le_refl c,
      fun s hs => ?_⟩
    · rw [hlines, List.append_assoc, htext]
      simp
    · obtain ⟨s', hsteps, hbefore⟩ :=
        Lexer.exists_steps_item hcs.plain hcs.ne_nil hcs.start hc htail' hm' hs
      obtain ⟨k, s'', hk, hsteps', hbefore'⟩ := hread s' hbefore
      refine ⟨2 + k, s'', ?_, hsteps.trans hsteps', ?_⟩
      · rw [hlines]
        simp only [List.length_append, List.length_cons]
        omega
      · rwa [List.append_assoc] at hbefore'

theorem hasValue_items {c : Nat} (hc : 0 < c) {items : List (List Char)} (hne : items ≠ [])
    (h : ∀ cs ∈ items, IsPlainScalar cs) : HasValue c ('\n' :: itemLines c items)
      (.sequence (items.map fun cs => .scalar none .plain (String.ofList cs))) where
  gap := rfl
  allowed := by
    rw [List.all_cons, itemLines, List.all_flatMap, Bool.and_eq_true]
    refine ⟨rfl, List.all_eq_true.2 fun cs hcs => ?_⟩
    rw [List.all_append, List.all_cons, List.all_cons, List.all_append, all_isAllowed_spaces,
      (h cs hcs).allowed]
    rfl
  read := by
    refine ⟨_, Node.readsValue_items hne, fun cols ts p m tail htail hm hcolumn hrest => ?_⟩
    obtain ⟨m', tail', htext, htail', -, hread⟩ := exists_steps_items hc h htail hm cols ts
    rw [List.cons_append, htext] at hrest
    obtain ⟨k, s, hk, hsteps, hbefore⟩ := hread _ (Lexer.before_of_newLine htail' hrest false)
    exact ⟨k, s, Nat.le_succ_of_le hk, hsteps, hbefore⟩

/-! ### Lines of mappings -/

section

variable {c : Nat} {w : List Char} {entries : List (Node × Node)}

theorem HasEntries.begins (h : HasEntries c w entries) (v : List Char) : Begins (w ++ v) := by
  obtain ⟨x, w', rfl, hx⟩ := h.word
  exact hx.begins (w' ++ v)

/-- A mapping further in is a value. -/
theorem HasEntries.hasValue {d : Nat} (h : HasEntries d w entries) (hd : c < d) :
    HasValue c ('\n' :: (spaces d ++ w)) (.mapping entries) where
  gap := rfl
  allowed := by
    rw [List.all_cons, List.all_append, all_isAllowed_spaces, h.allowed]
    rfl
  read := by
    obtain ⟨ts, hnode, hread⟩ := h.read
    refine ⟨_, hnode.value, fun cols before p m tail htail hm hcolumn hrest => ?_⟩
    rw [List.cons_append, List.append_assoc] at hrest
    have henter : Enters d (c :: cols) (d :: c :: cols) [.blockMapping] :=
      .open (Int.ofNat_lt.2 hd)
    obtain ⟨k, s, hk, hsteps, hbefore⟩ := hread henter htail
      (Nat.le_trans hm (Nat.le_of_lt hd)) (Lexer.before_of_newLine (h.begins _) hrest false)
    refine ⟨k, s, ?_, hsteps, ?_⟩
    · rw [List.length_cons, List.length_append]
      omega
    · have hclosed := hbefore.close (Nat.lt_of_le_of_lt hm hd)
      simpa using hclosed

/-- A line with a key and its value. -/
theorem HasValue.entry {node : Node} (h : HasValue c w node) {key : String}
    (hkey : IsKey key.toList) :
    HasEntries c (key.toList ++ ':' :: w) [(.scalar none .plain key, node)] where
  word := by
    obtain ⟨x, w', hcons⟩ := List.exists_cons_of_ne_nil hkey.ne_nil
    exact ⟨x, _, by rw [hcons, List.cons_append], hkey.word x (hcons ▸ List.mem_cons_self)⟩
  allowed := by
    have hword : key.toList.all isAllowed = true :=
      List.all_eq_true.2 fun x hx => (hkey.word x hx).isVisible.isAllowed
    rw [List.all_append, List.all_cons, hword, h.allowed]
    rfl
  read := by
    obtain ⟨us, hnode, hread⟩ := h.read
    have hentry := hnode.entry key.toList
    rw [String.ofList_toList] at hentry
    refine ⟨_, hentry, fun cols cols' vs before m tail s henter htail hm hs => ?_⟩
    have hgap : gapNext (w ++ (spaces m ++ tail)) = true := by
      have hw := h.gap
      cases w with
      | nil => cases hw
      | cons x w => exact hw
    rw [List.append_assoc, List.cons_append] at hs
    obtain ⟨p, hp, hcolumn, hsteps⟩ := Lexer.exists_steps_key hkey hgap henter hs
    obtain ⟨cols'', rfl⟩ := henter.exists_eq
    obtain ⟨k, s', hk, hsteps', hbefore⟩ := hread htail hm hcolumn hp
    have hlength := List.length_pos_iff.2 hkey.ne_nil
    refine ⟨2 + k, s', ?_, hsteps.trans hsteps', by simpa using hbefore⟩
    rw [List.length_append, List.length_cons]
    omega

theorem HasEntries.append {v : List Char} {entries' : List (Node × Node)}
    (h : HasEntries c w entries) (h' : HasEntries c v entries') :
    HasEntries c (w ++ (spaces c ++ v)) (entries ++ entries') where
  word := by
    obtain ⟨x, w, rfl, hx⟩ := h.word
    exact ⟨x, _, rfl, hx⟩
  allowed := by
    rw [List.all_append, List.all_append, h.allowed, all_isAllowed_spaces, h'.allowed]
    rfl
  read := by
    obtain ⟨ts, hnode, hread⟩ := h.read
    obtain ⟨us, hnode', hread'⟩ := h'.read
    refine ⟨_, hnode.append hnode', fun cols cols' vs before m tail s henter htail hm hs => ?_⟩
    rw [List.append_assoc, List.append_assoc] at hs
    obtain ⟨k, s', hk, hsteps, hbefore⟩ := hread henter (h'.begins _) (Nat.le_refl c) hs
    obtain ⟨cols'', rfl⟩ := henter.exists_eq
    obtain ⟨l, s'', hl, hsteps', hbefore'⟩ := hread' .stay htail hm hbefore
    refine ⟨k + l, s'', ?_, hsteps.trans hsteps', by simpa using hbefore'⟩
    simp only [List.length_append]
    omega

/-- A mapping is read back from its lines. -/
theorem HasEntries.ofText?_eq (h : HasEntries 0 w entries) :
    Node.ofText? w = some (.mapping entries) := by
  obtain ⟨ts, hnode, hread⟩ := h.read
  have hw : w ++ (spaces 0 ++ []) = w := by simp [spaces]
  have hstart : (Lexer.start w).Before [] [] 0 (w ++ (spaces 0 ++ [])) := by
    rw [hw]
    exact Lexer.before_start (List.append_nil w ▸ h.begins [])
  have henter : Enters 0 [] [0] [.blockMapping] := .open (by decide)
  obtain ⟨k, s, hk, hsteps, hbefore⟩ := hread henter (show Begins [] from rfl)
    (Nat.le_refl 0) hstart
  -- there are no more steps than characters, so that the bound on the steps is not met
  obtain ⟨n, hn⟩ : ∃ n, w.length + 2 = k + (n + 1) := ⟨w.length + 1 - k, by omega⟩
  have htokens : tokens? w = some (.blockMapping :: (ts ++ [.blockEnd, .streamEnd])) := by
    rw [tokens?, if_pos h.allowed, hn, hsteps.run_eq, hbefore.run_eq]
    simp
  rw [Node.ofText?, htokens, Option.bind_some, hnode.ofTokens?_eq]

end

/-! ### Indented lines -/

/-- Lines in the column `c` are read as entries of a mapping. -/
def HasLines (c : Nat) (w : List Char) (entries : List (Node × Node)) : Prop :=
  ∃ v, w = spaces c ++ v ∧ HasEntries c v entries

namespace HasLines

variable {c : Nat} {w v : List Char} {entries entries' : List (Node × Node)}

theorem append (h : HasLines c w entries) (h' : HasLines c v entries') :
    HasLines c (w ++ v) (entries ++ entries') := by
  obtain ⟨w, rfl, hw⟩ := h
  obtain ⟨v, rfl, hv⟩ := h'
  exact ⟨_, List.append_assoc .., hw.append hv⟩

/-- A mapping further in is a value. -/
theorem hasValue {d : Nat} (h : HasLines d w entries) (hd : c < d) :
    HasValue c ('\n' :: w) (.mapping entries) := by
  obtain ⟨w, rfl, hw⟩ := h
  exact hw.hasValue hd

/-- A mapping is read back from its lines. -/
theorem ofText?_eq (h : HasLines 0 w entries) : Node.ofText? w = some (.mapping entries) := by
  obtain ⟨w, rfl, hw⟩ := h
  exact hw.ofText?_eq

end HasLines

end TripletFacts.Yaml
